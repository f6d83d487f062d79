import AxiamSdk.Errors
import AxiamSdk.Management.Effects

/-! # Applies that are sent to their end

A server that does what it is asked answers every call that the SDK sends. So the only plans that stop
are those with a step that the SDK itself refuses to send.

* `Step.sendable`: the body of the step's request has no open-enum value that the SDK does not know.
* `Exact.finishes`: an apply of sendable steps does not stop. -/

namespace AxiamSdk.Manifest
open PyLib
set_option autoImplicit false

/-- The body of the step's request has no open-enum value that the SDK does not know. -/
def Step.sendable : Step → Bool
  | .grantPermission _ _ _ effect _ => effect.all (· ∈ knownEffects)
  | .createNetworkSegment _ body => decide (body.kind ∈ knownSegmentKinds)
  | .createNetworkProfile _ profile => profile.known
  | .replaceNetworkProfile _ _ profile => profile.known
  | _ => true

theorem request_sendable {r : Resolved} {step : Step} {call : Call} {record : Record}
    (h : request r step = .ok (some (call, record))) : call.sendable = step.sendable := by
  cases step with
  | noop | rebindRole => cases h
  | createResource | createPermission | createRole | createGroup | createUser | createServiceAccount
  | replaceNetworkPolicy | createNetworkSegment =>
    cases h
    rfl
  | updateResource | createScope | updatePermission | updateRole | updateGroup | updateUser
  | updateServiceAccount | replaceNetworkSegment =>
    obtain ⟨_, -, h⟩ := bind_ok h
    cases h
    rfl
  | addGroupMember | createNetworkProfile | replaceNetworkProfile =>
    obtain ⟨_, -, h⟩ := bind_ok h
    obtain ⟨_, -, h⟩ := bind_ok h
    cases h
    rfl
  | grantPermission | assignRole =>
    obtain ⟨_, -, h⟩ := bind_ok h
    obtain ⟨_, -, h⟩ := bind_ok h
    obtain ⟨_, -, h⟩ := bind_ok h
    cases h
    rfl

/-- The server, with an answer to the calls that are not sent. -/
def answering (serve : Server TenantData) : Server TenantData := fun t call =>
  if call.sendable then serve t call else (t, .ok ⟨[], 0, []⟩)

section
variable {serve : Server TenantData}

theorem Exact.answers (hserve : Exact serve) : Answers (answering serve) := by
  intro t call
  unfold answering
  split
  · next hsendable =>
    obtain ⟨c, -, hcall⟩ := hserve.performs t call hsendable
    exact ⟨_, congrArg Prod.snd hcall⟩
  · exact ⟨_, rfl⟩

theorem runStep_answering (t : TenantData) (r : Resolved) {step : Step} (h : step.sendable = true) :
    runStep (answering serve) t r step = runStep serve t r step := by
  by_cases hrebind : ∃ key payload, step = .rebindRole key payload
  · obtain ⟨key, payload, rfl⟩ := hrebind
    rfl
  · have hstep : ∀ key payload, step ≠ .rebindRole key payload := fun key payload heq =>
      hrebind ⟨key, payload, heq⟩
    rw [runStep.eq_2 _ _ _ _ hstep, runStep.eq_2 _ _ _ _ hstep]
    cases hrequest : request r step with
    | error e => rfl
    | ok result =>
      obtain _ | ⟨call, record⟩ := result
      · rfl
      · have hcall : answering serve t call = serve t call := if_pos ((request_sendable hrequest).trans h)
        dsimp only
        rw [hcall]

theorem applyStep_answering {repr : PyStr → PyStr} (a : Applied TenantData) {p : Planned}
    (h : p.2.sendable = true) : applyStep (answering serve) repr a p = applyStep serve repr a p := by
  rw [applyStep, applyStep, runStep_answering _ _ h]

theorem execute_answering {repr : PyStr → PyStr} {t : TenantData} {r : Resolved} {steps : List Planned}
    (h : ∀ p ∈ steps, p.2.sendable = true) :
    execute (answering serve) repr t r steps = execute serve repr t r steps := by
  have hfold : ∀ a : Applied TenantData,
      steps.foldl (applyStep (answering serve) repr) a = steps.foldl (applyStep serve repr) a := by
    induction steps with
    | nil => exact fun a => rfl
    | cons p steps ih =>
      intro a
      rw [List.forall_mem_cons] at h
      rw [List.foldl_cons, List.foldl_cons, applyStep_answering a h.1, ih h.2]
  exact hfold _

/-- **A sendable plan is applied to its end.** -/
theorem Exact.finishes (hserve : Exact serve) (repr : PyStr → PyStr) {m : ManagementManifest}
    {snapshot : Snapshot} {steps : List Planned} {r : Resolved} (hplan : Planable m snapshot steps r)
    (hsendable : ∀ p ∈ steps, p.2.sendable = true) (t : TenantData) :
    (execute serve repr t r steps).stopped = false := by
  obtain ⟨hvalid, hambiguous, hcompute, -⟩ := hplan
  obtain ⟨ordered, network, hsec⟩ := compute_ok hvalid.wellFormed hcompute
  have hsupplied := supplied_of_sections hvalid.wellFormed hsec hambiguous
  have hrun := (execute_supplied repr hserve.answers t hsupplied).1
  rwa [execute_answering hsendable] at hrun

end

end AxiamSdk.Manifest
