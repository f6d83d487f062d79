import AxiamSdk.Management.Engine

/-! # Applying (`management/manifest/_engine.py`, the acting half)

`execute` runs the planned steps in order and stops at the first failure. A step resolves the keys it
names, makes its wire call and records the id that the call minted. The server is any state machine
that answers calls; the sync and the async client run the same steps. -/

namespace AxiamSdk.Manifest
open PyLib
set_option autoImplicit false

/-! ## Wire calls -/

/-- A request, its keys resolved to ids. A member that is `none` is left out of the body. -/
inductive Call
  | createResource (name resourceType : PyStr) (parentId : Option PyStr) (metadata : Option Metadata)
  | updateResource (id : PyStr) (resourceType : Option PyStr) (metadata : Option Metadata)
  | createScope (resourceId name description : PyStr)
  | createPermission (action description : PyStr)
  | updatePermission (id description : PyStr)
  | createRole (name description : PyStr) (isGlobal : Bool)
  | updateRole (id description : PyStr) (isGlobal : Bool)
  | grantPermission (roleId permissionId : PyStr) (effect : Option PyStr) (scopeIds : List PyStr)
  | createGroup (name description : PyStr)
  | updateGroup (id description : PyStr)
  | createUser (username email : PyStr) (password : Option PyStr)
  | updateUser (id email : PyStr)
  | createServiceAccount (name : PyStr) (description : Option PyStr)
  /-- The description is sent also when it is `None`. -/
  | updateServiceAccount (id : PyStr) (description : Option PyStr)
  | assign (kind : SubjectKind) (roleId subjectId : PyStr) (resourceId : Option PyStr)
      (inherit : Option Bool) (tenantScope : Option (List PyStr))
  | unassign (kind : SubjectKind) (roleId subjectId : PyStr) (resourceId : Option PyStr)
  | addMember (groupId userId : PyStr)
  | replacePolicy (sessionTimeoutMaxSecs version : ℤ)
  | createSegment (body : SegmentCreate)
  | replaceSegment (id : PyStr) (body : SegmentReplace)
  | createProfile (profile : ProfileInput) (segmentId : PyStr) (segmentVersion : ℤ)
  | replaceProfile (segmentId : PyStr) (profile : ProfileInput) (segmentVersion version : ℤ)

/-- What a step reads of an answer. -/
structure Reply where
  id : PyStr
  version : ℤ
  clientSecret : PyStr

/-- What a wire call raises: a `ConflictError` (a 409) or any other exception, with its text. -/
inductive CallError
  | conflict (text : PyStr) (reasonCode : Option PyStr)
  | other (text : PyStr)

def CallError.text : CallError → PyStr
  | .conflict t _ => t
  | .other t => t

/-- A server: what it does with a call, and its answer. -/
abbrev Server (σ : Type) := σ → Call → σ × Except CallError Reply

/-! ## One step -/

/-- What a step raises. -/
inductive StepError
  /-- A key that is not resolved. -/
  | keyError (key : PyStr)
  | call (e : CallError)
  /-- `_RebindFailed` -/
  | rebindFailed (text : PyStr) (restoreSucceeded : Bool) (restoreError : Option PyStr)

/-- `d[key]` -/
def lookup {α : Type} (d : Dict PyStr α) (key : PyStr) : Except StepError α :=
  match d.get? key with
  | some a => .ok a
  | none => .error (.keyError key)

/-- `_resource_step_id` -/
def resourceStepId (r : Resolved) (key : Option PyStr) : Except StepError (Option PyStr) :=
  match truthy? key with
  | none => .ok none
  | some k => (lookup r.resources k).map some

/-- `_inherit_wire` -/
def inheritWire (inherit : Bool) : Option Bool := if inherit then none else some false

/-- The ids of a subject's kind. -/
def Resolved.subjects (r : Resolved) : SubjectKind → Dict PyStr PyStr
  | .group => r.groups
  | .user => r.users
  | .serviceAccount => r.serviceAccounts

/-- What a single call of a step records. -/
inductive Record
  | nothing
  | resource (key : PyStr)
  | scope (key : PyStr)
  | permission (key : PyStr)
  | role (key : PyStr)
  | group (key : PyStr)
  | user (key : PyStr)
  | serviceAccount (key : PyStr)
  | segment (key : PyStr)
  | segmentVersion (key : PyStr)

def Resolved.record (r : Resolved) (a : Reply) : Record → Resolved
  | .nothing => r
  | .resource key => { r with resources := r.resources.set key a.id }
  | .scope key => { r with scopes := r.scopes.set key a.id }
  | .permission key => { r with permissions := r.permissions.set key a.id }
  | .role key => { r with roles := r.roles.set key a.id }
  | .group key => { r with groups := r.groups.set key a.id }
  | .user key => { r with users := r.users.set key a.id }
  | .serviceAccount key => { r with serviceAccounts := r.serviceAccounts.set key a.id }
  | .segment key => { r with
      networkSegments := r.networkSegments.set key a.id
      networkSegmentVersions := r.networkSegmentVersions.set key a.version }
  | .segmentVersion key =>
    { r with networkSegmentVersions := r.networkSegmentVersions.set key a.version }

/-- The branches of `_run` that make one call: the call with its keys resolved, and what its answer
records. A `noop` is not run, and `rebind-role` has its own function. -/
def request (r : Resolved) : Step → Except StepError (Option (Call × Record))
  | .noop _ => .ok none
  | .rebindRole _ _ => .ok none
  | .createResource key name resourceType parent metadata =>
    -- a missing parent key is no error here: `r.resources.get`
    .ok (some (.createResource name resourceType ((truthy? parent).bind r.resources.get?) metadata,
      .resource key))
  | .updateResource key resourceType metadata => do
    let id ← lookup r.resources key
    return some (.updateResource id resourceType metadata, .nothing)
  | .createScope key resource name description => do
    let id ← lookup r.resources resource
    return some (.createScope id name description, .scope key)
  | .createPermission key action description =>
    .ok (some (.createPermission action description, .permission key))
  | .updatePermission key description => do
    let id ← lookup r.permissions key
    return some (.updatePermission id description, .nothing)
  | .createRole key name description isGlobal =>
    .ok (some (.createRole name description isGlobal, .role key))
  | .updateRole key description isGlobal => do
    let id ← lookup r.roles key
    return some (.updateRole id description isGlobal, .nothing)
  | .grantPermission _ role permission effect scopes => do
    let roleId ← lookup r.roles role
    let permissionId ← lookup r.permissions permission
    let scopeIds ← scopes.mapM (lookup r.scopes)
    return some (.grantPermission roleId permissionId effect scopeIds, .nothing)
  | .createGroup key name description => .ok (some (.createGroup name description, .group key))
  | .updateGroup key description => do
    let id ← lookup r.groups key
    return some (.updateGroup id description, .nothing)
  | .createUser key username email password =>
    .ok (some (.createUser username email password, .user key))
  | .updateUser key email => do
    let id ← lookup r.users key
    return some (.updateUser id email, .nothing)
  | .createServiceAccount key name description =>
    .ok (some (.createServiceAccount name description, .serviceAccount key))
  | .updateServiceAccount key description => do
    let id ← lookup r.serviceAccounts key
    return some (.updateServiceAccount id description, .nothing)
  | .assignRole kind _ role subject resource inherit => do
    let roleId ← lookup r.roles role
    let subjectId ← lookup (r.subjects kind) subject
    let resourceId ← resourceStepId r resource
    return some (.assign kind roleId subjectId resourceId (inheritWire inherit) none, .nothing)
  | .addGroupMember _ group user => do
    let groupId ← lookup r.groups group
    let userId ← lookup r.users user
    return some (.addMember groupId userId, .nothing)
  | .replaceNetworkPolicy _ secs version => .ok (some (.replacePolicy secs version, .nothing))
  | .createNetworkSegment key body => .ok (some (.createSegment body, .segment key))
  | .replaceNetworkSegment key body => do
    let id ← lookup r.networkSegments key
    return some (.replaceSegment id body, .segmentVersion key)
  | .createNetworkProfile key profile => do
    let id ← lookup r.networkSegments key
    let version ← lookup r.networkSegmentVersions key
    return some (.createProfile profile id version, .nothing)
  | .replaceNetworkProfile key version profile => do
    let id ← lookup r.networkSegments key
    let segmentVersion ← lookup r.networkSegmentVersions key
    return some (.replaceProfile id profile segmentVersion version, .nothing)

def Step.isNoop : Step → Bool
  | .noop _ => true
  | _ => false

theorem bind_ne_ok {α β : Type} {x : Except StepError α} {f : α → Except StepError β} {v : β}
    (hf : ∀ a, f a ≠ .ok v) : (x >>= f) ≠ .ok v := by
  cases x with
  | error e =>
    intro h
    cases h
  | ok a => exact hf a

/-- Only a `noop` and a `rebind-role` have no call of their own. -/
theorem request_ne_none {r : Resolved} {step : Step} (hnoop : step.isNoop = false)
    (hrebind : ∀ key payload, step ≠ .rebindRole key payload) : request r step ≠ .ok none := by
  cases step with
  | noop key => cases hnoop
  | rebindRole key payload => exact absurd rfl (hrebind key payload)
  | createResource | createPermission | createRole | createGroup | createUser | createServiceAccount
  | replaceNetworkPolicy | createNetworkSegment =>
    intro h
    cases h
  | _ =>
    repeat
      refine bind_ne_ok fun _ => ?_
    intro h
    cases h

/-- The text of `_RebindFailed`. -/
def rebindText (assignError : CallError) (restored : Bool) : PyStr :=
  lit "rebinding role failed: " ++ assignError.text ++ lit "; the previous binding was " ++
    (if restored then lit "restored"
      else lit "NOT restored — the subject now holds no such role")

section Run
variable {σ : Type} (serve : Server σ)

/-- `_rebind_role`: unassign, then assign the new shape; when that fails, the previous one again. The
three subject kinds differ in the endpoints alone. -/
def rebindRole (s : σ) (r : Resolved) (p : Rebind) : σ × Except StepError Unit :=
  match (do
    let roleId ← lookup r.roles p.role
    let resourceId ← resourceStepId r p.resource
    let subjectId ← lookup (r.subjects p.subjectKind) p.subject
    return (roleId, resourceId, subjectId)) with
  | .error e => (s, .error e)
  | .ok (roleId, resourceId, subjectId) =>
    -- the first call is outside the `try`
    match serve s (.unassign p.subjectKind roleId subjectId p.previousResourceId) with
    | (s, .error e) => (s, .error (.call e))
    | (s, .ok _) =>
      match serve s
        (.assign p.subjectKind roleId subjectId resourceId (inheritWire p.inherit) p.tenantScope) with
      | (s, .ok _) => (s, .ok ())
      | (s, .error assignError) =>
        match serve s (.assign p.subjectKind roleId subjectId p.previousResourceId
          (inheritWire p.previousInherit) p.tenantScope) with
        | (s, .ok _) => (s, .error (.rebindFailed (rebindText assignError true) true none))
        | (s, .error restoreError) =>
          (s, .error (.rebindFailed (rebindText assignError false) false (some restoreError.text)))

/-- `_run`: one step; the `client_secret` is that of a created service account. -/
def runStep (s : σ) (r : Resolved) (step : Step) : σ × Except StepError (Resolved × Option PyStr) :=
  match step with
  | .rebindRole _ p =>
    let (s, result) := rebindRole serve s r p
    (s, result.map (fun _ => (r, none)))
  | step =>
    match request r step with
    | .error e => (s, .error e)
    | .ok none => (s, .ok (r, none))
    | .ok (some (call, record)) =>
      match serve s call with
      | (s, .error e) => (s, .error (.call e))
      | (s, .ok a) => (s, .ok (r.record a record, match step with
          | .createServiceAccount _ _ _ => some a.clientSecret
          | _ => none))

/-! ## The report -/

inductive Status
  | created | updated | unchanged | failed | notAttempted
  deriving DecidableEq

/-- `StepOutcome` -/
structure StepOutcome where
  status : Status
  message : Option PyStr
  clientSecret : Option PyStr
  restoreSucceeded : Option Bool
  restoreError : Option PyStr
  reasonCode : Option PyStr
  deriving DecidableEq

def StepOutcome.of (status : Status) : StepOutcome := ⟨status, none, none, none, none, none⟩

/-- `str(err)`, given `repr` of a key for a `KeyError`. -/
def StepError.text (repr : PyStr → PyStr) : StepError → PyStr
  | .keyError key => repr key
  | .call e => e.text
  | .rebindFailed text _ _ => text

/-- `_failed_outcome` -/
def failedOutcome (repr : PyStr → PyStr) (e : StepError) : StepOutcome :=
  match e with
  | .rebindFailed text restored error =>
    { StepOutcome.of .failed with message := some text, restoreSucceeded := some restored,
                                  restoreError := error }
  | .call (.conflict text code) =>
    { StepOutcome.of .failed with message := some text, reasonCode := code }
  | e => { StepOutcome.of .failed with message := some (e.text repr) }

/-- `_status_of` -/
def statusOf : Step → Status
  | .updateResource .. | .updatePermission .. | .updateRole .. | .updateGroup .. | .updateUser ..
  | .updateServiceAccount .. | .replaceNetworkPolicy .. | .replaceNetworkSegment ..
  | .replaceNetworkProfile .. | .rebindRole .. => .updated
  | _ => .created

/-- `AppliedStep` -/
abbrev AppliedStep := PlannedAction × StepOutcome

/-- What an `apply` leaves behind: the server, the keys resolved and the report's steps. -/
structure Applied (σ : Type) where
  server : σ
  resolved : Resolved
  stopped : Bool
  steps : List AppliedStep

/-- One round of the loop of `_execute`. -/
def applyStep (repr : PyStr → PyStr) (a : Applied σ) (p : Planned) : Applied σ :=
  if a.stopped then { a with steps := a.steps ++ [(p.1, StepOutcome.of .notAttempted)] }
  else if p.2.isNoop then { a with steps := a.steps ++ [(p.1, StepOutcome.of .unchanged)] }
  else match runStep serve a.server a.resolved p.2 with
    | (s, .error e) =>
      { a with server := s, stopped := true, steps := a.steps ++ [(p.1, failedOutcome repr e)] }
    | (s, .ok (r, secret)) =>
      { a with server := s, resolved := r,
               steps := a.steps ++ [(p.1, { StepOutcome.of (statusOf p.2) with clientSecret := secret })] }

theorem applyStep_run {repr : PyStr → PyStr} {a : Applied σ} {p : Planned} (hs : a.stopped = false)
    (hn : p.2.isNoop = false) : applyStep serve repr a p =
      match runStep serve a.server a.resolved p.2 with
      | (s, .error e) =>
        { a with server := s, stopped := true, steps := a.steps ++ [(p.1, failedOutcome repr e)] }
      | (s, .ok (r, secret)) =>
        { a with server := s, resolved := r,
                 steps := a.steps ++ [(p.1, { StepOutcome.of (statusOf p.2) with clientSecret := secret })] } := by
  rw [applyStep, hs, hn, if_neg Bool.false_ne_true, if_neg Bool.false_ne_true]

/-- `_execute` -/
def execute (repr : PyStr → PyStr) (s : σ) (r : Resolved) (steps : List Planned) : Applied σ :=
  steps.foldl (applyStep serve repr) ⟨s, r, false, []⟩

end Run

end AxiamSdk.Manifest
