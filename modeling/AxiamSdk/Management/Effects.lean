import AxiamSdk.Lib.Runs
import AxiamSdk.Management.KeyResolution
import AxiamSdk.Management.Tenant

/-! # A server that does what it is asked

* `perform`: the effect that a request names, on what a tenant holds.
* `Exact`: a server with exactly that effect, behind the SDK's own refusal of values it does not know.
* `execute_run`: an apply that does not stop is a run of `Moves`. -/

namespace AxiamSdk.Manifest
open PyLib
set_option autoImplicit false

/-! ## Effects -/

/-- Every id that occurs in a tenant, and the empty one. -/
def TenantData.ids (t : TenantData) : List PyStr :=
  [] :: t.resources.flatMap (fun e => e.id :: e.parentId.toList) ++
    t.scopeTable.flatMap (fun row => [row.1, row.2.id]) ++
    t.permissions.map Permission.id ++ t.roles.map Role.id ++ t.groups.map Group.id ++ t.users.map User.id ++
    t.serviceAccounts.map ServiceAccount.id ++
    t.grantTable.flatMap (fun row => row.1 :: row.2.permissionId :: row.2.scopeIds) ++
    t.bindingTable.flatMap (fun row => row.1.2 :: row.2.subjectId :: row.2.resourceId.toList) ++
    t.memberTable.flatMap (fun row => [row.1, row.2]) ++ t.networkSegments.map NetworkSegment.id ++
    t.networkProfiles.map NetworkReplyProfile.segmentId

/-- What the server chooses: the id of a new object, its secret, and what stands for a member that is
left out. -/
structure Choices where
  id : PyStr
  secret : PyStr
  metadata : Json
  filterIds : List PyStr
  enabled : Bool
  terminationAction : PyStr
  dictionary : PyStr

/-- The object of an id, changed. -/
def updateAt {α : Type} (id : α → PyStr) (i : PyStr) (f : α → α) (l : List α) : List α :=
  l.map (fun e => if id e = i then f e else e)

def Resource.updated (resourceType : Option PyStr) (metadata : Option Metadata) (e : Resource) : Resource :=
  { e with resourceType := resourceType.getD e.resourceType,
           metadata := (metadata.map Json.obj).getD e.metadata }

/-- A replacement keeps the identity of the segment and raises its version. -/
def NetworkSegment.replaced (body : SegmentReplace) (e : NetworkSegment) : NetworkSegment :=
  { e with vlanId := body.vlanId, filterIds := body.filterIds, enabled := body.enabled, rank := body.rank,
           version := e.version + 1 }

/-- A profile as a body states it. -/
def ProfileInput.profile (p : ProfileInput) (c : Choices) (segmentId : PyStr) (version : ℤ) :
    NetworkReplyProfile where
  segmentId := segmentId
  sessionTimeoutSecs := p.sessionTimeoutSecs
  terminationAction := p.terminationAction.getD c.terminationAction
  idleTimeoutSecs := p.idleTimeoutSecs
  filterId := p.filterId
  serviceType := p.serviceType
  dictionary := p.dictionary.getD c.dictionary
  version := version

/-- The version of the policy; that of a policy never written is 0. -/
def TenantData.policyVersion (t : TenantData) : ℤ := (t.networkPolicy.map NetworkPolicy.version).getD 0

/-- The version of a segment. -/
def TenantData.segmentVersion (t : TenantData) (id : PyStr) : Option ℤ :=
  (t.networkSegments.find? (fun e => e.id = id)).map NetworkSegment.version

/-- The version of a segment's profile. -/
def TenantData.profileVersion (t : TenantData) (id : PyStr) : Option ℤ :=
  (t.networkProfiles.find? (fun e => e.segmentId = id)).map NetworkReplyProfile.version

/-- **The effect of a call**, and its answer. -/
def perform (c : Choices) (t : TenantData) : Call → TenantData × Reply
  | .createResource name resourceType parentId metadata =>
    ({ t with resources := t.resources ++
        [⟨c.id, name, parentId, resourceType, (metadata.map Json.obj).getD c.metadata⟩] }, ⟨c.id, 0, []⟩)
  | .updateResource i resourceType metadata =>
    ({ t with resources := updateAt Resource.id i (Resource.updated resourceType metadata) t.resources }, ⟨i, 0, []⟩)
  | .createScope resourceId name description =>
    ({ t with scopeTable := t.scopeTable ++ [(resourceId, ⟨c.id, name, description⟩)] }, ⟨c.id, 0, []⟩)
  | .createPermission action description =>
    ({ t with permissions := t.permissions ++ [⟨c.id, action, description⟩] }, ⟨c.id, 0, []⟩)
  | .updatePermission i description =>
    ({ t with
        permissions := updateAt Permission.id i (fun e => { e with description := description }) t.permissions },
      ⟨i, 0, []⟩)
  | .createRole name description isGlobal =>
    ({ t with roles := t.roles ++ [⟨c.id, name, description, isGlobal⟩] }, ⟨c.id, 0, []⟩)
  | .updateRole i description isGlobal =>
    ({ t with
        roles := updateAt Role.id i (fun e => { e with description := description, isGlobal := isGlobal }) t.roles },
      ⟨i, 0, []⟩)
  | .grantPermission roleId permissionId effect scopeIds =>
    ({ t with grantTable := t.grantTable ++ [(roleId, ⟨permissionId, effect.getD (lit "allow"), scopeIds⟩)] },
      ⟨permissionId, 0, []⟩)
  | .createGroup name description =>
    ({ t with groups := t.groups ++ [⟨c.id, name, description⟩] }, ⟨c.id, 0, []⟩)
  | .updateGroup i description =>
    ({ t with groups := updateAt Group.id i (fun e => { e with description := description }) t.groups }, ⟨i, 0, []⟩)
  | .createUser username email _ => ({ t with users := t.users ++ [⟨c.id, username, email⟩] }, ⟨c.id, 0, []⟩)
  | .updateUser i email =>
    ({ t with users := updateAt User.id i (fun e => { e with email := email }) t.users }, ⟨i, 0, []⟩)
  | .createServiceAccount name description =>
    ({ t with serviceAccounts := t.serviceAccounts ++ [⟨c.id, name, description⟩] }, ⟨c.id, 0, c.secret⟩)
  | .updateServiceAccount i description =>
    ({ t with
        serviceAccounts := updateAt ServiceAccount.id i (fun e => { e with description := description })
          t.serviceAccounts }, ⟨i, 0, []⟩)
  | .assign kind roleId subjectId resourceId inherit tenantScope =>
    ({ t with bindingTable := t.bindingTable ++
        [((kind, roleId), ⟨subjectId, resourceId, inherit.getD true, tenantScope⟩)] }, ⟨roleId, 0, []⟩)
  | .unassign kind roleId subjectId resourceId =>
    ({ t with bindingTable := t.bindingTable.filter (fun row =>
        ¬ (row.1 = (kind, roleId) ∧ row.2.subjectId = subjectId ∧ row.2.resourceId = resourceId)) },
      ⟨roleId, 0, []⟩)
  | .addMember groupId userId =>
    ({ t with memberTable := t.memberTable ++ [(groupId, userId)] }, ⟨groupId, 0, []⟩)
  | .replacePolicy secs _ =>
    ({ t with networkPolicy := some ⟨secs, t.policyVersion + 1⟩ }, ⟨[], t.policyVersion + 1, []⟩)
  | .createSegment body =>
    ({ t with networkSegments := t.networkSegments ++
        [⟨c.id, body.siteKey, body.kind, body.name, body.vlanId, body.rank, body.filterIds.getD c.filterIds,
          body.enabled.getD c.enabled, 1⟩] }, ⟨c.id, 1, []⟩)
  | .replaceSegment i body =>
    ({ t with networkSegments := updateAt NetworkSegment.id i (NetworkSegment.replaced body) t.networkSegments },
      ⟨i, (t.segmentVersion i).getD 0 + 1, []⟩)
  | .createProfile p segmentId _ =>
    ({ t with networkProfiles := t.networkProfiles ++ [p.profile c segmentId 1] }, ⟨segmentId, 1, []⟩)
  | .replaceProfile segmentId p _ _ =>
    ({ t with
        networkProfiles := updateAt NetworkReplyProfile.segmentId segmentId
          (fun e => p.profile c segmentId (e.version + 1)) t.networkProfiles }, ⟨segmentId, 0, []⟩)

/-! ## The SDK's own refusal -/

/-- The values of `effect` and `kind` that this SDK knows. -/
def knownEffects : List PyStr := [lit "allow", lit "deny"]
def knownSegmentKinds : List PyStr := [lit "access", lit "quarantine"]

/-- The open-enum members of a profile have values this SDK knows. -/
def ProfileInput.known (p : ProfileInput) : Bool :=
  p.terminationAction.all (· ∈ knownTerminationActions) && p.serviceType.all (· ∈ knownServiceTypes)

/-- `_refuse_unknown_enums`: a body with an open-enum value that this SDK does not know is not sent. -/
def Call.sendable : Call → Bool
  | .grantPermission _ _ effect _ => effect.all (· ∈ knownEffects)
  | .createSegment body => decide (body.kind ∈ knownSegmentKinds)
  | .createProfile p _ _ => p.known
  | .replaceProfile _ p _ _ => p.known
  | _ => true

/-- A server that does exactly what it is asked: a new object has an id that occurs nowhere yet. A body
that the SDK refuses does not reach it. -/
structure Exact (serve : Server TenantData) : Prop where
  performs : ∀ t call, call.sendable = true →
    ∃ c : Choices, c.id ∉ t.ids ∧ serve t call = ((perform c t call).1, .ok (perform c t call).2)
  refuses : ∀ t call, call.sendable = false → ∃ e, serve t call = (t, .error e)

/-! ## One such server -/

/-- An id that is longer than each that occurs. -/
def TenantData.newId (t : TenantData) : PyStr := ch 'x' :: t.ids.flatten

theorem TenantData.newId_fresh (t : TenantData) : t.newId ∉ t.ids := by
  intro h
  have hlength := (List.sublist_flatten_of_mem h).length_le
  rw [TenantData.newId, List.length_cons] at hlength
  omega

/-- The server that gives such an id, and otherwise makes the choices given. -/
def exactServer (c : Choices) : Server TenantData := fun t call =>
  if call.sendable then
    ((perform { c with id := t.newId } t call).1, .ok (perform { c with id := t.newId } t call).2)
  else (t, .error (.other []))

theorem exactServer_exact (c : Choices) : Exact (exactServer c) where
  performs t call h := ⟨{ c with id := t.newId }, t.newId_fresh, if_pos h⟩
  refuses t call h := ⟨.other [], if_neg (by rw [h]; exact Bool.false_ne_true)⟩

/-! ## Moves -/

/-- The state of an apply: what the tenant holds and the keys resolved. -/
abbrev ApplyState := TenantData × Resolved

section Moves
variable {serve : Server TenantData}

/-- One planned step that is executed without an error. -/
def Moves (serve : Server TenantData) (x : ApplyState) (p : Planned) (y : ApplyState) : Prop :=
  if p.2.isNoop then y = x else ∃ secret, runStep serve x.1 x.2 p.2 = (y.1, .ok (y.2, secret))

theorem foldl_stopped {repr : PyStr → PyStr} {steps : List Planned} {a : Applied TenantData}
    (h : a.stopped = true) : (steps.foldl (applyStep serve repr) a).stopped = true := by
  induction steps generalizing a with
  | nil => exact h
  | cons p steps ih =>
    rw [List.foldl_cons]
    apply ih
    rw [applyStep, if_pos h]
    exact h

theorem foldl_run {repr : PyStr → PyStr} {steps : List Planned} {a : Applied TenantData}
    (h : (steps.foldl (applyStep serve repr) a).stopped = false) :
    Run (Moves serve) (a.server, a.resolved) steps
      ((steps.foldl (applyStep serve repr) a).server, (steps.foldl (applyStep serve repr) a).resolved) := by
  induction steps generalizing a with
  | nil => exact Run.nil _
  | cons p steps ih =>
    rw [List.foldl_cons] at h ⊢
    have hgood : a.stopped = false := by
      cases ha : a.stopped with
      | false => rfl
      | true =>
        have hstopped : (applyStep serve repr a p).stopped = true := by
          rw [applyStep, if_pos ha]
          exact ha
        rw [foldl_stopped hstopped] at h
        cases h
    have hnext : (applyStep serve repr a p).stopped = false := by
      cases hs : (applyStep serve repr a p).stopped with
      | false => rfl
      | true =>
        rw [foldl_stopped hs] at h
        cases h
    refine Run.cons ?_ (ih h)
    rw [Moves]
    cases hnoop : p.2.isNoop with
    | true =>
      rw [if_pos rfl, applyStep, hgood, hnoop]
      rfl
    | false =>
      rw [if_neg Bool.false_ne_true]
      rw [applyStep_run serve hgood hnoop] at hnext ⊢
      generalize runStep serve a.server a.resolved p.2 = x at hnext ⊢
      obtain ⟨s, e | ⟨r, secret⟩⟩ := x
      · exact absurd hnext (by simp)
      · exact ⟨secret, rfl⟩

/-- **An apply is a run** of its planned steps. -/
theorem execute_run {repr : PyStr → PyStr} {steps : List Planned} {t : TenantData} {r : Resolved}
    (h : (execute serve repr t r steps).stopped = false) :
    Run (Moves serve) (t, r) steps
      ((execute serve repr t r steps).server, (execute serve repr t r steps).resolved) := foldl_run h

theorem moves_noop {x y : ApplyState} {p : Planned} (h : Moves serve x p y) (hp : p.2.isNoop = true) : y = x := by
  rw [Moves, if_pos hp] at h
  exact h

theorem Exact.moves (hserve : Exact serve) {x y : ApplyState} {p : Planned} (h : Moves serve x p y)
    (hnoop : p.2.isNoop = false) (hrebind : ∀ key payload, p.2 ≠ .rebindRole key payload) :
    ∃ call record c, request x.2 p.2 = .ok (some (call, record)) ∧ c.id ∉ x.1.ids ∧
      y.1 = (perform c x.1 call).1 ∧ y.2 = x.2.record (perform c x.1 call).2 record := by
  rw [Moves, if_neg (by rw [hnoop]; exact Bool.false_ne_true)] at h
  obtain ⟨secret, h⟩ := h
  rw [runStep.eq_2 _ _ _ _ hrebind] at h
  cases hrequest : request x.2 p.2 with
  | error e =>
    rw [hrequest] at h
    have hanswer := congrArg Prod.snd h
    cases hanswer
  | ok result =>
    rw [hrequest] at h
    obtain _ | ⟨call, record⟩ := result
    · exact absurd hrequest (request_ne_none hnoop hrebind)
    · dsimp only at h
      cases hsendable : call.sendable with
      | false =>
        obtain ⟨e, hcall⟩ := hserve.refuses x.1 call hsendable
        rw [hcall] at h
        have hanswer := congrArg Prod.snd h
        cases hanswer
      | true =>
        obtain ⟨c, hfresh, hcall⟩ := hserve.performs x.1 call hsendable
        rw [hcall] at h
        have hstate := congrArg Prod.fst h
        have hanswer := congrArg Prod.snd h
        dsimp only at hstate hanswer
        rw [Except.ok.injEq, Prod.mk.injEq] at hanswer
        exact ⟨call, record, c, rfl, hfresh, hstate.symm, hanswer.1.symm⟩

theorem Exact.performed (hserve : Exact serve) {x y : ApplyState} {p : Planned} {call : Call} {record : Record}
    (h : Moves serve x p y) (hrequest : request x.2 p.2 = .ok (some (call, record))) :
    ∃ c : Choices, c.id ∉ x.1.ids ∧ y.1 = (perform c x.1 call).1 ∧
      y.2 = x.2.record (perform c x.1 call).2 record := by
  have hnoop : p.2.isNoop = false := by
    cases hp : p.2 with
    | noop key =>
      rw [hp] at hrequest
      cases hrequest
    | _ => rfl
  have hrebind : ∀ key payload, p.2 ≠ .rebindRole key payload := by
    intro key payload hp
    rw [hp] at hrequest
    cases hrequest
  obtain ⟨call', record', c, hsent, hfresh, hstate, hresolved⟩ := hserve.moves h hnoop hrebind
  rw [hrequest, Except.ok.injEq, Option.some.injEq, Prod.mk.injEq] at hsent
  obtain ⟨rfl, rfl⟩ := hsent
  exact ⟨c, hfresh, hstate, hresolved⟩

end Moves

end AxiamSdk.Manifest
