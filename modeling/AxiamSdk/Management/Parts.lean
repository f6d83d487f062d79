import AxiamSdk.Errors
import AxiamSdk.Management.Effects

/-! # The parts of a tenant that a step touches

* `Part`, `view`: a kind of objects with the keys resolved for it, or a kind of edges.
* `moves_frame`: a step leaves every part but its own as it is.
* `Unmentioned`: an id that no scope and no role binding refers to. -/

namespace AxiamSdk.Manifest
open PyLib
set_option autoImplicit false

/-! ## Parts -/

inductive Part
  | resource | scope | permission | role | grant | group | user | serviceAccount
  | binding (kind : SubjectKind) | member | network
  deriving DecidableEq

/-- What a part consists of. -/
def View : Part → Type
  | .resource => List Resource × Dict PyStr PyStr
  | .scope => List (PyStr × Scope) × Dict PyStr PyStr
  | .permission => List Permission × Dict PyStr PyStr
  | .role => List Role × Dict PyStr PyStr
  | .grant => List (PyStr × PermissionGrant)
  | .group => List Group × Dict PyStr PyStr
  | .user => List User × Dict PyStr PyStr
  | .serviceAccount => List ServiceAccount × Dict PyStr PyStr
  | .binding _ => List ((SubjectKind × PyStr) × RoleAssignment)
  | .member => List (PyStr × PyStr)
  | .network => (Option NetworkPolicy × List NetworkSegment × List NetworkReplyProfile) ×
      Dict PyStr PyStr × Dict PyStr ℤ

/-- The bindings of one kind of subjects. -/
def TenantData.ofKind (t : TenantData) (kind : SubjectKind) : List ((SubjectKind × PyStr) × RoleAssignment) :=
  t.bindingTable.filter (fun row => row.1.1 = kind)

def view : (k : Part) → ApplyState → View k
  | .resource, x => (x.1.resources, x.2.resources)
  | .scope, x => (x.1.scopeTable, x.2.scopes)
  | .permission, x => (x.1.permissions, x.2.permissions)
  | .role, x => (x.1.roles, x.2.roles)
  | .grant, x => x.1.grantTable
  | .group, x => (x.1.groups, x.2.groups)
  | .user, x => (x.1.users, x.2.users)
  | .serviceAccount, x => (x.1.serviceAccounts, x.2.serviceAccounts)
  | .binding kind, x => x.1.ofKind kind
  | .member, x => x.1.memberTable
  | .network, x => ((x.1.networkPolicy, x.1.networkSegments, x.1.networkProfiles), x.2.networkSegments,
      x.2.networkSegmentVersions)

def Step.part : Step → Option Part
  | .noop _ => none
  | .createResource .. | .updateResource .. => some .resource
  | .createScope .. => some .scope
  | .createPermission .. | .updatePermission .. => some .permission
  | .createRole .. | .updateRole .. => some .role
  | .grantPermission .. => some .grant
  | .createGroup .. | .updateGroup .. => some .group
  | .createUser .. | .updateUser .. => some .user
  | .createServiceAccount .. | .updateServiceAccount .. => some .serviceAccount
  | .assignRole kind .. => some (.binding kind)
  | .rebindRole _ payload => some (.binding payload.subjectKind)
  | .addGroupMember .. => some .member
  | .replaceNetworkPolicy .. | .createNetworkSegment .. | .replaceNetworkSegment ..
  | .createNetworkProfile .. | .replaceNetworkProfile .. => some .network

def Call.part : Call → Part
  | .createResource .. | .updateResource .. => .resource
  | .createScope .. => .scope
  | .createPermission .. | .updatePermission .. => .permission
  | .createRole .. | .updateRole .. => .role
  | .grantPermission .. => .grant
  | .createGroup .. | .updateGroup .. => .group
  | .createUser .. | .updateUser .. => .user
  | .createServiceAccount .. | .updateServiceAccount .. => .serviceAccount
  | .assign kind .. | .unassign kind .. => .binding kind
  | .addMember .. => .member
  | .replacePolicy .. | .createSegment .. | .replaceSegment .. | .createProfile .. | .replaceProfile .. => .network

/-- The part whose keys an answer is recorded in. -/
def Record.part : Record → Option Part
  | .nothing => none
  | .resource _ => some .resource
  | .scope _ => some .scope
  | .permission _ => some .permission
  | .role _ => some .role
  | .group _ => some .group
  | .user _ => some .user
  | .serviceAccount _ => some .serviceAccount
  | .segment _ | .segmentVersion _ => some .network

/-! ## One step -/

theorem request_part {r : Resolved} {step : Step} {call : Call} {record : Record}
    (h : request r step = .ok (some (call, record))) :
    step.part = some call.part ∧ ∀ k ∈ record.part, k = call.part := by
  cases step with
  | noop | rebindRole => cases h
  | createResource | createPermission | createRole | createGroup | createUser | createServiceAccount
  | replaceNetworkPolicy | createNetworkSegment =>
    cases h
    simp [Step.part, Call.part, Record.part]
  | updateResource | createScope | updatePermission | updateRole | updateGroup | updateUser
  | updateServiceAccount | replaceNetworkSegment =>
    obtain ⟨_, -, h⟩ := bind_ok h
    cases h
    simp [Step.part, Call.part, Record.part]
  | addGroupMember | createNetworkProfile | replaceNetworkProfile =>
    obtain ⟨_, -, h⟩ := bind_ok h
    obtain ⟨_, -, h⟩ := bind_ok h
    cases h
    simp [Step.part, Call.part, Record.part]
  | grantPermission | assignRole =>
    obtain ⟨_, -, h⟩ := bind_ok h
    obtain ⟨_, -, h⟩ := bind_ok h
    obtain ⟨_, -, h⟩ := bind_ok h
    cases h
    simp [Step.part, Call.part, Record.part]

theorem ofKind_append {t u : TenantData} {kind kind' : SubjectKind} {roleId : PyStr} {a : RoleAssignment}
    (h : u.bindingTable = t.bindingTable ++ [((kind', roleId), a)]) (hne : kind' ≠ kind) :
    u.ofKind kind = t.ofKind kind := by
  rw [TenantData.ofKind, h, List.filter_append]
  simp [TenantData.ofKind, hne]

theorem ofKind_filter {t u : TenantData} {kind : SubjectKind} (kind' : SubjectKind)
    {p : (SubjectKind × PyStr) × RoleAssignment → Bool} (h : u.bindingTable = t.bindingTable.filter p)
    (hp : ∀ row, p row = false → row.1.1 = kind') (hne : kind' ≠ kind) : u.ofKind kind = t.ofKind kind := by
  rw [TenantData.ofKind, h, List.filter_filter, TenantData.ofKind]
  apply List.filter_congr
  intro row _
  cases hrow : p row with
  | true => simp
  | false => simp [hp row hrow, hne]

theorem perform_frame (c : Choices) (t : TenantData) (r : Resolved) {call : Call} {k : Part} (h : call.part ≠ k) :
    view k ((perform c t call).1, r) = view k (t, r) := by
  cases call with
  | assign kind roleId subjectId resourceId inherit tenantScope =>
    cases k with
    | binding kind' => exact ofKind_append rfl (fun he => h (by rw [he]; rfl))
    | _ => rfl
  | unassign kind roleId subjectId resourceId =>
    cases k with
    | binding kind' =>
      refine ofKind_filter kind rfl (fun row hrow => ?_) (fun he => h (by rw [he]; rfl))
      obtain ⟨⟨hkey, -⟩, -⟩ : (row.1 = (kind, roleId) ∧ row.2.subjectId = subjectId) ∧ _ := by
        simpa [and_assoc] using hrow
      rw [hkey]
    | _ => rfl
  | _ => cases k <;> first | rfl | exact absurd rfl h

theorem lookup_ok {α : Type} {d : Dict PyStr α} {key : PyStr} {a : α} (h : lookup d key = .ok a) :
    d.get? key = some a := by
  rw [lookup] at h
  cases hkey : d.get? key with
  | none =>
    rw [hkey] at h
    cases h
  | some b =>
    rw [hkey] at h
    cases h
    rfl

theorem record_frame (t : TenantData) (r : Resolved) (a : Reply) {record : Record} {k : Part}
    (h : record.part ≠ some k) : view k (t, r.record a record) = view k (t, r) := by
  cases record <;> cases k <;> first | rfl | exact absurd rfl h

section Frame
variable {serve : Server TenantData} {x y : ApplyState} {p : Planned} {k : Part}

theorem rebindRole_calls (hserve : Exact serve) {t u : TenantData} {r : Resolved} {b : Rebind}
    (h : rebindRole serve t r b = (u, .ok ())) : ∃ roleId subjectId resourceId c c',
    r.roles.get? b.role = some roleId ∧ (r.subjects b.subjectKind).get? b.subject = some subjectId ∧
    resourceStepId r b.resource = .ok resourceId ∧
    u = (perform c' (perform c t (.unassign b.subjectKind roleId subjectId b.previousResourceId)).1
      (.assign b.subjectKind roleId subjectId resourceId (inheritWire b.inherit) b.tenantScope)).1 := by
  unfold rebindRole at h
  split at h
  · cases congrArg Prod.snd h
  · next roleId resourceId subjectId hids =>
    obtain ⟨i, hrole, hids⟩ := bind_ok hids
    obtain ⟨j, hresource, hids⟩ := bind_ok hids
    obtain ⟨k, hsubject, hids⟩ := bind_ok hids
    cases hids
    obtain ⟨c, -, hunassign⟩ := hserve.performs t (.unassign b.subjectKind roleId subjectId b.previousResourceId) rfl
    rw [hunassign] at h
    dsimp only at h
    obtain ⟨c', -, hassign⟩ := hserve.performs
      (perform c t (.unassign b.subjectKind roleId subjectId b.previousResourceId)).1
      (.assign b.subjectKind roleId subjectId resourceId (inheritWire b.inherit) b.tenantScope) rfl
    rw [hassign] at h
    exact ⟨roleId, subjectId, resourceId, c, c', lookup_ok hrole, lookup_ok hsubject, hresource,
      (congrArg Prod.fst h).symm⟩

theorem moves_rebind (h : Moves serve x p y) {key : PyStr} {b : Rebind} (hp : p.2 = .rebindRole key b) :
    rebindRole serve x.1 x.2 b = (y.1, .ok ()) ∧ y.2 = x.2 := by
  rw [Moves, hp, if_neg (by exact Bool.false_ne_true)] at h
  obtain ⟨secret, h⟩ := h
  rw [runStep] at h
  generalize rebindRole serve x.1 x.2 b = result at h
  obtain ⟨u, e | ⟨⟩⟩ := result
  · cases congrArg Prod.snd h
  · have hstate : u = y.1 := congrArg Prod.fst h
    have hanswer := congrArg Prod.snd h
    simp only [Except.map, Except.ok.injEq, Prod.mk.injEq] at hanswer
    rw [hstate]
    exact ⟨rfl, hanswer.1.symm⟩

/-- **The frame of a step**: it leaves every part but its own as it is. -/
theorem moves_frame (hserve : Exact serve) (h : Moves serve x p y) (hk : p.2.part ≠ some k) :
    view k y = view k x := by
  obtain ⟨t, r⟩ := x
  obtain ⟨u, r'⟩ := y
  cases hnoop : p.2.isNoop with
  | true =>
    obtain ⟨rfl, rfl⟩ := Prod.mk.inj (moves_noop h hnoop)
    rfl
  | false =>
    by_cases hrebind : ∃ key payload, p.2 = .rebindRole key payload
    · obtain ⟨key, b, hstep⟩ := hrebind
      obtain ⟨hrun, hsame⟩ := moves_rebind h hstep
      obtain rfl : r' = r := hsame
      obtain ⟨roleId, subjectId, resourceId, c, c', -, -, -, hu⟩ := rebindRole_calls hserve hrun
      dsimp only at hu
      subst hu
      rw [hstep] at hk
      have hpart : Part.binding b.subjectKind ≠ k := fun he => hk (congrArg some he)
      refine (perform_frame c' _ r' ?_).trans (perform_frame c t r' ?_)
      · exact hpart
      · exact hpart
    · obtain ⟨call, record, c, hrequest, -, hstate, hresolved⟩ := hserve.moves h hnoop
        (fun key payload heq => hrebind ⟨key, payload, heq⟩)
      obtain ⟨hcall, hrecord⟩ := request_part hrequest
      have hpart : call.part ≠ k := fun he => hk (hcall.trans (congrArg some he))
      obtain rfl : u = (perform c t call).1 := hstate
      obtain rfl : r' = r.record (perform c t call).2 record := hresolved
      refine (record_frame _ r _ fun he => hpart (hrecord k he).symm).trans ?_
      exact perform_frame c t r hpart

theorem run_frame (hserve : Exact serve) {steps : List Planned} (hk : ∀ p ∈ steps, p.2.part ≠ some k)
    (h : Run (Moves serve) x steps y) : view k y = view k x :=
  h.invariant_mem (P := fun z => view k z = view k x)
    (fun _ p _ hp hs hmove => (moves_frame hserve hmove (hk p hp)).trans hs) rfl

end Frame

end AxiamSdk.Manifest
