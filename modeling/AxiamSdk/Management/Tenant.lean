import AxiamSdk.Management.Converged

/-! # A tenant and how a plan reads it (`_read`)

`Tenant` is what the management API serves; `TenantData.read` is the part of it that a plan of a manifest asks
for. A listing is walked to its end, so it is the whole list. -/

namespace AxiamSdk.Manifest
open PyLib
set_option autoImplicit false

/-- `ResolvedPermissionGrant`, its permission by id. -/
structure PermissionGrant where
  permissionId : PyStr
  effect : PyStr
  scopeIds : List PyStr
  deriving DecidableEq

/-- The rows of a table that belong to a key. -/
def below {κ α : Type} [DecidableEq κ] (table : List (κ × α)) (k : κ) : List α :=
  table.filterMap (fun row => if row.1 = k then some row.2 else none)

/-- What a tenant holds. A scope is listed with the id of its resource, a grant and an assignment with
that of the role, and a membership is the id of a group with that of a user. -/
structure TenantData where
  resources : List Resource
  scopeTable : List (PyStr × Scope)
  permissions : List Permission
  roles : List Role
  groups : List Group
  users : List User
  serviceAccounts : List ServiceAccount
  grantTable : List (PyStr × PermissionGrant)
  bindingTable : List ((SubjectKind × PyStr) × RoleAssignment)
  memberTable : List (PyStr × PyStr)
  networkPolicy : Option NetworkPolicy
  networkSegments : List NetworkSegment
  networkProfiles : List NetworkReplyProfile

namespace TenantData

def scopes (t : TenantData) (resourceId : PyStr) : List Scope := below t.scopeTable resourceId
def grants (t : TenantData) (roleId : PyStr) : List PermissionGrant := below t.grantTable roleId
def bindings (t : TenantData) (kind : SubjectKind) (roleId : PyStr) : List RoleAssignment :=
  below t.bindingTable (kind, roleId)
def members (t : TenantData) (groupId : PyStr) : List PyStr := below t.memberTable groupId

end TenantData

/-- Ids of objects: none is empty and no two are equal. -/
abbrev AreIds (ids : List PyStr) : Prop := ([] :: ids).Nodup

/-- An id is that of one object of its kind. -/
structure TenantData.Sound (t : TenantData) : Prop where
  resources : AreIds (t.resources.map Resource.id)
  scopes : AreIds (t.scopeTable.map (fun row => row.2.id))
  permissions : AreIds (t.permissions.map Permission.id)
  roles : AreIds (t.roles.map Role.id)
  groups : AreIds (t.groups.map Group.id)
  users : AreIds (t.users.map User.id)
  serviceAccounts : AreIds (t.serviceAccounts.map ServiceAccount.id)
  networkSegments : AreIds (t.networkSegments.map NetworkSegment.id)

/-- A tenant, as the management API serves it. -/
structure Tenant extends TenantData where
  sound : toTenantData.Sound

/-! ## Reading -/

/-- `_has_core_specs` -/
def hasCoreSpecs (m : ManagementManifest) : Bool :=
  !(m.resources.isEmpty && m.permissions.isEmpty && m.roles.isEmpty && m.groups.isEmpty &&
    m.users.isEmpty && m.serviceAccounts.isEmpty)

/-- `_wanted_scope_resources`, `_wanted_role_ids` and `_wanted_group_ids`: the ids of the objects whose
name the manifest states. -/
def wantedIds {α : Type} (names : List PyStr) (name id : α → PyStr) (objects : List α) : List PyStr :=
  (objects.filter (fun a => name a ∈ names)).map id

/-- One read for each id. -/
def readEach {α : Type} (ids : List PyStr) (get : PyStr → α) : Dict PyStr α :=
  ids.foldl (fun d id => d.set id (get id)) .empty

/-- A listing that is read when the manifest has more than a network section. -/
def listAll {α : Type} (m : ManagementManifest) (l : List α) : List α := if hasCoreSpecs m then l else []

/-- `_read` -/
def TenantData.read (t : TenantData) (m : ManagementManifest) : Snapshot :=
  let roleIds := wantedIds (m.roles.map RoleSpec.name) Role.name Role.id (listAll m t.roles)
  { resources := listAll m t.resources
    scopes := readEach (wantedIds (m.resources.map ResourceSpec.name) Resource.name Resource.id
      (listAll m t.resources)) t.scopes
    permissions := listAll m t.permissions
    roles := listAll m t.roles
    groups := listAll m t.groups
    users := listAll m t.users
    serviceAccounts := listAll m t.serviceAccounts
    roleGrants := readEach roleIds (fun id => (t.grants id).map PermissionGrant.permissionId)
    roleUserBindings := readEach roleIds (t.bindings .user)
    roleGroupBindings := readEach roleIds (t.bindings .group)
    roleServiceAccountBindings := readEach roleIds (t.bindings .serviceAccount)
    groupMembers := readEach (wantedIds (m.groups.map GroupSpec.name) Group.name Group.id
      (listAll m t.groups)) t.members
    networkPolicy := (m.network.bind NetworkSpec.policy).bind (fun _ => t.networkPolicy)
    networkSegments := if (m.network.map NetworkSpec.segments).getD [] = [] then [] else t.networkSegments
    networkProfiles := if (m.network.map NetworkSpec.profiles).getD [] = [] then [] else t.networkProfiles }

theorem get?_readEach {α : Type} (ids : List PyStr) (get : PyStr → α) (id : PyStr) :
    (readEach ids get).get? id = if id ∈ ids then some (get id) else none := by
  have h : ∀ (ids : List PyStr) (d : Dict PyStr α),
      (ids.foldl (fun d id => d.set id (get id)) d).get? id = if id ∈ ids then some (get id) else d.get? id := by
    intro ids
    induction ids with
    | nil => intro d; rfl
    | cons x ids ih =>
      intro d
      rw [List.foldl_cons, ih, Dict.get?_set]
      by_cases hx : x = id
      · subst hx
        simp
      · by_cases hmem : id ∈ ids
        · simp [hmem]
        · simp [hx, Ne.symm hx, hmem]
  exact h ids .empty

theorem listed_readEach {α : Type} (ids : List PyStr) (get : PyStr → List α) (id : PyStr) :
    listed (readEach ids get) (some id) = if id ≠ [] ∧ id ∈ ids then get id else [] := by
  cases id with
  | nil => rfl
  | cons c cs =>
    rw [listed, truthy?]
    dsimp only
    rw [get?_readEach]
    by_cases h : c :: cs ∈ ids
    · simp [h]
    · simp [h]

theorem mem_listed_readEach {α : Type} {ids : List PyStr} {get : PyStr → List α} {id? : Option PyStr}
    {a : α} (h : a ∈ listed (readEach ids get) id?) :
    ∃ id, id? = some id ∧ a ∈ get id ∧ listed (readEach ids get) (some id) = get id := by
  cases id? with
  | none => cases h
  | some id =>
    rw [listed_readEach] at h
    by_cases hid : id ≠ [] ∧ id ∈ ids
    · rw [if_pos hid] at h
      exact ⟨id, rfl, h, by rw [listed_readEach, if_pos hid]⟩
    · rw [if_neg hid] at h
      cases h

theorem listAll_eq {α : Type} {m : ManagementManifest} (h : hasCoreSpecs m = true) (l : List α) :
    listAll m l = l := if_pos h

theorem core_of_resource {m : ManagementManifest} {s : ResourceSpec} (h : s ∈ m.resources) :
    hasCoreSpecs m = true := by
  cases hl : m.resources with
  | nil => rw [hl] at h; cases h
  | cons a l => simp [hasCoreSpecs, hl]

theorem core_of_permission {m : ManagementManifest} {s : PermissionSpec} (h : s ∈ m.permissions) :
    hasCoreSpecs m = true := by
  cases hl : m.permissions with
  | nil => rw [hl] at h; cases h
  | cons a l => simp [hasCoreSpecs, hl]

theorem core_of_role {m : ManagementManifest} {s : RoleSpec} (h : s ∈ m.roles) :
    hasCoreSpecs m = true := by
  cases hl : m.roles with
  | nil => rw [hl] at h; cases h
  | cons a l => simp [hasCoreSpecs, hl]

section Read
variable {m : ManagementManifest} (t : TenantData)

theorem read_bindings (kind : SubjectKind) : (t.read m).bindings kind =
    readEach (wantedIds (m.roles.map RoleSpec.name) Role.name Role.id (listAll m t.roles)) (t.bindings kind) := by
  cases kind with
  | group => rfl
  | user => rfl
  | serviceAccount => rfl

theorem mem_listAll {α : Type} {l : List α} {a : α} (h : a ∈ listAll m l) : a ∈ l := by
  rw [listAll] at h
  split at h
  · exact h
  · cases h

end Read

end AxiamSdk.Manifest
