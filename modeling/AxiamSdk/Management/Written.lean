import AxiamSdk.Management.Catalogues
import AxiamSdk.Management.Drift
import AxiamSdk.Management.NaturalKeys

/-! # What an apply has written

* `Reconciled`: an apply of a manifest whose specs have distinct natural keys, on what an exact server holds.
* `Reconciled.resources`, `Reconciled.roles`, ..: afterwards every spec has its object.
* `Reconciled.scopes`, `Reconciled.grants`, `Reconciled.members`: and every edge is there. -/

namespace AxiamSdk.Manifest
open PyLib
set_option autoImplicit false

/-- The specs of each kind have distinct natural keys. -/
structure DistinctNames (m : ManagementManifest) : Prop where
  resources : (m.resources.map (fun s => (s.parent, s.name))).Nodup
  permissions : (m.permissions.map PermissionSpec.action).Nodup
  roles : (m.roles.map RoleSpec.name).Nodup
  groups : (m.groups.map GroupSpec.name).Nodup
  users : (m.users.map UserSpec.username).Nodup
  serviceAccounts : (m.serviceAccounts.map ServiceAccountSpec.name).Nodup

/-- Keys of resources and parents are not empty, and metadata is JSON: no NaN and no name twice. -/
structure Statable (m : ManagementManifest) : Prop where
  keys : ∀ spec ∈ m.resources, spec.key ≠ []
  parents : ∀ spec ∈ m.resources, spec.parent ≠ some []
  metadata : ∀ spec ∈ m.resources, ∀ s, spec.metadata = some s → (Json.obj s).NoNaN ∧ (Json.obj s).Distinct

/-- **An apply that has come to its end**: its plan, without a network section, and the run of its stages. -/
structure Reconciled (serve : Server TenantData) (m : ManagementManifest) (t : Tenant) (r : Resolved)
    (ordered : List ResourceSpec) (y : ApplyState) : Prop where
  exact : Exact serve
  wellFormed : WellFormed m
  distinct : DistinctNames m
  statable : Statable m
  perm : ordered.Perm m.resources
  parentsFirst : ParentsFirst (parentOf m) [] (ordered.map ResourceSpec.key)
  resolution : Resolution m (t.read m) r
  unambiguousNames : ambiguousServiceAccounts m (t.read m) = []
  run : Run (Moves serve) (t.toTenantData, r) ((stages m (t.read m) r ordered).flatMap Prod.snd) y

section Written
variable {serve : Server TenantData} {m : ManagementManifest} {t : Tenant} {r : Resolved}
  {ordered : List ResourceSpec} {y : ApplyState}

theorem core_of_group {g : GroupSpec} (h : g ∈ m.groups) : hasCoreSpecs m = true := by
  cases hl : m.groups with
  | nil => rw [hl] at h; cases h
  | cons a l => simp [hasCoreSpecs, hl]

theorem core_of_user {u : UserSpec} (h : u ∈ m.users) : hasCoreSpecs m = true := by
  cases hl : m.users with
  | nil => rw [hl] at h; cases h
  | cons a l => simp [hasCoreSpecs, hl]

theorem core_of_account {s : ServiceAccountSpec} (h : s ∈ m.serviceAccounts) : hasCoreSpecs m = true := by
  cases hl : m.serviceAccounts with
  | nil => rw [hl] at h; cases h
  | cons a l => simp [hasCoreSpecs, hl]

theorem read_permissions {p : PermissionSpec} (h : p ∈ m.permissions) (t : TenantData) :
    (t.read m).permissions = t.permissions := listAll_eq (core_of_permission h) _

theorem read_roles {role : RoleSpec} (h : role ∈ m.roles) (t : TenantData) : (t.read m).roles = t.roles :=
  listAll_eq (core_of_role h) _

theorem read_groups {g : GroupSpec} (h : g ∈ m.groups) (t : TenantData) : (t.read m).groups = t.groups :=
  listAll_eq (core_of_group h) _

theorem read_users {u : UserSpec} (h : u ∈ m.users) (t : TenantData) : (t.read m).users = t.users :=
  listAll_eq (core_of_user h) _

theorem read_resources {s : ResourceSpec} (h : s ∈ m.resources) (t : TenantData) :
    (t.read m).resources = t.resources := listAll_eq (core_of_resource h) _

theorem read_accounts {s : ServiceAccountSpec} (h : s ∈ m.serviceAccounts) (t : TenantData) :
    (t.read m).serviceAccounts = t.serviceAccounts := listAll_eq (core_of_account h) _

/-! ## Catalogues -/

theorem Reconciled.stage (h : Reconciled serve m t r ordered y) {k : Part} {steps : List Planned}
    (hs : (k, steps) ∈ stages m (t.read m) r ordered) :
    ∃ u v, view k u = view k (t.toTenantData, r) ∧ view k v = view k y ∧
      Run (guarded (Moves serve) (fun z _ => Within k (t.toTenantData, r) y z)) u steps v :=
  stage_run h.exact stages_sorted stages_touch h.run hs

/-- The stage of a catalogue is a run over its specs. -/
theorem Reconciled.catalogue_run (h : Reconciled serve m t r ordered y) {Spec Obj : Type} {k : Part}
    {c : Naming Spec Obj PyStr PyStr PyStr} {post : Spec → Option Obj → Obj → Prop} {specs : List Spec}
    {found : Spec → Option Obj} {plan : Spec → Planned} (objects : ApplyState → List Obj × Dict PyStr PyStr)
    (hs : (k, specs.map plan) ∈ stages m (t.read m) r ordered)
    (hview : ∀ z z', view k z = view k z' → objects z = objects z')
    (hstep : ∀ z z' s, s ∈ specs → Within k (t.toTenantData, r) y z → Moves serve z (plan s) z' →
      c.Step post s (found s) (objects z) (objects z')) :
    Run (fun a s b => c.Step post s (found s) a b) (objects (t.toTenantData, r)) specs (objects y) := by
  obtain ⟨u, v, hu, hv, hrun⟩ := h.stage hs
  have hnext : Run (fun a s b => c.Step post s (found s) a b) (objects u) specs (objects v) :=
    hrun.simulate objects plan fun z s z' hmem hz => hstep z z' s hmem hz.2 hz.1
  rwa [hview _ _ hu, hview _ _ hv] at hnext

theorem matchResource_eq {t : TenantData} {d : Dict PyStr PyStr} {spec : ResourceSpec} (hs : spec ∈ m.resources)
    (hne : spec.parent ≠ some []) (hready : resourceNaming.Ready d spec) :
    matchResource (t.read m) d spec = resourceNaming.find d t.resources spec := by
  have hread := read_resources hs t
  cases hparent : spec.parent with
  | none =>
    rw [matchResource_root hparent, findResource, hread, Naming.find]
    congr 1
    funext e
    simp [Naming.Matches, Naming.parentOf, resourceNaming, hparent]
  | some p =>
    obtain ⟨id, hid⟩ := Option.isSome_iff_exists.1 (hready p hparent)
    rw [hparent] at hne
    rw [matchResource_child hparent hid, truthy_parent hne, findResource, hread, Naming.find]
    congr 1
    funext e
    simp [Naming.Matches, Naming.parentOf, resourceNaming, hparent, hid]

theorem Reconciled.ordered_specs (h : Reconciled serve m t r ordered y) : resourceNaming.Ordered ordered := by
  constructor
  · exact (h.perm.map _).nodup_iff.2 h.wellFormed.resourceKeys
  · exact (h.perm.map _).nodup_iff.2 h.distinct.resources
  · intro pre spec post hsplit p hp
    have hs : spec ∈ m.resources := h.perm.mem_iff.1 (by simp [hsplit])
    have hfirst := h.parentsFirst
    rw [hsplit, List.map_append, List.map_cons] at hfirst
    have hparent : parentOf m spec.key = some p := by
      rw [parentOf, resourceSpec?_eq h.wellFormed hs]
      exact hp
    obtain hp | hp := hfirst.mem hparent
    · cases hp
    · exact hp

theorem Reconciled.resources (h : Reconciled serve m t r ordered y) :
    resourceNaming.Inv ResourcePost (matchResource (t.read m) r.resources) ordered []
      (y.1.resources, y.2.resources) := by
  have hmem : ∀ {spec}, spec ∈ ordered → spec ∈ m.resources := fun hs => h.perm.mem_iff.1 hs
  have hstart : resourceNaming.Start (matchResource (t.read m) r.resources) ordered (t.resources, r.resources) := by
    constructor
    · exact (List.nodup_cons.1 t.sound.resources).2
    · exact fun spec hs => h.resolution.resource spec (hmem hs)
    · exact fun spec hs hready => (matchResource_eq (hmem hs) (h.statable.parents spec (hmem hs)) hready).symm
    · intro spec hs hready
      rw [Naming.Ready, not_forall] at hready
      obtain ⟨p, hready⟩ := hready
      rw [Classical.not_imp, Option.not_isSome_iff_eq_none] at hready
      exact matchResource_pending hready.1 hready.2
  have hstage : (Part.resource, ordered.map (fun spec => planResource spec.key spec
      (matchResource (t.read m) r.resources spec))) ∈ stages m (t.read m) r ordered := by
    simp [stages]
  refine hstart.run h.ordered_specs
    (h.catalogue_run (fun z => (z.1.resources, z.2.resources)) hstage (fun _ _ hz => hz) ?_)
  intro z z' spec hs _ hz
  refine resource_step h.exact (h.statable.parents spec (hmem hs)) (fun s hs' => ?_) hz
  obtain ⟨hnan, hdistinct⟩ := h.statable.metadata spec (hmem hs) s hs'
  exact Json.pyEq_self hnan hdistinct

theorem Reconciled.permissions (h : Reconciled serve m t r ordered y) :
    permissionNaming.Inv PermissionPost (matchPermission (t.read m)) m.permissions []
      (y.1.permissions, y.2.permissions) := by
  have hstart : permissionNaming.Start (matchPermission (t.read m)) m.permissions (t.permissions, r.permissions) :=
    flat_start t.sound.permissions (fun p hp => by rw [matchPermission, read_permissions hp]) h.resolution.permission
  refine hstart.run (flat_ordered h.wellFormed.permissionKeys h.distinct.permissions) ?_
  exact h.catalogue_run (k := .permission) (fun z => (z.1.permissions, z.2.permissions)) (by simp [stages])
    (fun _ _ hz => hz) (fun z z' p _ _ hz => permission_step h.exact hz)

theorem Reconciled.roles (h : Reconciled serve m t r ordered y) :
    roleNaming.Inv (RolePost (t.toTenantData, r)) (matchRole (t.read m)) m.roles [] (y.1.roles, y.2.roles) := by
  have hstart : roleNaming.Start (matchRole (t.read m)) m.roles (t.roles, r.roles) :=
    flat_start t.sound.roles (fun s hs => by rw [matchRole, read_roles hs]) h.resolution.role
  refine hstart.run (flat_ordered h.wellFormed.roleKeys h.distinct.roles) ?_
  exact h.catalogue_run (k := .role) (fun z => (z.1.roles, z.2.roles)) (by simp [stages]) (fun _ _ hz => hz)
    (fun z z' s _ hw hz => role_step h.exact hw hz)

theorem Reconciled.groups (h : Reconciled serve m t r ordered y) :
    groupNaming.Inv (GroupPost (t.toTenantData, r)) (matchGroup (t.read m)) m.groups []
      (y.1.groups, y.2.groups) := by
  have hstart : groupNaming.Start (matchGroup (t.read m)) m.groups (t.groups, r.groups) :=
    flat_start t.sound.groups (fun s hs => by rw [matchGroup, read_groups hs]) h.resolution.group
  refine hstart.run (flat_ordered h.wellFormed.groupKeys h.distinct.groups) ?_
  exact h.catalogue_run (k := .group) (fun z => (z.1.groups, z.2.groups)) (by simp [stages]) (fun _ _ hz => hz)
    (fun z z' s _ hw hz => group_step h.exact hw hz)

theorem Reconciled.users (h : Reconciled serve m t r ordered y) :
    userNaming.Inv (UserPost (t.toTenantData, r)) (matchUser (t.read m)) m.users [] (y.1.users, y.2.users) := by
  have hstart : userNaming.Start (matchUser (t.read m)) m.users (t.users, r.users) :=
    flat_start t.sound.users (fun s hs => by rw [matchUser, read_users hs]) h.resolution.user
  refine hstart.run (flat_ordered h.wellFormed.userKeys h.distinct.users) ?_
  exact h.catalogue_run (k := .user) (fun z => (z.1.users, z.2.users)) (by simp [stages]) (fun _ _ hz => hz)
    (fun z z' s _ hw hz => user_step h.exact hw hz)

theorem matchServiceAccount_eq {snapshot : Snapshot} {spec : ServiceAccountSpec}
    (h : ¬ 1 < (serviceAccountMatches snapshot spec).length) : matchServiceAccount snapshot spec =
      snapshot.serviceAccounts.find? (fun s => s.name = spec.name) := by
  rw [← List.head?_filter, matchServiceAccount]
  show _ = (serviceAccountMatches snapshot spec).head?
  generalize serviceAccountMatches snapshot spec = l at h
  obtain _ | ⟨e, _ | ⟨e', es⟩⟩ := l
  · rfl
  · rfl
  · exact absurd (by simp) h

theorem Reconciled.account_run (h : Reconciled serve m t r ordered y) :
    Run (fun a s b => accountNaming.Step (AccountPost (t.toTenantData, r)) s (matchServiceAccount (t.read m) s) a b)
      (t.serviceAccounts, r.serviceAccounts) m.serviceAccounts (y.1.serviceAccounts, y.2.serviceAccounts) :=
  h.catalogue_run (k := .serviceAccount) (fun z => (z.1.serviceAccounts, z.2.serviceAccounts)) (by simp [stages])
    (fun _ _ hz => hz) (fun z z' s _ hw hz => account_step h.exact hw hz)

theorem Reconciled.accounts (h : Reconciled serve m t r ordered y) :
    accountNaming.Inv (AccountPost (t.toTenantData, r)) (matchServiceAccount (t.read m)) m.serviceAccounts []
      (y.1.serviceAccounts, y.2.serviceAccounts) := by
  have hstart : accountNaming.Start (matchServiceAccount (t.read m)) m.serviceAccounts
      (t.serviceAccounts, r.serviceAccounts) := by
    refine flat_start t.sound.serviceAccounts (fun s hs => ?_) h.resolution.serviceAccount
    rw [matchServiceAccount_eq (unambiguous h.unambiguousNames hs), read_accounts hs]
  exact hstart.run (flat_ordered h.wellFormed.serviceAccountKeys h.distinct.serviceAccounts) h.account_run

/-- No account name of the manifest has become ambiguous. -/
theorem Reconciled.still_unambiguous (h : Reconciled serve m t r ordered y) :
    ambiguousServiceAccounts m (y.1.read m) = [] := by
  cases hspecs : m.serviceAccounts with
  | nil =>
    rw [ambiguousServiceAccounts, hspecs]
    rfl
  | cons a l =>
    have ha : a ∈ m.serviceAccounts := by simp [hspecs]
    refine unambiguous_after h.wellFormed h.unambiguousNames ?_ ?_
    · intro s hs s' hs' hkey _ _ hname
      exact hkey (congrArg _ (List.inj_on_of_nodup_map h.distinct.serviceAccounts hs hs' hname))
    · rw [read_accounts ha, read_accounts ha]
      exact List.Perm.of_eq (Naming.run_names h.account_run)

/-! ## Ids that stay -/

theorem Reconciled.resource_kept (h : Reconciled serve m t r ordered y) {spec : ResourceSpec} (hs : spec ∈ m.resources)
    {i : PyStr} (hi : r.resources.get? spec.key = some i) : y.2.resources.get? spec.key = some i := by
  rw [h.resolution.resource spec hs] at hi
  exact h.resources.kept (h.perm.mem_iff.2 hs) hi

theorem Reconciled.permission_kept (h : Reconciled serve m t r ordered y) {p : PermissionSpec} (hp : p ∈ m.permissions)
    {i : PyStr} (hi : r.permissions.get? p.key = some i) : y.2.permissions.get? p.key = some i := by
  rw [h.resolution.permission p hp] at hi
  exact h.permissions.kept hp hi

theorem Reconciled.role_kept (h : Reconciled serve m t r ordered y) {role : RoleSpec} (hrole : role ∈ m.roles)
    {i : PyStr} (hi : r.roles.get? role.key = some i) : y.2.roles.get? role.key = some i := by
  rw [h.resolution.role role hrole] at hi
  exact h.roles.kept hrole hi

theorem Reconciled.group_kept (h : Reconciled serve m t r ordered y) {g : GroupSpec} (hg : g ∈ m.groups)
    {i : PyStr} (hi : r.groups.get? g.key = some i) : y.2.groups.get? g.key = some i := by
  rw [h.resolution.group g hg] at hi
  exact h.groups.kept hg hi

theorem Reconciled.user_kept (h : Reconciled serve m t r ordered y) {u : UserSpec} (hu : u ∈ m.users)
    {i : PyStr} (hi : r.users.get? u.key = some i) : y.2.users.get? u.key = some i := by
  rw [h.resolution.user u hu] at hi
  exact h.users.kept hu hi

/-! ## Edges -/

section Moves
variable {z z' : ApplyState} {snapshot : Snapshot}

theorem scope_moves (hserve : Exact serve) {spec : ResourceSpec} {scope : ScopeSpec} {found : Option Scope}
    (h : Moves serve z (planScope spec scope found) z') : (z' = z ∧ ∃ e, found = some e) ∨
      ∃ id e, z.2.resources.get? spec.key = some id ∧ e.name = scope.name ∧
        z'.1.scopeTable = z.1.scopeTable ++ [(id, e)] := by
  cases found with
  | some e => exact .inl ⟨moves_noop h rfl, e, rfl⟩
  | none =>
    obtain ⟨call, record, c, hrequest, -, hstate, -⟩ := hserve.moves h rfl (fun _ _ hp => by cases hp)
    obtain ⟨id, hid, hrequest⟩ := bind_ok hrequest
    cases hrequest
    refine .inr ⟨id, ⟨c.id, scope.name, scope.description⟩, lookup_ok hid, rfl, ?_⟩
    rw [hstate]
    rfl

theorem grant_moves (hserve : Exact serve) {role : RoleSpec} {g : GrantSpec}
    (h : Moves serve z (planGrant snapshot r role g) z') :
    (z' = z ∧ ∃ id, r.permissions.get? g.permission = some id ∧
      id ∈ listed snapshot.roleGrants (r.roles.get? role.key)) ∨
      ∃ roleId e, z.2.roles.get? role.key = some roleId ∧
        z.2.permissions.get? g.permission = some e.permissionId ∧
        z'.1.grantTable = z.1.grantTable ++ [(roleId, e)] := by
  rw [planGrant] at h
  split at h
  · next hany =>
    obtain ⟨id, hid, hmem⟩ := (Option.any_eq_true _ _).1 hany
    exact .inl ⟨moves_noop h rfl, id, hid, by simpa using hmem⟩
  · obtain ⟨call, record, c, hrequest, -, hstate, -⟩ := hserve.moves h rfl (fun _ _ hp => by cases hp)
    obtain ⟨roleId, hrole, hrequest⟩ := bind_ok hrequest
    obtain ⟨permissionId, hpermission, hrequest⟩ := bind_ok hrequest
    obtain ⟨scopeIds, -, hrequest⟩ := bind_ok hrequest
    cases hrequest
    refine .inr ⟨roleId, ⟨permissionId, g.effect.getD (lit "allow"), scopeIds⟩, lookup_ok hrole,
      lookup_ok hpermission, ?_⟩
    rw [hstate]
    rfl

theorem member_moves (hserve : Exact serve) {u : UserSpec} {g : PyStr}
    (h : Moves serve z (planGroupMember snapshot r u g) z') :
    (z' = z ∧ ∃ id, r.users.get? u.key = some id ∧ id ∈ listed snapshot.groupMembers (r.groups.get? g)) ∨
      ∃ groupId userId, z.2.groups.get? g = some groupId ∧ z.2.users.get? u.key = some userId ∧
        z'.1.memberTable = z.1.memberTable ++ [(groupId, userId)] := by
  rw [planGroupMember] at h
  split at h
  · next hany =>
    obtain ⟨id, hid, hmem⟩ := (Option.any_eq_true _ _).1 hany
    exact .inl ⟨moves_noop h rfl, id, hid, by simpa using hmem⟩
  · obtain ⟨call, record, c, hrequest, -, hstate, -⟩ := hserve.moves h rfl (fun _ _ hp => by cases hp)
    obtain ⟨groupId, hgroup, hrequest⟩ := bind_ok hrequest
    obtain ⟨userId, huser, hrequest⟩ := bind_ok hrequest
    cases hrequest
    refine .inr ⟨groupId, userId, lookup_ok hgroup, lookup_ok huser, ?_⟩
    rw [hstate]
    rfl

end Moves

theorem flatMap_pairs {α β γ : Type} (specs : List α) (edges : α → List β) (plan : α → β → γ) :
    specs.flatMap (fun s => (edges s).map (plan s)) =
      (specs.flatMap (fun s => (edges s).map (Prod.mk s))).map (fun p => plan p.1 p.2) := by
  simp [List.map_flatMap, Function.comp_def]

theorem mem_pairs {α β : Type} {specs : List α} {edges : α → List β} {p : α × β} :
    p ∈ specs.flatMap (fun s => (edges s).map (Prod.mk s)) ↔ p.1 ∈ specs ∧ p.2 ∈ edges p.1 := by
  simp only [List.mem_flatMap, List.mem_map]
  constructor
  · rintro ⟨s, hs, e, he, rfl⟩
    exact ⟨hs, he⟩
  · exact fun h => ⟨p.1, h.1, p.2, h.2, rfl⟩

theorem Reconciled.scopes (h : Reconciled serve m t r ordered y) : ∀ p ∈ scopeSpecs m, ∃ row ∈ y.1.scopeTable,
    y.2.resources.get? p.1.key = some row.1 ∧ row.2.name = p.2.name := by
  have hstage : (Part.scope, (scopeSpecs m).map (fun p => planScope p.1 p.2
      (matchScope (t.read m) r.resources p.1 p.2))) ∈ stages m (t.read m) r ordered := by
    simp [stages]
  obtain ⟨u, v, hu, hv, hrun⟩ := h.stage hstage
  have hstart : u.1.scopeTable = t.scopeTable := congrArg Prod.fst hu
  have hend : v.1.scopeTable = y.1.scopeTable := congrArg Prod.fst hv
  rw [← hend]
  refine (hrun.collects (fun z => z.1.scopeTable)
    (fun p row => y.2.resources.get? p.1.key = some row.1 ∧ row.2.name = p.2.name) ?_ ?_).2
  · rintro z p z' _ ⟨hz, -⟩ row hrow
    obtain ⟨rfl, -⟩ | ⟨id, e, -, -, htable⟩ := scope_moves h.exact hz
    · exact hrow
    · rw [htable]
      exact List.mem_append_left _ hrow
  · rintro z p z' hp ⟨hz, hw⟩
    obtain ⟨-, e, hmatch⟩ | ⟨id, e, hid, hname, htable⟩ := scope_moves h.exact hz
    · left
      obtain ⟨id, hid, hmem, -⟩ := mem_listed_readEach (List.mem_of_find?_eq_some hmatch)
      have hname := List.find?_some hmatch
      obtain ⟨spec, hs, hscope⟩ := List.mem_flatMap.1 hp
      obtain ⟨scope, -, rfl⟩ := List.mem_map.1 hscope
      refine ⟨(id, e), ?_, h.resource_kept hs hid, by simpa using hname⟩
      rw [hstart]
      exact mem_below.1 hmem
    · right
      have hresources : z.2.resources = y.2.resources := congrArg Prod.snd (hw.before .resource (by decide))
      refine ⟨(id, e), ?_, hresources ▸ hid, hname⟩
      rw [htable]
      exact List.mem_append_right _ (List.mem_singleton_self _)

theorem Reconciled.grants (h : Reconciled serve m t r ordered y) : ∀ role ∈ m.roles, ∀ g ∈ role.grants,
    ∃ row ∈ y.1.grantTable, y.2.roles.get? role.key = some row.1 ∧
      y.2.permissions.get? g.permission = some row.2.permissionId := by
  have hstage : (Part.grant, m.roles.flatMap (fun role => role.grants.map (planGrant (t.read m) r role))) ∈
      stages m (t.read m) r ordered := by
    simp [stages]
  rw [flatMap_pairs] at hstage
  obtain ⟨u, v, hu, hv, hrun⟩ := h.stage hstage
  have hstart : u.1.grantTable = t.grantTable := hu
  have hend : v.1.grantTable = y.1.grantTable := hv
  rw [← hend]
  have hall := (hrun.collects (fun z => z.1.grantTable) (fun p row => y.2.roles.get? p.1.key = some row.1 ∧
    y.2.permissions.get? p.2.permission = some row.2.permissionId) ?_ ?_).2
  · exact fun role hrole g hg => hall (role, g) (mem_pairs.2 ⟨hrole, hg⟩)
  · rintro z p z' _ ⟨hz, -⟩ row hrow
    obtain ⟨rfl, -⟩ | ⟨roleId, e, -, -, htable⟩ := grant_moves h.exact hz
    · exact hrow
    · rw [htable]
      exact List.mem_append_left _ hrow
  · rintro z ⟨role, g⟩ z' hp ⟨hz, hw⟩
    obtain ⟨hrole, hg⟩ := mem_pairs.1 hp
    obtain ⟨-, id, hid, hmem⟩ | ⟨roleId, e, hroleId, hpermission, htable⟩ := grant_moves h.exact hz
    · left
      obtain ⟨roleId, hroleId, hmem, -⟩ := mem_listed_readEach hmem
      obtain ⟨e, he, rfl⟩ := List.mem_map.1 hmem
      obtain ⟨p, hp, hkey⟩ := List.mem_map.1 (h.wellFormed.permission role hrole g hg)
      rw [← hkey] at hid
      refine ⟨(roleId, e), ?_, h.role_kept hrole hroleId, ?_⟩
      · rw [hstart]
        exact mem_below.1 he
      · rw [← hkey]
        exact h.permission_kept hp hid
    · right
      have hroles : z.2.roles = y.2.roles := congrArg Prod.snd (hw.before .role (by decide))
      have hpermissions : z.2.permissions = y.2.permissions := congrArg Prod.snd (hw.before .permission (by decide))
      refine ⟨(roleId, e), ?_, hroles ▸ hroleId, hpermissions ▸ hpermission⟩
      rw [htable]
      exact List.mem_append_right _ (List.mem_singleton_self _)

theorem Reconciled.members (h : Reconciled serve m t r ordered y) : ∀ u ∈ m.users, ∀ g ∈ u.groups,
    ∃ row ∈ y.1.memberTable, y.2.groups.get? g = some row.1 ∧ y.2.users.get? u.key = some row.2 := by
  have hstage : (Part.member, m.users.flatMap (fun u => u.groups.map (planGroupMember (t.read m) r u))) ∈
      stages m (t.read m) r ordered := by
    simp [stages]
  rw [flatMap_pairs] at hstage
  obtain ⟨u, v, hu, hv, hrun⟩ := h.stage hstage
  have hstart : u.1.memberTable = t.memberTable := hu
  have hend : v.1.memberTable = y.1.memberTable := hv
  rw [← hend]
  have hall := (hrun.collects (fun z => z.1.memberTable)
    (fun p row => y.2.groups.get? p.2 = some row.1 ∧ y.2.users.get? p.1.key = some row.2) ?_ ?_).2
  · exact fun u hu g hg => hall (u, g) (mem_pairs.2 ⟨hu, hg⟩)
  · rintro z p z' _ ⟨hz, -⟩ row hrow
    obtain ⟨rfl, -⟩ | ⟨groupId, userId, -, -, htable⟩ := member_moves h.exact hz
    · exact hrow
    · rw [htable]
      exact List.mem_append_left _ hrow
  · rintro z ⟨u, g⟩ z' hp ⟨hz, hw⟩
    obtain ⟨hu, hg⟩ := mem_pairs.1 hp
    obtain ⟨-, id, hid, hmem⟩ | ⟨groupId, userId, hgroup, huser, htable⟩ := member_moves h.exact hz
    · left
      obtain ⟨groupId, hgroupId, hmem, -⟩ := mem_listed_readEach hmem
      obtain ⟨spec, hspec, hkey⟩ := List.mem_map.1 (h.wellFormed.userGroups u hu g hg)
      rw [← hkey] at hgroupId
      refine ⟨(groupId, id), ?_, ?_, h.user_kept hu hid⟩
      · rw [hstart]
        exact mem_below.1 hmem
      · rw [← hkey]
        exact h.group_kept hspec hgroupId
    · right
      have hgroups : z.2.groups = y.2.groups := congrArg Prod.snd (hw.before .group (by decide))
      have husers : z.2.users = y.2.users := congrArg Prod.snd (hw.before .user (by decide))
      refine ⟨(groupId, userId), ?_, hgroups ▸ hgroup, husers ▸ huser⟩
      rw [htable]
      exact List.mem_append_right _ (List.mem_singleton_self _)

end Written

end AxiamSdk.Manifest
