import AxiamSdk.Management.Network
import AxiamSdk.Management.WrittenBindings

/-! # A second plan finds nothing to do

* `Withheld`: a binding that the planner takes for the tenant-wide one that stands, as its resource is still to be
  created.
* `Reconciled.resource_again`, `Reconciled.role_again`, ..: a second plan finds what the apply has left.
* `apply_converges_iff`: an apply converges exactly where no binding is withheld. -/

namespace AxiamSdk.Manifest
open PyLib
set_option autoImplicit false

/-- A second plan succeeds, and all of it is no change. -/
def PlansNothing (m : ManagementManifest) (snapshot : Snapshot) : Prop :=
  ∃ steps r, Planable m snapshot steps r ∧ (ManagementPlan.mk (steps.map Prod.fst)).isConverged = true

/-- A binding to a resource that the tenant lacks, of a role that the subject holds everywhere, inherited as
stated. -/
def Withheld (m : ManagementManifest) (t : Tenant) : Prop :=
  ∃ u ∈ subjects m (t.read m), ∃ role resource inherit, .scoped role resource inherit ∈ u.roles ∧
    (∀ res, ¬ Held m (t.read m) resource res) ∧
    ∃ e, standing m (t.read m) u (.scoped role resource inherit) = some e ∧ e.resourceId = none ∧
      e.inherit = inherit

section Again
variable {serve : Server TenantData} {m : ManagementManifest} {t : Tenant} {r q : Resolved}
  {ordered : List ResourceSpec} {y : ApplyState}

/-! ## Objects found again -/

theorem matchResource_mem {snapshot : Snapshot} {d : Dict PyStr PyStr} {spec : ResourceSpec} {e : Resource}
    (h : matchResource snapshot d spec = some e) : e ∈ snapshot.resources := by
  cases hparent : spec.parent with
  | none =>
    rw [matchResource_root hparent] at h
    exact List.mem_of_find?_eq_some h
  | some p =>
    cases hp : d.get? p with
    | none =>
      rw [matchResource_pending hparent hp] at h
      cases h
    | some id =>
      rw [matchResource_child hparent hp] at h
      exact List.mem_of_find?_eq_some h

theorem ne_nil_of_mem {α : Type} {l : List α} {id : α → PyStr} (h : AreIds (l.map id)) {a : α} (ha : a ∈ l) :
    id a ≠ [] := by
  intro hnil
  exact (List.nodup_cons.1 h).1 (hnil ▸ List.mem_map_of_mem ha)

theorem Reconciled.resource_settled (h : Reconciled serve m t r ordered y) {spec : ResourceSpec}
    (hs : spec ∈ m.resources) : ∃ o, resourceNaming.Settled ResourcePost (matchResource (t.read m) r.resources)
      (y.1.resources, y.2.resources) spec o ∧ o ∈ y.1.resources ∧ o.name = spec.name ∧ o.id ≠ [] := by
  obtain ⟨o, ho⟩ := h.resources.settled spec (h.perm.mem_iff.2 hs)
  obtain ⟨hmem, hname, -⟩ := Naming.find_some ho.find
  refine ⟨o, ho, hmem, hname, ?_⟩
  cases hfound : matchResource (t.read m) r.resources spec with
  | none => exact ho.post.2.2 hfound
  | some e =>
    have hid : o.id = e.id := ho.id e hfound
    have he := matchResource_mem hfound
    rw [read_resources hs] at he
    rw [hid]
    exact ne_nil_of_mem t.sound.resources he

/-- Under its parent's id the spec finds its object. -/
theorem Reconciled.resource_of_parent (h : Reconciled serve m t r ordered y) {spec : ResourceSpec}
    (hs : spec ∈ m.resources)
    (hsame : ∀ p, spec.parent = some p → q.resources.get? p = y.2.resources.get? p) :
    ∃ o, matchResource (y.1.read m) q.resources spec = some o ∧ y.2.resources.get? spec.key = some o.id ∧
      o ∈ y.1.resources ∧ o.name = spec.name ∧ o.id ≠ [] ∧ o.resourceType = spec.resourceType ∧
      metadataDiffers o.metadata spec.metadata = false := by
  obtain ⟨o, ho, hmem, hname, hid⟩ := h.resource_settled hs
  have hready : resourceNaming.Ready q.resources spec := by
    intro p hp
    obtain ⟨a, ha, hkey⟩ := h.ordered_specs.parent_mem (h.perm.mem_iff.2 hs) hp
    obtain ⟨o', ho'⟩ := h.resources.settled a ha
    have hresolved := ho'.resolved
    rw [hkey] at hresolved
    rw [hsame p hp]
    exact Option.isSome_iff_exists.2 ⟨_, hresolved⟩
  have hparent : resourceNaming.parentOf q.resources spec = resourceNaming.parentOf y.2.resources spec :=
    Option.bind_congr hsame
  refine ⟨o, ?_, ho.resolved, hmem, hname, hid, ho.post.1, ho.post.2.1⟩
  rw [matchResource_eq hs (h.statable.parents spec hs) hready, Naming.find_congr hparent]
  exact ho.find

/-- **The ids of resources**: a second plan resolves every key as the apply has left it. -/
theorem Reconciled.resources_again (h : Reconciled serve m t r ordered y) (hq : Resolution m (y.1.read m) q)
    {key : PyStr} (hkey : key ∈ m.resources.map ResourceSpec.key) :
    q.resources.get? key = y.2.resources.get? key := by
  have hall : ∀ k ∈ ordered.map ResourceSpec.key, q.resources.get? k = y.2.resources.get? k := by
    refine h.parentsFirst.induction_on (fun k hk => by cases hk) ?_
    intro k hk ih
    obtain ⟨spec, hs, rfl⟩ := List.mem_map.1 hk
    have hs := h.perm.mem_iff.1 hs
    obtain ⟨o, hmatch, hid, -⟩ := h.resource_of_parent (q := q) hs fun p hp => ih p (by
      rw [parentOf, resourceSpec?_eq h.wellFormed hs]
      exact hp)
    rw [hq.resource spec hs, hmatch, hid]
    rfl
  exact hall key ((h.perm.map _).mem_iff.2 hkey)

theorem Reconciled.resource_again (h : Reconciled serve m t r ordered y) (hq : Resolution m (y.1.read m) q)
    {spec : ResourceSpec} (hs : spec ∈ m.resources) :
    ∃ o, matchResource (y.1.read m) q.resources spec = some o ∧ y.2.resources.get? spec.key = some o.id ∧
      o ∈ y.1.resources ∧ o.name = spec.name ∧ o.id ≠ [] ∧ o.resourceType = spec.resourceType ∧
      metadataDiffers o.metadata spec.metadata = false := by
  refine h.resource_of_parent hs fun p hp => h.resources_again hq ?_
  obtain ⟨a, ha, hkey⟩ := h.ordered_specs.parent_mem (h.perm.mem_iff.2 hs) hp
  exact hkey ▸ List.mem_map_of_mem (h.perm.mem_iff.1 ha)

theorem Reconciled.permission_again (h : Reconciled serve m t r ordered y) {p : PermissionSpec}
    (hp : p ∈ m.permissions) : ∃ o, matchPermission (y.1.read m) p = some o ∧
      y.2.permissions.get? p.key = some o.id ∧ o.description = p.description := by
  obtain ⟨o, -, hfind, -, hid, hpost, -⟩ := flat_settled h.permissions hp
  rw [matchPermission, read_permissions hp]
  exact ⟨o, hfind, hid, hpost⟩

theorem Reconciled.role_again (h : Reconciled serve m t r ordered y) {role : RoleSpec} (hrole : role ∈ m.roles) :
    ∃ o ∈ y.1.roles, matchRole (y.1.read m) role = some o ∧ y.2.roles.get? role.key = some o.id ∧
      o.name = role.name ∧ o.id ≠ [] ∧ o.description = role.description ∧ o.isGlobal = role.isGlobal := by
  obtain ⟨o, hmem, hfind, hname, hid, hpost, hkept⟩ := flat_settled h.roles hrole
  refine ⟨o, hmem, ?_, hid, hname, ?_, hpost.1, hpost.2.1⟩
  · rw [matchRole, read_roles hrole]
    exact hfind
  · cases hfound : matchRole (t.read m) role with
    | none => exact (hpost.2.2 hfound).1
    | some e =>
      have he := List.mem_of_find?_eq_some hfound
      rw [read_roles hrole] at he
      rw [hkept e hfound]
      exact ne_nil_of_mem t.sound.roles he

theorem Reconciled.group_again (h : Reconciled serve m t r ordered y) {g : GroupSpec} (hg : g ∈ m.groups) :
    ∃ o ∈ y.1.groups, matchGroup (y.1.read m) g = some o ∧ y.2.groups.get? g.key = some o.id ∧
      o.name = g.name ∧ o.id ≠ [] ∧ o.description = g.description := by
  obtain ⟨o, hmem, hfind, hname, hid, hpost, hkept⟩ := flat_settled h.groups hg
  refine ⟨o, hmem, ?_, hid, hname, ?_, hpost.1⟩
  · rw [matchGroup, read_groups hg]
    exact hfind
  · cases hfound : matchGroup (t.read m) g with
    | none => exact (hpost.2 hfound).1
    | some e =>
      have he := List.mem_of_find?_eq_some hfound
      rw [read_groups hg] at he
      rw [hkept e hfound]
      exact ne_nil_of_mem t.sound.groups he

theorem Reconciled.user_again (h : Reconciled serve m t r ordered y) {u : UserSpec} (hu : u ∈ m.users) :
    ∃ o, matchUser (y.1.read m) u = some o ∧ y.2.users.get? u.key = some o.id ∧ o.email = u.email := by
  obtain ⟨o, -, hfind, -, hid, hpost, -⟩ := flat_settled h.users hu
  rw [matchUser, read_users hu]
  exact ⟨o, hfind, hid, hpost.1⟩

theorem Reconciled.account_again (h : Reconciled serve m t r ordered y) {s : ServiceAccountSpec}
    (hs : s ∈ m.serviceAccounts) : ∃ o, matchServiceAccount (y.1.read m) s = some o ∧
      y.2.serviceAccounts.get? s.key = some o.id ∧ o.description = s.description := by
  obtain ⟨o, -, hfind, -, hid, hpost, -⟩ := flat_settled h.accounts hs
  rw [matchServiceAccount_eq (unambiguous h.still_unambiguous hs), read_accounts hs]
  exact ⟨o, hfind, hid, hpost.1⟩

/-! ## Edges found again -/

theorem mem_wantedIds {α : Type} {names : List PyStr} {name id : α → PyStr} {l : List α} {a : α} (ha : a ∈ l)
    (hname : name a ∈ names) : id a ∈ wantedIds names name id l :=
  List.mem_map_of_mem (List.mem_filter.2 ⟨ha, decide_eq_true hname⟩)

theorem Reconciled.scope_again (h : Reconciled serve m t r ordered y) (hq : Resolution m (y.1.read m) q)
    {p : ResourceSpec × ScopeSpec} (hp : p ∈ scopeSpecs m) :
    (matchScope (y.1.read m) q.resources p.1 p.2).isSome := by
  obtain ⟨⟨id, e⟩, hrow, hid, hname⟩ := h.scopes p hp
  obtain ⟨spec, hs, hscope⟩ := List.mem_flatMap.1 hp
  obtain ⟨scope, -, rfl⟩ := List.mem_map.1 hscope
  obtain ⟨o, -, hresolved, hmem, hoName, hne, -⟩ := h.resource_again hq hs
  obtain rfl : o.id = id := Option.some.inj (hresolved.symm.trans hid)
  have hlisted : listed (y.1.read m).scopes (some o.id) = y.1.scopes o.id := by
    refine (listed_readEach _ _ _).trans (if_pos ⟨hne, mem_wantedIds ?_ ?_⟩)
    · rw [listAll_eq (core_of_resource hs)]
      exact hmem
    · rw [hoName]
      exact List.mem_map_of_mem hs
  rw [matchScope, h.resources_again hq (List.mem_map_of_mem hs), hresolved, hlisted, List.find?_isSome]
  exact ⟨e, mem_below.2 hrow, decide_eq_true hname⟩

theorem Reconciled.grant_again (h : Reconciled serve m t r ordered y) (hq : Resolution m (y.1.read m) q)
    {role : RoleSpec} (hrole : role ∈ m.roles) {g : GrantSpec} (hg : g ∈ role.grants) :
    ∃ id, q.permissions.get? g.permission = some id ∧
      id ∈ listed (y.1.read m).roleGrants (q.roles.get? role.key) := by
  obtain ⟨⟨roleId, e⟩, hrow, hroleId, hpermissionId⟩ := h.grants role hrole g hg
  obtain ⟨p, hp, hkey⟩ := List.mem_map.1 (h.wellFormed.permission role hrole g hg)
  obtain ⟨o, hmem, hmatch, hresolved, hname, hne, -⟩ := h.role_again hrole
  obtain ⟨o', hmatch', hresolved', -⟩ := h.permission_again hp
  obtain rfl : o.id = roleId := Option.some.inj (hresolved.symm.trans hroleId)
  refine ⟨e.permissionId, ?_, ?_⟩
  · rw [← hkey] at hpermissionId ⊢
    rw [hq.permission p hp, hmatch', ← hpermissionId, hresolved']
    rfl
  · rw [hq.role role hrole, hmatch]
    have hlisted : listed (y.1.read m).roleGrants (some o.id) =
        (y.1.grants o.id).map PermissionGrant.permissionId := by
      refine (listed_readEach _ _ _).trans (if_pos ⟨hne, mem_wantedIds ?_ ?_⟩)
      · rw [listAll_eq (core_of_role hrole)]
        exact hmem
      · rw [hname]
        exact List.mem_map_of_mem hrole
    rw [Option.map_some, hlisted]
    exact List.mem_map_of_mem (mem_below.2 hrow)

theorem Reconciled.member_again (h : Reconciled serve m t r ordered y) (hq : Resolution m (y.1.read m) q)
    {u : UserSpec} (hu : u ∈ m.users) {g : PyStr} (hg : g ∈ u.groups) :
    ∃ id, q.users.get? u.key = some id ∧ id ∈ listed (y.1.read m).groupMembers (q.groups.get? g) := by
  obtain ⟨⟨groupId, userId⟩, hrow, hgroupId, huserId⟩ := h.members u hu g hg
  obtain ⟨spec, hspec, rfl⟩ := List.mem_map.1 (h.wellFormed.userGroups u hu g hg)
  obtain ⟨o, hmem, hmatch, hresolved, hname, hne, -⟩ := h.group_again hspec
  obtain ⟨o', hmatch', hresolved', -⟩ := h.user_again hu
  obtain rfl : o.id = groupId := Option.some.inj (hresolved.symm.trans hgroupId)
  refine ⟨userId, ?_, ?_⟩
  · rw [hq.user u hu, hmatch', ← huserId, hresolved']
    rfl
  · rw [hq.group spec hspec, hmatch]
    have hlisted : listed (y.1.read m).groupMembers (some o.id) = y.1.members o.id := by
      refine (listed_readEach _ _ _).trans (if_pos ⟨hne, mem_wantedIds ?_ ?_⟩)
      · rw [listAll_eq (core_of_group hspec)]
        exact hmem
      · rw [hname]
        exact List.mem_map_of_mem hspec
    rw [Option.map_some, hlisted]
    exact mem_below.2 hrow

/-! ## Bindings found again -/

/-- A subject under the ids of `d`. -/
def Subject.under (d : Resolved) (u : Subject) : Subject := { u with id? := (d.subjects u.kind).get? u.key }

theorem Reconciled.subjects_again (h : Reconciled serve m t r ordered y) :
    subjects m (y.1.read m) = (subjects m (t.read m)).map (Subject.under y.2) := by
  rw [subjects, subjects, List.map_append, List.map_append, List.map_map, List.map_map, List.map_map]
  congr 1
  · congr 1
    · refine List.map_congr_left fun g hg => ?_
      obtain ⟨o, -, hmatch, hresolved, -⟩ := h.group_again hg
      rw [groupSubject, hmatch]
      exact congrArg (Subject.mk .group g.key · g.roles) hresolved.symm
    · refine List.map_congr_left fun u hu => ?_
      obtain ⟨o, hmatch, hresolved, -⟩ := h.user_again hu
      rw [userSubject, hmatch]
      exact congrArg (Subject.mk .user u.key · u.roles) hresolved.symm
  · refine List.map_congr_left fun s hs => ?_
    obtain ⟨o, hmatch, hresolved, -⟩ := h.account_again hs
    rw [accountSubject, hmatch]
    exact congrArg (Subject.mk .serviceAccount s.key · s.roles) hresolved.symm

/-- What a second plan finds in place of a binding. -/
theorem Reconciled.standing_again (h : Reconciled serve m t r ordered y) (hone : t.BindsOnce) {u : Subject}
    (hu : u ∈ subjects m (t.read m)) {b : RoleBinding} (hb : b ∈ u.roles) :
    ∃ subjectId, standing m (y.1.read m) (u.under y.2) b =
      some (boundAfter r y.2 b subjectId (standing m (t.read m) u b)) := by
  obtain ⟨roleId, subjectId, hroleId, hsubjectId, hheld⟩ := h.bindings hone u hu b hb
  obtain ⟨role, hrole, hkey⟩ := List.mem_map.1 ((subjects_declared h.wellFormed hu).role b hb)
  obtain ⟨o, hmem, hmatch, hresolved, hname, hne, -⟩ := h.role_again hrole
  rw [hkey] at hresolved
  obtain rfl : o.id = roleId := Option.some.inj (hresolved.symm.trans hroleId)
  refine ⟨subjectId, ?_⟩
  have hid : (u.under y.2).id? = some subjectId := hsubjectId
  have hkind : (u.under y.2).kind = u.kind := rfl
  rw [standing, ← hkey, matchedRole_eq h.wellFormed hrole, hmatch, Option.bind_some,
    listed_bindings hrole hmem hname hne, hid, hkind, existingBinding_eq, hheld]
  rfl

/-- The binding has been taken for one that stood, before its resource had an id. -/
def Mistaken (r d : Resolved) (b : RoleBinding) (e? : Option RoleAssignment) : Prop :=
  ∃ e, e? = some e ∧ e.resourceId = (bindingResourceAndInherit r b).1 ∧
    e.inherit = (bindingResourceAndInherit r b).2 ∧
    (bindingResourceAndInherit r b).1 ≠ (bindingResourceAndInherit d b).1

theorem inherit_eq (r d : Resolved) (b : RoleBinding) :
    (bindingResourceAndInherit r b).2 = (bindingResourceAndInherit d b).2 := by
  cases b <;> rfl

theorem boundAfter_stated (r d : Resolved) (b : RoleBinding) (subjectId : PyStr) (e? : Option RoleAssignment) :
    ((boundAfter r d b subjectId e?).resourceId = (bindingResourceAndInherit d b).1 ∧
      (boundAfter r d b subjectId e?).inherit = (bindingResourceAndInherit d b).2) ↔ ¬ Mistaken r d b e? := by
  have hinherit := inherit_eq r d b
  cases e? with
  | none => simp [boundAfter, Mistaken, hinherit]
  | some e =>
    rw [boundAfter]
    split
    · next hsame => simp [Mistaken, hsame, hinherit]
    · next hdiffers =>
      refine iff_of_true ⟨rfl, hinherit⟩ ?_
      rintro ⟨e', he, hresource, hsame, -⟩
      cases he
      exact hdiffers ⟨hresource, hsame⟩

theorem Reconciled.resource_done (h : Reconciled serve m t r ordered y) {key : PyStr}
    (hkey : key ∈ m.resources.map ResourceSpec.key) : ∃ id, y.2.resources.get? key = some id := by
  obtain ⟨spec, hs, rfl⟩ := List.mem_map.1 hkey
  obtain ⟨o, ho, -⟩ := h.resource_settled hs
  exact ⟨o.id, ho.resolved⟩

/-- A resource id differs after the apply exactly where the plan had none. -/
theorem Reconciled.mistaken_iff (h : Reconciled serve m t r ordered y) {bs : List RoleBinding}
    (hbs : BindingsDeclared m bs) {b : RoleBinding} (hb : b ∈ bs) (e? : Option RoleAssignment) :
    Mistaken r y.2 b e? ↔ ∃ role resource inherit, b = .scoped role resource inherit ∧
      r.resources.get? resource = none ∧ ∃ e, e? = some e ∧ e.resourceId = none ∧ e.inherit = inherit := by
  obtain role | ⟨role, resource, inherit⟩ := b
  · constructor
    · rintro ⟨e, -, -, -, hne⟩
      exact absurd rfl hne
    · rintro ⟨_, _, _, hb', -⟩
      cases hb'
  · have hdeclared := hbs.resource _ hb resource rfl
    obtain ⟨id, hid⟩ := h.resource_done hdeclared
    have hkept : r.resources.get? resource ≠ y.2.resources.get? resource ↔ r.resources.get? resource = none := by
      constructor
      · intro hne
        cases hget : r.resources.get? resource with
        | none => rfl
        | some i =>
          obtain ⟨spec, hs, rfl⟩ := List.mem_map.1 hdeclared
          exact absurd (hget.trans (h.resource_kept hs hget).symm) hne
      · intro hnone
        rw [hnone, hid]
        exact (Option.some_ne_none id).symm
    constructor
    · rintro ⟨e, he, hresource, hinherit, hne⟩
      have hnone := hkept.1 hne
      exact ⟨role, resource, inherit, rfl, hnone, e, he, hresource.trans hnone, hinherit⟩
    · rintro ⟨role', resource', inherit', hb', hnone, e, he, hresource, hinherit⟩
      cases hb'
      exact ⟨e, he, hresource.trans hnone.symm, hinherit, hkept.2 hnone⟩

/-! ## The second plan -/

theorem Reconciled.unchanged_iff (h : Reconciled serve m t r ordered y) (hone : t.BindsOnce)
    (hq : Resolution m (y.1.read m) q) : Unchanged m (y.1.read m) q ↔
      ∀ u ∈ subjects m (t.read m), ∀ b ∈ u.roles, ¬ Mistaken r y.2 b (standing m (t.read m) u b) := by
  have hresource : ∀ u ∈ subjects m (t.read m), ∀ b ∈ u.roles,
      bindingResourceAndInherit q b = bindingResourceAndInherit y.2 b := by
    intro u hu b hb
    obtain role | ⟨role, resource, inherit⟩ := b
    · rfl
    · rw [bindingResourceAndInherit, bindingResourceAndInherit,
        h.resources_again hq ((subjects_declared h.wellFormed hu).resource _ hb resource rfl)]
  have hbinding : (∀ u ∈ subjects m (y.1.read m), ∀ b ∈ u.roles, ∃ existing,
      standing m (y.1.read m) u b = some existing ∧ existing.resourceId = (bindingResourceAndInherit q b).1 ∧
        existing.inherit = (bindingResourceAndInherit q b).2) ↔
      ∀ u ∈ subjects m (t.read m), ∀ b ∈ u.roles, ¬ Mistaken r y.2 b (standing m (t.read m) u b) := by
    rw [h.subjects_again, List.forall_mem_map]
    refine forall₂_congr fun u hu => forall₂_congr fun b hb => ?_
    obtain ⟨subjectId, hstanding⟩ := h.standing_again hone hu hb
    rw [hstanding, hresource u hu b hb, ← boundAfter_stated r y.2 b subjectId]
    simp only [Option.some.injEq, exists_eq_left']
  constructor
  · exact fun hun => hbinding.1 hun.binding
  · intro hnot
    constructor
    case resource =>
      intro spec hs
      obtain ⟨o, hmatch, -, -, -, -, htype, hmetadata⟩ := h.resource_again hq hs
      exact ⟨o, hmatch, htype, hmetadata⟩
    case scope => exact fun p hp => h.scope_again hq hp
    case permission =>
      intro p hp
      obtain ⟨o, hmatch, -, hdescription⟩ := h.permission_again hp
      exact ⟨o, hmatch, hdescription⟩
    case role =>
      intro role hrole
      obtain ⟨o, -, hmatch, -, -, -, hdescription, hglobal⟩ := h.role_again hrole
      exact ⟨o, hmatch, hdescription, hglobal⟩
    case grant => exact fun role hrole g hg => h.grant_again hq hrole hg
    case group =>
      intro g hg
      obtain ⟨o, -, hmatch, -, -, -, hdescription⟩ := h.group_again hg
      exact ⟨o, hmatch, hdescription⟩
    case user =>
      intro u hu
      obtain ⟨o, hmatch, -, hemail⟩ := h.user_again hu
      exact ⟨o, hmatch, hemail⟩
    case serviceAccount =>
      intro s hs
      obtain ⟨o, hmatch, -, hdescription⟩ := h.account_again hs
      exact ⟨o, hmatch, hdescription⟩
    case binding => exact hbinding.2 hnot
    case member => exact fun u hu g hg => h.member_again hq hu hg

theorem Reconciled.withheld_iff (h : Reconciled serve m t r ordered y) {steps : List Planned}
    {network : List Planned} (hsec : Sections m (t.read m) steps r ordered network) : Withheld m t ↔
      ∃ u ∈ subjects m (t.read m), ∃ b ∈ u.roles, Mistaken r y.2 b (standing m (t.read m) u b) := by
  have hpending : ∀ u ∈ subjects m (t.read m), ∀ role resource inherit, .scoped role resource inherit ∈ u.roles →
      (r.resources.get? resource = none ↔ ∀ res, ¬ Held m (t.read m) resource res) := by
    intro u hu role resource inherit hb
    have hdeclared := (subjects_declared h.wellFormed hu).resource _ hb resource rfl
    rw [← Option.not_isSome_iff_eq_none, held_iff h.wellFormed hsec hdeclared, not_exists]
  constructor
  · rintro ⟨u, hu, role, resource, inherit, hb, hmissing, hstanding⟩
    refine ⟨u, hu, _, hb, (h.mistaken_iff (subjects_declared h.wellFormed hu) hb _).2 ?_⟩
    exact ⟨role, resource, inherit, rfl, (hpending u hu role resource inherit hb).2 hmissing, hstanding⟩
  · rintro ⟨u, hu, b, hb, hmistaken⟩
    obtain ⟨role, resource, inherit, rfl, hmissing, hstanding⟩ :=
      (h.mistaken_iff (subjects_declared h.wellFormed hu) hb _).1 hmistaken
    exact ⟨u, hu, role, resource, inherit, hb, (hpending u hu role resource inherit hb).1 hmissing, hstanding⟩

end Again

/-! ## Convergence -/

section Converges
variable {serve : Server TenantData} {m : ManagementManifest} {t : Tenant} {r : Resolved} {steps : List Planned}

theorem compute_again {snapshot snapshot' : Snapshot} (hn : m.network = none)
    (h : compute m snapshot = .ok (steps, r)) : ∃ steps' r', compute m snapshot' = .ok (steps', r') := by
  rw [compute] at h
  cases horder : topologicalOrder m with
  | error k =>
    rw [horder] at h
    cases h
  | ok order =>
    rw [horder] at h
    dsimp only at h
    cases hplan : planResources m snapshot .empty order with
    | error k =>
      rw [hplan] at h
      cases h
    | ok result =>
      obtain ⟨core, resources, hagain⟩ := planResources_again hplan snapshot' .empty
      refine ⟨core ++ coreSteps m snapshot' (resolve m snapshot' resources), resolve m snapshot' resources, ?_⟩
      rw [compute, horder]
      dsimp only
      rw [hagain]
      dsimp only
      rw [hn]

/-- A plan whose users all exist needs no password. -/
theorem needsPassword_stages {snapshot : Snapshot} {ordered : List ResourceSpec}
    (h : ∀ u ∈ m.users, ∃ e, matchUser snapshot u = some e) :
    needsPassword ((stages m snapshot r ordered).flatMap Prod.snd) = [] := by
  refine List.filterMap_eq_nil_iff.2 fun p hp => ?_
  obtain ⟨s, hs, hp⟩ := List.mem_flatMap.1 hp
  cases hstep : p.2 with
  | createUser key username email password =>
    have hpart : Part.user = s.1 := stages_touch s hs p hp .user (by rw [hstep]; rfl)
    have husers : (Part.user, m.users.map (fun u => planUser u (matchUser snapshot u))) ∈
        stages m snapshot r ordered := by
      simp [stages]
    have hnodup : ((stages m snapshot r ordered).map (fun s => s.1.stage)).Nodup :=
      stages_sorted.imp fun hlt => hlt.ne
    have hsame := List.inj_on_of_nodup_map hnodup hs husers (congrArg Part.stage hpart.symm)
    rw [hsame] at hp
    obtain ⟨u, hu, rfl⟩ := List.mem_map.1 hp
    obtain ⟨e, he⟩ := h u hu
    rw [he, planUser] at hstep
    split at hstep <;> cases hstep
  | _ => rfl

/-- **An apply converges** exactly where it withholds no binding. -/
theorem apply_converges_iff (hserve : Exact serve) (repr : PyStr → PyStr) (hn : m.network = none)
    (hplan : Planable m (t.read m) steps r) (hdistinct : DistinctNames m) (hstatable : Statable m)
    (hone : t.BindsOnce) (hfinish : (execute serve repr t.toTenantData r steps).stopped = false) :
    PlansNothing m ((execute serve repr t.toTenantData r steps).server.read m) ↔ ¬ Withheld m t := by
  have hrun := execute_run hfinish
  obtain ⟨hvalid, hambiguous, hcompute, -⟩ := hplan
  obtain ⟨ordered, network, hsec⟩ := compute_ok hvalid.wellFormed hcompute
  have hnetwork : network = [] := by
    have heq := hsec.network_eq
    rw [networkSteps, hn] at heq
    exact (Except.ok.inj heq).symm
  have hsteps := hsec.steps_eq
  rw [hnetwork, List.append_nil, ← stages_flatMap hsec.resolution hambiguous] at hsteps
  rw [hsteps] at hrun ⊢
  generalize execute serve repr t.toTenantData r _ = a at hrun ⊢
  have h : Reconciled serve m t r ordered (a.server, a.resolved) := by
    exact ⟨hserve, hvalid.wellFormed, hdistinct, hstatable, hsec.perm, hsec.parentsFirst, hsec.resolution,
      hambiguous, hrun⟩
  rw [h.withheld_iff hsec]
  push Not
  constructor
  · rintro ⟨steps', q, ⟨-, hunambiguous, hagain, -⟩, hconverged⟩
    obtain ⟨ordered', network', hsec'⟩ := compute_ok hvalid.wellFormed hagain
    have hunchanged := ((isConverged_iff hvalid.wellFormed hsec' hunambiguous).1 hconverged).1
    exact (h.unchanged_iff hone hsec'.resolution).1 hunchanged
  · intro hnot
    obtain ⟨steps', q, hagain⟩ : ∃ steps' q, compute m (a.server.read m) = .ok (steps', q) :=
      compute_again hn hcompute
    obtain ⟨ordered', network', hsec'⟩ := compute_ok hvalid.wellFormed hagain
    have hnetwork' : network' = [] := by
      have heq := hsec'.network_eq
      rw [networkSteps, hn] at heq
      exact (Except.ok.inj heq).symm
    have hunambiguous := h.still_unambiguous
    have hunchanged := (h.unchanged_iff hone hsec'.resolution).2 hnot
    refine ⟨steps', q, ⟨hvalid, hunambiguous, hagain, ?_⟩, ?_⟩
    · have hsteps' := hsec'.steps_eq
      rw [hnetwork', List.append_nil, ← stages_flatMap hsec'.resolution hunambiguous] at hsteps'
      rw [hsteps']
      exact needsPassword_stages fun u hu => by
        obtain ⟨e, he, -⟩ := hunchanged.user u hu
        exact ⟨e, he⟩
    · refine (isConverged_iff hvalid.wellFormed hsec' hunambiguous).2 ⟨hunchanged, ?_⟩
      rw [hnetwork']
      exact fun p hp => by cases hp

end Converges

/-! ## A role narrowed to a resource -/

/-- A group holds a role on one resource. -/
def narrowing : ManagementManifest where
  resources := [⟨lit "project", lit "atlas", lit "project", none, [], none⟩]
  permissions := []
  roles := [⟨lit "viewer", lit "viewer", [], false, []⟩]
  groups := [⟨lit "ops", lit "ops", [], [.scoped (lit "viewer") (lit "project") true]⟩]
  users := []
  serviceAccounts := []
  network := none

/-- A tenant where the group holds it everywhere. -/
def everywhere (resources : List Resource) : TenantData where
  resources := resources
  scopeTable := []
  permissions := []
  roles := [⟨lit "r", lit "viewer", [], false⟩]
  groups := [⟨lit "g", lit "ops", []⟩]
  users := []
  serviceAccounts := []
  grantTable := []
  bindingTable := [((.group, lit "r"), ⟨lit "g", none, true, none⟩)]
  memberTable := []
  networkPolicy := none
  networkSegments := []
  networkProfiles := []

def withProject : Tenant where
  toTenantData := everywhere [⟨lit "a", lit "atlas", none, lit "project", .obj []⟩]
  sound := ⟨by decide, by decide, by decide, by decide, by decide, by decide, by decide, by decide⟩

def withoutProject : Tenant where
  toTenantData := everywhere []
  sound := ⟨by decide, by decide, by decide, by decide, by decide, by decide, by decide, by decide⟩

theorem everywhere_once (resources : List Resource) : (everywhere resources).BindsOnce :=
  fun _ => (List.length_filter_le _ _).trans (List.length_filterMap_le _ _)

theorem narrowing_distinct : DistinctNames narrowing :=
  ⟨by decide, by decide, by decide, by decide, by decide, by decide⟩

theorem narrowing_statable : Statable narrowing := by
  refine ⟨by decide, by decide, fun spec hs s hmetadata => ?_⟩
  rw [narrowing, List.mem_singleton] at hs
  rw [hs] at hmetadata
  cases hmetadata

/-- With the resource in place the role is moved to it; with the resource still to be created it stays
everywhere. -/
theorem narrowing_converges :
    (∃ steps r, Planable narrowing (withProject.read narrowing) steps r ∧ PlansNothing narrowing
      ((execute (exactServer defaults) id withProject.toTenantData r steps).server.read narrowing)) ∧
    ∃ steps r, Planable narrowing (withoutProject.read narrowing) steps r ∧ ¬ PlansNothing narrowing
      ((execute (exactServer defaults) id withoutProject.toTenantData r steps).server.read narrowing) := by
  have hplan : Planable narrowing (withProject.read narrowing) _ _ := ⟨by decide, rfl, rfl, rfl⟩
  have hplan' : Planable narrowing (withoutProject.read narrowing) _ _ := ⟨by decide, rfl, rfl, rfl⟩
  have hconverges := apply_converges_iff (exactServer_exact defaults) id rfl hplan narrowing_distinct
    narrowing_statable (everywhere_once _) (by decide)
  have hconverges' := apply_converges_iff (exactServer_exact defaults) id rfl hplan' narrowing_distinct
    narrowing_statable (everywhere_once _) (by decide)
  refine ⟨⟨_, _, hplan, hconverges.2 ?_⟩, ⟨_, _, hplan', fun h => hconverges'.1 h ?_⟩⟩
  · rintro ⟨u, hu, role, resource, inherit, hb, hmissing, -⟩
    obtain ⟨spec, hs, rfl⟩ := List.mem_map.1 ((subjects_declared hplan.1.wellFormed hu).resource _ hb _ rfl)
    rw [narrowing, List.mem_singleton] at hs
    subst hs
    exact hmissing _ (.root (List.mem_singleton_self _) rfl rfl)
  · refine ⟨_, List.mem_singleton_self _, _, _, _, List.mem_singleton_self _, fun res hheld => ?_, _, rfl, rfl, rfl⟩
    cases hheld.mem

end AxiamSdk.Manifest
