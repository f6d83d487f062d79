import AxiamSdk.Management.Execute
import AxiamSdk.Management.Tenant

/-! # What a converged plan says about the tenant

* `NoDrift`: the tenant holds every member that the manifest states.
* `Uncompared`: what the planner leaves out of its comparison is as the manifest states it.
* `converged_noDrift_iff`: for a converged plan the two are the same. -/

namespace AxiamSdk.Manifest
open PyLib
set_option autoImplicit false

/-! ## Stated and held -/

/-- The effect a grant states; the server's default is to allow. -/
def GrantSpec.statedEffect (g : GrantSpec) : PyStr := g.effect.getD (lit "allow")

/-- The tenant's parent id is that of the stated parent. -/
def ParentIs (r : Resolved) (parent parentId : Option PyStr) : Prop :=
  match parent with
  | none => parentId = none
  | some p => ∃ id, r.resources.get? p = some id ∧ parentId = some id

/-- An assignment is the one that a binding states. -/
def BindingIs (r : Resolved) (e : RoleAssignment) : RoleBinding → Prop
  | .plain _ => e.resourceId = none ∧ e.inherit = true
  | .scoped _ resource inherit =>
    (∃ id, r.resources.get? resource = some id ∧ e.resourceId = some id) ∧ e.inherit = inherit

/-- The subjects of a manifest: kind, key and bindings. -/
def boundSubjects (m : ManagementManifest) : List (SubjectKind × PyStr × List RoleBinding) :=
  m.groups.map (fun g => (.group, g.key, g.roles)) ++ m.users.map (fun u => (.user, u.key, u.roles)) ++
    m.serviceAccounts.map (fun s => (.serviceAccount, s.key, s.roles))

/-- **No drift**: under the ids that the keys stand for, the tenant holds what the manifest states. -/
structure NoDrift (m : ManagementManifest) (t : Tenant) (r : Resolved) : Prop where
  resource : ∀ spec ∈ m.resources, ∃ e ∈ t.resources, r.resources.get? spec.key = some e.id ∧
    e.name = spec.name ∧ e.resourceType = spec.resourceType ∧ ParentIs r spec.parent e.parentId ∧
    ∀ s, spec.metadata = some s → (Json.obj s).same e.metadata = true
  scope : ∀ p ∈ scopeSpecs m, ∃ id, r.resources.get? p.1.key = some id ∧ ∃ e ∈ t.scopes id,
    r.scopes.get? p.2.key = some e.id ∧ e.name = p.2.name ∧ e.description = p.2.description
  permission : ∀ p ∈ m.permissions, ∃ e ∈ t.permissions, r.permissions.get? p.key = some e.id ∧
    e.action = p.action ∧ e.description = p.description
  role : ∀ role ∈ m.roles, ∃ e ∈ t.roles, r.roles.get? role.key = some e.id ∧ e.name = role.name ∧
    e.description = role.description ∧ e.isGlobal = role.isGlobal
  grant : ∀ role ∈ m.roles, ∀ g ∈ role.grants, ∃ roleId permissionId,
    r.roles.get? role.key = some roleId ∧ r.permissions.get? g.permission = some permissionId ∧
    ∃ e ∈ t.grants roleId, e.permissionId = permissionId ∧ e.effect = g.statedEffect ∧
      ∀ id, id ∈ e.scopeIds ↔ ∃ key ∈ g.scopes, r.scopes.get? key = some id
  group : ∀ g ∈ m.groups, ∃ e ∈ t.groups, r.groups.get? g.key = some e.id ∧ e.name = g.name ∧
    e.description = g.description
  user : ∀ u ∈ m.users, ∃ e ∈ t.users, r.users.get? u.key = some e.id ∧ e.username = u.username ∧
    e.email = u.email
  serviceAccount : ∀ s ∈ m.serviceAccounts, ∃ e ∈ t.serviceAccounts,
    r.serviceAccounts.get? s.key = some e.id ∧ e.name = s.name ∧ e.description = s.description
  binding : ∀ u ∈ boundSubjects m, ∀ b ∈ u.2.2, ∃ roleId subjectId,
    r.roles.get? (roleKey b) = some roleId ∧ (r.subjects u.1).get? u.2.1 = some subjectId ∧
    ∃ e ∈ t.bindings u.1 roleId, e.subjectId = subjectId ∧ BindingIs r e b
  member : ∀ u ∈ m.users, ∀ g ∈ u.groups, ∃ groupId userId, r.groups.get? g = some groupId ∧
    r.users.get? u.key = some userId ∧ userId ∈ t.members groupId

/-! ## What the planner does not compare -/

/-- The scope of the tenant that a scope key stands for. -/
def ScopeKeyIs (m : ManagementManifest) (t : Tenant) (key : PyStr) (e : Scope) : Prop :=
  ∃ p ∈ scopeSpecs m, p.2.key = key ∧ ∃ res, Held m (t.read m) p.1.key res ∧
    (t.scopes res.id).find? (fun s => s.name = p.2.name) = some e

/-- Parents under the empty key, bools against numbers in metadata, descriptions of scopes, and the
effects and scopes of grants agree with the manifest. -/
structure Uncompared (m : ManagementManifest) (t : Tenant) : Prop where
  parent : ∀ spec ∈ m.resources, spec.parent ≠ some []
  metadata : ∀ spec ∈ m.resources, ∀ s, spec.metadata = some s → ∀ e, Held m (t.read m) spec.key e →
    (Json.obj s).pyEq e.metadata = true → (Json.obj s).same e.metadata = true
  scope : ∀ p ∈ scopeSpecs m, ∀ e, ScopeKeyIs m t p.2.key e → e.description = p.2.description
  grant : ∀ role ∈ m.roles, ∀ g ∈ role.grants, ∀ p ∈ m.permissions, p.key = g.permission →
    ∀ ro, t.roles.find? (fun x => x.name = role.name) = some ro →
    ∀ pe, t.permissions.find? (fun x => x.action = p.action) = some pe →
    ∃ e ∈ t.grants ro.id, e.permissionId = pe.id ∧ e.effect = g.statedEffect ∧
      ∀ id, id ∈ e.scopeIds ↔ ∃ key ∈ g.scopes, ∃ s, ScopeKeyIs m t key s ∧ s.id = id

theorem mem_below {κ α : Type} [DecidableEq κ] {table : List (κ × α)} {k : κ} {a : α} :
    a ∈ below table k ↔ (k, a) ∈ table := by
  rw [below, List.mem_filterMap]
  constructor
  · rintro ⟨⟨k', a'⟩, hrow, he⟩
    split at he
    · next hk =>
      cases he
      exact hk ▸ hrow
    · cases he
  · intro h
    exact ⟨(k, a), h, if_pos rfl⟩

theorem AreIds.inj {α : Type} {l : List α} {id : α → PyStr} (h : AreIds (l.map id)) {a b : α} (ha : a ∈ l)
    (hb : b ∈ l) (he : id a = id b) : a = b :=
  List.inj_on_of_nodup_map (List.nodup_cons.1 h).2 ha hb he

/-! ## What a converged plan has matched -/

section Converged
variable {m : ManagementManifest} {t : Tenant} {steps : List Planned} {r : Resolved}
  {ordered : List ResourceSpec} {network : List Planned}

theorem Held.mem {key : PyStr} {res : Resource} (h : Held m (t.read m) key res) : res ∈ t.resources := by
  cases h with
  | root hs hparent hfound => exact mem_listAll (List.mem_of_find?_eq_some hfound)
  | child hs hparent habove hfound => exact mem_listAll (List.mem_of_find?_eq_some hfound)

theorem resource_facts (hm : WellFormed m) (hsec : Sections m (t.read m) steps r ordered network)
    (hu : Unchanged m (t.read m) r) {spec : ResourceSpec} (hs : spec ∈ m.resources) :
    ∃ e, Held m (t.read m) spec.key e ∧ r.resources.get? spec.key = some e.id ∧ e.name = spec.name ∧
      e.resourceType = spec.resourceType ∧ metadataDiffers e.metadata spec.metadata = false ∧
      e.parentId = (truthy? spec.parent).bind r.resources.get? ∧
      ∀ p, spec.parent = some p → ∃ id, r.resources.get? p = some id := by
  obtain ⟨e, hmatch, htype, hmeta⟩ := hu.resource spec hs
  have hget := hsec.resolution.resource spec hs
  rw [hmatch] at hget
  cases hparent : spec.parent with
  | none =>
    rw [matchResource_root hparent] at hmatch
    have hfound := List.find?_some hmatch
    simp only [decide_eq_true_eq] at hfound
    refine ⟨e, .root hs hparent hmatch, hget, hfound.1, htype, hmeta, hfound.2, fun p hp => ?_⟩
    cases hp
  | some p =>
    cases hp : r.resources.get? p with
    | none =>
      rw [matchResource_pending hparent hp] at hmatch
      cases hmatch
    | some id =>
      rw [matchResource_child hparent hp] at hmatch
      have hfound := List.find?_some hmatch
      simp only [decide_eq_true_eq] at hfound
      obtain ⟨above, habove, rfl⟩ := held_of_resolved hsec hm (hsec.parent_declared hm hs hparent) hp
      refine ⟨e, .child hs hparent habove hmatch, hget, hfound.1, htype, hmeta, ?_, fun p' hp' => ?_⟩
      · rw [hfound.2]
        cases p with
        | nil => rfl
        | cons c cs => exact hp.symm
      · cases hp'
        exact ⟨above.id, hp⟩

theorem scope_facts (hm : WellFormed m) (hsec : Sections m (t.read m) steps r ordered network)
    (hu : Unchanged m (t.read m) r) {p : ResourceSpec × ScopeSpec} (hp : p ∈ scopeSpecs m) :
    ∃ res e, Held m (t.read m) p.1.key res ∧ r.resources.get? p.1.key = some res.id ∧
      (t.scopes res.id).find? (fun s => s.name = p.2.name) = some e ∧ r.scopes.get? p.2.key = some e.id := by
  obtain ⟨e, hmatch⟩ := Option.isSome_iff_exists.1 (hu.scope p hp)
  have hget := hsec.resolution.scope p hp
  rw [hmatch] at hget
  obtain ⟨id, hid, -, hlisted⟩ := mem_listed_readEach (List.mem_of_find?_eq_some hmatch)
  obtain ⟨spec, hs, hp'⟩ := List.mem_flatMap.1 hp
  obtain ⟨scope, -, rfl⟩ := List.mem_map.1 hp'
  obtain ⟨res, hres, rfl⟩ := held_of_resolved hsec hm (List.mem_map_of_mem hs) hid
  rw [matchScope, hid] at hmatch
  exact ⟨res, e, hres, hid, hlisted ▸ hmatch, hget⟩

theorem scopeSpecs_key (hm : WellFormed m) {p q : ResourceSpec × ScopeSpec} (hp : p ∈ scopeSpecs m)
    (hq : q ∈ scopeSpecs m) (he : p.2.key = q.2.key) : p = q := by
  have hkeys := hm.scopeKeys
  rw [← scopeSpecs_map, List.map_map] at hkeys
  exact List.inj_on_of_nodup_map hkeys hp hq he

theorem scopeKeyIs_iff (hm : WellFormed m) (hsec : Sections m (t.read m) steps r ordered network)
    (hu : Unchanged m (t.read m) r) {p : ResourceSpec × ScopeSpec} (hp : p ∈ scopeSpecs m) {res : Resource}
    {e s : Scope} (hres : r.resources.get? p.1.key = some res.id)
    (hfound : (t.scopes res.id).find? (fun s => s.name = p.2.name) = some e) :
    ScopeKeyIs m t p.2.key s ↔ s = e := by
  constructor
  · rintro ⟨q, hq, he, res', hres', hfound'⟩
    have hqp := scopeSpecs_key hm hq hp he
    subst hqp
    have hid := hres'.resolved hsec.resolution
    rw [hres, Option.some.injEq] at hid
    rw [← hid, hfound] at hfound'
    cases hfound'
    rfl
  · rintro rfl
    obtain ⟨res', e', hheld, hres', hfound', -⟩ := scope_facts hm hsec hu hp
    rw [hres, Option.some.injEq] at hres'
    exact ⟨p, hp, rfl, res', hheld, hres' ▸ hfound⟩

theorem scopeKey_resolved (hm : WellFormed m) (hsec : Sections m (t.read m) steps r ordered network)
    (hu : Unchanged m (t.read m) r) {key id : PyStr} (hkey : key ∈ (allScopes m).map ScopeSpec.key) :
    r.scopes.get? key = some id ↔ ∃ s, ScopeKeyIs m t key s ∧ s.id = id := by
  rw [← scopeSpecs_map, List.map_map] at hkey
  obtain ⟨p, hp, rfl⟩ := List.mem_map.1 hkey
  obtain ⟨res, e, -, hres, hfound, hget⟩ := scope_facts hm hsec hu hp
  show r.scopes.get? p.2.key = some id ↔ ∃ s, ScopeKeyIs m t p.2.key s ∧ s.id = id
  simp only [scopeKeyIs_iff hm hsec hu hp hres hfound, exists_eq_left, hget, Option.some.injEq]

theorem boundSubjects_eq (m : ManagementManifest) (snapshot : Snapshot) :
    boundSubjects m = (subjects m snapshot).map (fun u => (u.kind, u.key, u.roles)) := by
  simp only [boundSubjects, subjects, List.map_append, List.map_map]
  rfl

theorem subject_id {snapshot : Snapshot} (hr : Resolution m snapshot r) {u : Subject}
    (hu : u ∈ subjects m snapshot) : (r.subjects u.kind).get? u.key = u.id? := by
  simp only [subjects, List.mem_append, List.mem_map] at hu
  obtain (⟨g, hg, rfl⟩ | ⟨u, hu, rfl⟩) | ⟨s, hs, rfl⟩ := hu
  · exact hr.group g hg
  · exact hr.user u hu
  · exact hr.serviceAccount s hs

theorem binding_facts (hm : WellFormed m) (hsec : Sections m (t.read m) steps r ordered network)
    (hun : Unchanged m (t.read m) r) {u : SubjectKind × PyStr × List RoleBinding} (hu : u ∈ boundSubjects m)
    {b : RoleBinding} (hb : b ∈ u.2.2) : ∃ roleId subjectId,
      r.roles.get? (roleKey b) = some roleId ∧ (r.subjects u.1).get? u.2.1 = some subjectId ∧
      ∃ e ∈ t.bindings u.1 roleId, e.subjectId = subjectId ∧ BindingIs r e b := by
  rw [boundSubjects_eq m (t.read m)] at hu
  obtain ⟨v, hv, rfl⟩ := List.mem_map.1 hu
  have hdeclared := subjects_declared hm hv
  obtain ⟨role, hrole, hkey⟩ := List.mem_map.1 (hdeclared.role b hb)
  obtain ⟨existing, hstanding, hresource, hinherit⟩ := hun.binding v hv b hb
  have hfind : m.roles.find? (fun role => role.key = roleKey b) = some role := by
    rw [← hkey]
    exact find?_key hm.roleKeys hrole
  rw [standing, matchedRole, hfind, Option.bind_some] at hstanding
  obtain ⟨ro, hmatch, hexisting⟩ := Option.bind_eq_some_iff.1 hstanding
  obtain ⟨subjectId, hid, hfound⟩ := Option.bind_eq_some_iff.1 hexisting
  have hmem := List.mem_of_find?_eq_some hfound
  rw [read_bindings] at hmem
  obtain ⟨roleId, hroleId, hin, -⟩ := mem_listed_readEach hmem
  cases hroleId
  have hsubjectId := List.find?_some hfound
  refine ⟨ro.id, subjectId, ?_, ?_, existing, hin, by simpa using hsubjectId, ?_⟩
  · rw [← hkey, hsec.resolution.role role hrole, hmatch]
    rfl
  · exact (subject_id hsec.resolution hv).trans hid
  · obtain role | ⟨role, resource, inherit⟩ := b
    · exact ⟨hresource, hinherit⟩
    · obtain ⟨spec, hspec, hreskey⟩ := List.mem_map.1 (hdeclared.resource _ hb resource rfl)
      obtain ⟨e, -, hget, -⟩ := resource_facts hm hsec hun hspec
      rw [hreskey] at hget
      exact ⟨⟨e.id, hget, hresource.trans hget⟩, hinherit⟩

theorem noDrift_of_uncompared (hm : WellFormed m) (hsec : Sections m (t.read m) steps r ordered network)
    (hun : Unchanged m (t.read m) r) (h : Uncompared m t) : NoDrift m t r := by
  have hr := hsec.resolution
  refine ⟨?_, ?_, ?_, ?_, ?_, ?_, ?_, ?_, fun u hu b hb => binding_facts hm hsec hun hu hb, ?_⟩
  · intro spec hs
    obtain ⟨e, hheld, hget, hname, htype, hmeta, hparentId, hparents⟩ := resource_facts hm hsec hun hs
    refine ⟨e, hheld.mem, hget, hname, htype, ?_, fun s hs' => h.metadata spec hs s hs' e hheld ?_⟩
    · cases hparent : spec.parent with
      | none =>
        rw [hparent] at hparentId
        exact hparentId
      | some p =>
        obtain ⟨id, hid⟩ := hparents p hparent
        refine ⟨id, hid, ?_⟩
        rw [hparentId, hparent]
        cases p with
        | nil => exact absurd hparent (h.parent spec hs)
        | cons c cs => exact hid
    · rw [hs', metadataDiffers, Bool.not_eq_false'] at hmeta
      exact hmeta
  · intro p hp
    obtain ⟨res, e, -, hres, hfound, hget⟩ := scope_facts hm hsec hun hp
    have hname := List.find?_some hfound
    refine ⟨res.id, hres, e, List.mem_of_find?_eq_some hfound, hget, by simpa using hname, ?_⟩
    exact h.scope p hp e ((scopeKeyIs_iff hm hsec hun hp hres hfound).2 rfl)
  · intro p hp
    obtain ⟨e, hmatch, hdescription⟩ := hun.permission p hp
    have haction := List.find?_some hmatch
    refine ⟨e, mem_listAll (List.mem_of_find?_eq_some hmatch), ?_, by simpa using haction, hdescription⟩
    rw [hr.permission p hp, hmatch]
    rfl
  · intro role hrole
    obtain ⟨e, hmatch, hdescription, hglobal⟩ := hun.role role hrole
    have hname := List.find?_some hmatch
    refine ⟨e, mem_listAll (List.mem_of_find?_eq_some hmatch), ?_, by simpa using hname, hdescription, hglobal⟩
    rw [hr.role role hrole, hmatch]
    rfl
  · intro role hrole g hg
    obtain ⟨ro, hro, -⟩ := hun.role role hrole
    obtain ⟨p, hp, hkey⟩ := List.mem_map.1 (hm.permission role hrole g hg)
    obtain ⟨pe, hpe, -⟩ := hun.permission p hp
    have hroId : r.roles.get? role.key = some ro.id := by rw [hr.role role hrole, hro]; rfl
    have hpeId : r.permissions.get? g.permission = some pe.id := by
      rw [← hkey, hr.permission p hp, hpe]
      rfl
    have hro' : t.roles.find? (fun x => x.name = role.name) = some ro := by
      rw [← listAll_eq (core_of_role hrole) t.roles]
      exact hro
    have hpe' : t.permissions.find? (fun x => x.action = p.action) = some pe := by
      rw [← listAll_eq (core_of_permission hp) t.permissions]
      exact hpe
    obtain ⟨e, he, hid, heffect, hscopes⟩ := h.grant role hrole g hg p hp hkey ro hro' pe hpe'
    refine ⟨ro.id, pe.id, hroId, hpeId, e, he, hid, heffect, fun id => ?_⟩
    rw [hscopes id]
    refine exists_congr fun key => and_congr_right fun hkey' => ?_
    exact (scopeKey_resolved hm hsec hun (hm.scope role hrole g hg key hkey')).symm
  · intro g hg
    obtain ⟨e, hmatch, hdescription⟩ := hun.group g hg
    have hname := List.find?_some hmatch
    refine ⟨e, mem_listAll (List.mem_of_find?_eq_some hmatch), ?_, by simpa using hname, hdescription⟩
    rw [hr.group g hg, hmatch]
    rfl
  · intro u hu
    obtain ⟨e, hmatch, hemail⟩ := hun.user u hu
    have hname := List.find?_some hmatch
    refine ⟨e, mem_listAll (List.mem_of_find?_eq_some hmatch), ?_, by simpa using hname, hemail⟩
    rw [hr.user u hu, hmatch]
    rfl
  · intro s hs
    obtain ⟨e, hmatch, hdescription⟩ := hun.serviceAccount s hs
    obtain ⟨hmem, hname⟩ := matchServiceAccount_some hmatch
    refine ⟨e, mem_listAll hmem, ?_, hname, hdescription⟩
    rw [hr.serviceAccount s hs, hmatch]
    rfl
  · intro u hu g hg
    obtain ⟨userId, huser, hmem⟩ := hun.member u hu g hg
    obtain ⟨groupId, hgroup, hin, -⟩ := mem_listed_readEach hmem
    exact ⟨groupId, userId, hgroup, huser, hin⟩

theorem uncompared_of_noDrift (hm : WellFormed m) (hsec : Sections m (t.read m) steps r ordered network)
    (hun : Unchanged m (t.read m) r) (h : NoDrift m t r) : Uncompared m t := by
  have hr := hsec.resolution
  refine ⟨?_, ?_, ?_, ?_⟩
  · intro spec hs hparent
    obtain ⟨e, he, hget, -, -, hparentIs, -⟩ := h.resource spec hs
    obtain ⟨e', hheld, hget', -, -, -, hparentId, -⟩ := resource_facts hm hsec hun hs
    rw [hget, Option.some.injEq] at hget'
    have heq := t.sound.resources.inj he hheld.mem hget'
    subst heq
    rw [hparent] at hparentIs hparentId
    obtain ⟨id, -, hid⟩ := hparentIs
    rw [hid] at hparentId
    cases hparentId
  · intro spec hs s hs' e hheld _
    obtain ⟨e', he', hget, -, -, -, hmeta⟩ := h.resource spec hs
    have hget' := hheld.resolved hr
    rw [hget, Option.some.injEq] at hget'
    have heq := t.sound.resources.inj he' hheld.mem hget'
    subst heq
    exact hmeta s hs'
  · intro p hp e hkey
    obtain ⟨res, e', -, hres, hfound, hget⟩ := scope_facts hm hsec hun hp
    have heq := (scopeKeyIs_iff hm hsec hun hp hres hfound).1 hkey
    subst heq
    obtain ⟨id, hid, e', he', hget', -, hdescription⟩ := h.scope p hp
    rw [hres, Option.some.injEq] at hid
    subst hid
    rw [hget, Option.some.injEq] at hget'
    have heq := t.sound.scopes.inj (mem_below.1 (List.mem_of_find?_eq_some hfound)) (mem_below.1 he') hget'
    rw [(Prod.mk.inj heq).2]
    exact hdescription
  · intro role hrole g hg p hp hkey ro hro pe hpe
    obtain ⟨roleId, permissionId, hroleId, hpermissionId, e, he, hid, heffect, hscopes⟩ :=
      h.grant role hrole g hg
    have hro' : matchRole (t.read m) role = some ro := by
      rw [← hro, ← listAll_eq (core_of_role hrole) t.roles]
      rfl
    have hpe' : matchPermission (t.read m) p = some pe := by
      rw [← hpe, ← listAll_eq (core_of_permission hp) t.permissions]
      rfl
    rw [hr.role role hrole, hro'] at hroleId
    cases hroleId
    rw [← hkey, hr.permission p hp, hpe'] at hpermissionId
    cases hpermissionId
    refine ⟨e, he, hid, heffect, fun id => ?_⟩
    rw [hscopes id]
    refine exists_congr fun key => and_congr_right fun hkey' => ?_
    exact scopeKey_resolved hm hsec hun (hm.scope role hrole g hg key hkey')

/-- **A converged plan means no drift** exactly when what the planner does not compare agrees. -/
theorem converged_noDrift_iff (hplan : Planable m (t.read m) steps r)
    (hconverged : (ManagementPlan.mk (steps.map Prod.fst)).isConverged = true) :
    NoDrift m t r ↔ Uncompared m t := by
  obtain ⟨hvalid, ha, hcompute, -⟩ := hplan
  have hm := hvalid.wellFormed
  obtain ⟨ordered, network, hsec⟩ := compute_ok hm hcompute
  have hun := ((isConverged_iff hm hsec ha).1 hconverged).1
  exact ⟨uncompared_of_noDrift hm hsec hun, noDrift_of_uncompared hm hsec hun⟩

end Converged

/-! ## A deny over an allow -/

/-- A role with one grant of one permission. -/
def granting (effect : PyStr) : ManagementManifest where
  resources := []
  permissions := [⟨lit "read", lit "doc:read", []⟩]
  roles := [⟨lit "editor", lit "editor", [], false, [⟨lit "read", some effect, []⟩]⟩]
  groups := []
  users := []
  serviceAccounts := []
  network := none

/-- The tenant that holds it with an allow. -/
def allowing : Tenant where
  resources := []
  scopeTable := []
  permissions := [⟨lit "p", lit "doc:read", []⟩]
  roles := [⟨lit "r", lit "editor", [], false⟩]
  groups := []
  users := []
  serviceAccounts := []
  grantTable := [(lit "r", ⟨lit "p", lit "allow", []⟩)]
  bindingTable := []
  memberTable := []
  networkPolicy := none
  networkSegments := []
  networkProfiles := []
  sound := ⟨by decide, by decide, by decide, by decide, by decide, by decide, by decide, by decide⟩

theorem allow_held : ∃ steps r, Planable (granting (lit "allow")) (allowing.read (granting (lit "allow"))) steps r ∧
    NoDrift (granting (lit "allow")) allowing r := by
  have hplan : Planable (granting (lit "allow")) (allowing.read (granting (lit "allow"))) _ _ :=
    ⟨by decide, rfl, rfl, rfl⟩
  refine ⟨_, _, hplan, (converged_noDrift_iff hplan rfl).2 ⟨?_, ?_, ?_, ?_⟩⟩
  all_goals simp [granting, allowing, scopeSpecs, GrantSpec.statedEffect, TenantData.grants, below]

theorem deny_unseen : ∃ steps r, Planable (granting (lit "deny")) (allowing.read (granting (lit "deny"))) steps r ∧
    (ManagementPlan.mk (steps.map Prod.fst)).isConverged = true ∧ ¬ NoDrift (granting (lit "deny")) allowing r := by
  refine ⟨_, _, ⟨by decide, rfl, rfl, rfl⟩, rfl, fun h => ?_⟩
  obtain ⟨roleId, permissionId, -, -, e, he, -, heffect, -⟩ :=
    h.grant _ (List.mem_singleton_self _) _ (List.mem_singleton_self _)
  have hallow : e.effect = lit "allow" := by
    have hrow := mem_below.1 he
    rw [(Prod.mk.inj (List.mem_singleton.1 hrow)).2]
  rw [hallow] at heffect
  cases heffect

end AxiamSdk.Manifest
