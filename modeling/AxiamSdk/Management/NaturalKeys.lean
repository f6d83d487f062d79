import AxiamSdk.Management.KeyResolution

/-! # Natural keys of what a plan creates

The tenant knows its objects by natural keys, the manifest by keys of its own; `validate` compares the
latter.

* `naturals`: the natural keys of the objects that a list of steps creates.
* `naturalKeys_iff`: they are distinct, and no account name becomes ambiguous, exactly when the specs
  the tenant lacks have distinct natural keys. -/

namespace AxiamSdk.Manifest
open PyLib
set_option autoImplicit false

/-! ## The objects a plan creates -/

/-- Where a scope goes: a resource of the tenant, or one still to be created. -/
inductive Place
  | existing (id : PyStr)
  | pending (key : PyStr)
  deriving DecidableEq

/-- What the tenant knows an object by. -/
inductive NaturalKey
  | resource (name : PyStr) (parent : Option PyStr)
  | scope (place : Place) (name : PyStr)
  | permission (action : PyStr)
  | role (name : PyStr)
  | group (name : PyStr)
  | user (username : PyStr)
  | serviceAccount (name : PyStr)
  | segment (identity : PyStr × PyStr × PyStr)
  deriving DecidableEq

def NaturalKey.kind : NaturalKey → KeyKind
  | .resource .. => .resource
  | .scope .. => .scope
  | .permission _ => .permission
  | .role _ => .role
  | .group _ => .group
  | .user _ => .user
  | .serviceAccount _ => .serviceAccount
  | .segment _ => .segment

/-- The place of a resource key, by the keys resolved in planning. -/
def Resolved.place (r : Resolved) (key : PyStr) : Place :=
  match r.resources.get? key with
  | some id => .existing id
  | none => .pending key

/-- The natural key of what a step creates. -/
def Step.natural (r : Resolved) : Step → Option NaturalKey
  | .createResource _ name _ parent _ => some (.resource name parent)
  | .createScope _ resource name _ => some (.scope (r.place resource) name)
  | .createPermission _ action _ => some (.permission action)
  | .createRole _ name _ _ => some (.role name)
  | .createGroup _ name _ => some (.group name)
  | .createUser _ username _ _ => some (.user username)
  | .createServiceAccount _ name _ => some (.serviceAccount name)
  | .createNetworkSegment _ body => some (.segment (body.siteKey, body.kind, body.name))
  | _ => none

def naturals (r : Resolved) (steps : List Planned) : List NaturalKey :=
  steps.filterMap (fun p => p.2.natural r)

/-- No two objects of one kind are created with one natural key. -/
def CreatesDistinct (r : Resolved) (steps : List Planned) : Prop := (naturals r steps).Nodup

theorem natural_of_makes {r : Resolved} {step : Step} (h : step.makes = []) : step.natural r = none := by
  cases step <;> first | rfl | cases h

/-! ## Section by section -/

/-- The specs that match nothing. -/
def missing {α β : Type} (match? : α → Option β) (specs : List α) : List α :=
  specs.filter (fun s => (match? s).isNone)

section Specs
variable {α β : Type} {specs : List α} {kind : KeyKind} {key : α → PyStr} {match? : α → Option β}
  {create : α → Step} {f : α → Planned} {r : Resolved} {natural : α → NaturalKey}

theorem naturals_section (specs : List α) (r : Resolved) (natural : α → NaturalKey)
    (hplaces : ∀ s, Places (kind, key s) (match? s) (create s) (f s))
    (hnatural : ∀ s, (create s).natural r = some (natural s)) :
    naturals r (specs.map f) = (specs.filter (fun s => (match? s).isNone)).map natural := by
  induction specs with
  | nil => rfl
  | cons s specs ih =>
    rw [naturals] at ih ⊢
    cases hf : match? s with
    | none =>
      have hs : (f s).2.natural r = some (natural s) := by rw [(hplaces s).missing hf, hnatural]
      simp only [List.map_cons, List.filterMap_cons, hs, ih, List.filter_cons, hf, Option.isNone_none, if_true]
    | some a =>
      have hs : (f s).2.natural r = none := natural_of_makes ((hplaces s).found a hf).2.1
      simp only [List.map_cons, List.filterMap_cons, hs, ih, List.filter_cons, hf, Option.isNone_some,
        Bool.false_eq_true, if_false]

theorem naturals_nil {steps : List Planned} (h : ∀ p ∈ steps, planMakes p = []) : naturals r steps = [] := by
  rw [naturals, List.filterMap_eq_nil_iff]
  exact fun p hp => natural_of_makes (h p hp)

/-- Of specs with distinct keys, those the tenant lacks have distinct natural keys. -/
def DistinctWhereMissing {γ : Type} (specs : List α) (key : α → PyStr) (present : α → Prop)
    (natural : α → γ) : Prop :=
  ∀ a ∈ specs, ∀ b ∈ specs, key a ≠ key b → ¬ present a → ¬ present b → natural a ≠ natural b

theorem nodup_missing {γ : Type} (natural : α → NaturalKey) (present : α → Prop) (name : α → γ)
    (hkeys : (specs.map key).Nodup) (hpresent : ∀ s ∈ specs, (match? s).isSome ↔ present s)
    (hname : ∀ a b, natural a = natural b ↔ name a = name b) :
    ((missing match? specs).map natural).Nodup ↔ DistinctWhereMissing specs key present name := by
  have hmissing : ∀ s ∈ specs, (match? s).isNone = true ↔ ¬ present s := by
    intro s hs
    rw [← hpresent s hs]
    cases match? s <;> simp
  rw [missing, List.nodup_map_iff_inj_on (hkeys.of_map.filter _)]
  constructor
  · intro h a ha b hb hne hma hmb he
    have hab := h a (List.mem_filter.2 ⟨ha, (hmissing a ha).2 hma⟩) b
      (List.mem_filter.2 ⟨hb, (hmissing b hb).2 hmb⟩) ((hname a b).2 he)
    exact hne (hab ▸ rfl)
  · intro h a ha b hb he
    obtain ⟨ha, hma⟩ := List.mem_filter.1 ha
    obtain ⟨hb, hmb⟩ := List.mem_filter.1 hb
    by_contra hne
    exact h a ha b hb (fun hk => hne (List.inj_on_of_nodup_map hkeys ha hb hk))
      ((hmissing a ha).1 hma) ((hmissing b hb).1 hmb) ((hname a b).1 he)

end Specs

/-! ## The whole plan -/

section Plan
variable {m : ManagementManifest} {snapshot : Snapshot} {steps : List Planned} {r : Resolved}
  {ordered : List ResourceSpec} {network : List Planned}

/-- The segments of the manifest. -/
def segmentSpecs (m : ManagementManifest) : List NetworkSegmentSpec :=
  (m.network.map NetworkSpec.segments).getD []

theorem naturals_append (l₁ l₂ : List Planned) : naturals r (l₁ ++ l₂) = naturals r l₁ ++ naturals r l₂ :=
  List.filterMap_append ..

theorem naturals_grants (m : ManagementManifest) (snapshot : Snapshot) (r : Resolved) :
    naturals r (m.roles.flatMap (fun role => role.grants.map (planGrant snapshot r role))) = [] := by
  refine naturals_nil fun p hp => ?_
  obtain ⟨role, -, hp⟩ := List.mem_flatMap.1 hp
  obtain ⟨grant, -, rfl⟩ := List.mem_map.1 hp
  rw [planGrant]
  split
  · rfl
  · rfl

theorem naturals_members (m : ManagementManifest) (snapshot : Snapshot) (r : Resolved) :
    naturals r (m.users.flatMap (fun u => u.groups.map (planGroupMember snapshot r u))) = [] := by
  refine naturals_nil fun p hp => ?_
  obtain ⟨u, -, hp⟩ := List.mem_flatMap.1 hp
  obtain ⟨g, -, rfl⟩ := List.mem_map.1 hp
  rw [planGroupMember]
  split
  · rfl
  · rfl

theorem naturals_subjectRoles {α : Type} (snapshot : Snapshot) (r : Resolved) (specs : List α)
    (subject : α → Subject) : naturals r
      (specs.flatMap (fun s => (subject s).roles.map (planSubjectRole snapshot r (subject s)))) = [] := by
  refine naturals_nil fun p hp => ?_
  obtain ⟨s, -, hp⟩ := List.mem_flatMap.1 hp
  obtain ⟨b, -, rfl⟩ := List.mem_map.1 hp
  rw [planSubjectRole, planRoleBinding]
  dsimp only
  split
  · rfl
  · split
    · rfl
    · rfl

theorem naturals_network (h : networkSteps m snapshot = .ok network) : naturals r network =
    (missing (matchSegment snapshot) (segmentSpecs m)).map (fun s => .segment s.identity) := by
  rw [networkSteps] at h
  rw [segmentSpecs]
  cases hn : m.network with
  | none =>
    rw [hn] at h
    cases h
    rfl
  | some n =>
    rw [hn] at h
    obtain ⟨ordered, profiles, -, hprofiles, rfl⟩ := planNetwork_ok h
    have hpolicy : naturals r (n.policy.toList.map (planNetworkPolicy snapshot.networkPolicy)) = [] := by
      refine naturals_nil fun p hp => ?_
      obtain ⟨policy, -, rfl⟩ := List.mem_map.1 hp
      rw [planNetworkPolicy]
      split
      · rfl
      · rfl
    have hprofile : naturals r profiles = [] := by
      refine naturals_nil fun p hp => ?_
      obtain ⟨spec, -, hplan⟩ := collect_mem hprofiles p hp
      exact (planProfile_ok hplan).2.1
    rw [naturals_append, naturals_append, hpolicy, hprofile, List.nil_append, List.append_nil]
    exact naturals_section n.segments r (fun s => .segment s.identity)
      (fun s => places_segment s (matchSegment snapshot s)) (fun s => rfl)

theorem naturals_eq (hsec : Sections m snapshot steps r ordered network)
    (ha : ambiguousServiceAccounts m snapshot = []) : naturals r steps =
      (missing (matchResource snapshot r.resources) ordered).map (fun s => .resource s.name s.parent) ++
      (missing (fun p => matchScope snapshot r.resources p.1 p.2) (scopeSpecs m)).map
        (fun p => .scope (r.place p.1.key) p.2.name) ++
      (missing (matchPermission snapshot) m.permissions).map (fun p => .permission p.action) ++
      (missing (matchRole snapshot) m.roles).map (fun role => .role role.name) ++
      (missing (matchGroup snapshot) m.groups).map (fun g => .group g.name) ++
      (missing (matchUser snapshot) m.users).map (fun u => .user u.username) ++
      (missing (matchServiceAccount snapshot) m.serviceAccounts).map (fun s => .serviceAccount s.name) ++
      (missing (matchSegment snapshot) (segmentSpecs m)).map (fun s => .segment s.identity) := by
  have hr := hsec.resolution
  have hresource := naturals_section ordered r (fun s => .resource s.name s.parent)
    (fun spec => places_resource spec (matchResource snapshot r.resources spec)) (fun s => rfl)
  have hscope := naturals_section (scopeSpecs m) r (fun p => .scope (r.place p.1.key) p.2.name)
    (fun p => places_scope p.1 p.2 (matchScope snapshot r.resources p.1 p.2)) (fun s => rfl)
  have hpermission := naturals_section m.permissions r (fun p => .permission p.action)
    (fun p => places_permission p (matchPermission snapshot p)) (fun s => rfl)
  have hrole := naturals_section m.roles r (fun s => .role s.name)
    (fun role => places_role role (matchRole snapshot role)) (fun s => rfl)
  have hgroup := naturals_section m.groups r (fun s => .group s.name)
    (fun g => places_group g (matchGroup snapshot g)) (fun s => rfl)
  have huser := naturals_section m.users r (fun s => .user s.username)
    (fun u => places_user u (matchUser snapshot u)) (fun s => rfl)
  have haccount := naturals_section m.serviceAccounts r (fun s => .serviceAccount s.name)
    (fun s => places_serviceAccount s (matchServiceAccount snapshot s)) (fun s => rfl)
  have hgroupRoles : naturals r (m.groups.flatMap (fun g => g.roles.map
      (planSubjectRole snapshot r (groupSubject snapshot g)))) = [] :=
    naturals_subjectRoles snapshot r m.groups (groupSubject snapshot)
  have huserRoles : naturals r (m.users.flatMap (fun u => u.roles.map
      (planSubjectRole snapshot r (userSubject snapshot u)))) = [] :=
    naturals_subjectRoles snapshot r m.users (userSubject snapshot)
  have haccountRoles : naturals r (m.serviceAccounts.flatMap (fun s => s.roles.map
      (planSubjectRole snapshot r (accountSubject snapshot s)))) = [] :=
    naturals_subjectRoles snapshot r m.serviceAccounts (accountSubject snapshot)
  rw [hsec.steps_eq, coreSteps_eq hr ha]
  simp only [naturals_append, hresource, hscope, hpermission, hrole, hgroup, huser, haccount, hgroupRoles,
    huserRoles, haccountRoles, naturals_grants, naturals_members, naturals_network hsec.network_eq, List.nil_append, List.append_assoc,
    missing]

theorem unambiguous (ha : ambiguousServiceAccounts m snapshot = []) {spec : ServiceAccountSpec}
    (hs : spec ∈ m.serviceAccounts) : ¬ 1 < (serviceAccountMatches snapshot spec).length := by
  rw [ambiguousServiceAccounts, List.map_eq_nil_iff, List.filter_eq_nil_iff] at ha
  simpa using ha spec hs

/-- Two scopes go into one resource. -/
def SameResource (m : ManagementManifest) (snapshot : Snapshot) (k k' : PyStr) : Prop :=
  k = k' ∨ ∃ res res', Held m snapshot k res ∧ Held m snapshot k' res' ∧ res.id = res'.id

/-- The tenant has the scope. -/
def ScopeHeld (m : ManagementManifest) (snapshot : Snapshot) (p : ResourceSpec × ScopeSpec) : Prop :=
  ∃ res, Held m snapshot p.1.key res ∧ ∃ s ∈ listed snapshot.scopes (some res.id), s.name = p.2.name

/-- The specs of one kind that the tenant lacks have distinct natural keys. -/
structure NaturalKeysDistinct (m : ManagementManifest) (snapshot : Snapshot) : Prop where
  resource : DistinctWhereMissing m.resources ResourceSpec.key (fun s => ∃ res, Held m snapshot s.key res)
    (fun s => (s.name, s.parent))
  scope : ∀ p ∈ scopeSpecs m, ∀ q ∈ scopeSpecs m, p.2.key ≠ q.2.key → ¬ ScopeHeld m snapshot p →
    ¬ ScopeHeld m snapshot q → ¬ (SameResource m snapshot p.1.key q.1.key ∧ p.2.name = q.2.name)
  permission : DistinctWhereMissing m.permissions PermissionSpec.key
    (fun s => ∃ e ∈ snapshot.permissions, e.action = s.action) PermissionSpec.action
  role : DistinctWhereMissing m.roles RoleSpec.key (fun s => ∃ e ∈ snapshot.roles, e.name = s.name)
    RoleSpec.name
  group : DistinctWhereMissing m.groups GroupSpec.key (fun s => ∃ e ∈ snapshot.groups, e.name = s.name)
    GroupSpec.name
  user : DistinctWhereMissing m.users UserSpec.key
    (fun s => ∃ e ∈ snapshot.users, e.username = s.username) UserSpec.username
  serviceAccount : DistinctWhereMissing m.serviceAccounts ServiceAccountSpec.key
    (fun s => ∃ e ∈ snapshot.serviceAccounts, e.name = s.name) ServiceAccountSpec.name

theorem isSome_find? {α : Type} {l : List α} {p : α → Prop} [DecidablePred p] :
    (l.find? (fun a => p a)).isSome ↔ ∃ a ∈ l, p a := by
  rw [List.find?_isSome]
  simp

theorem isSome_matchPermission (spec : PermissionSpec) :
    (matchPermission snapshot spec).isSome ↔ ∃ e ∈ snapshot.permissions, e.action = spec.action :=
  isSome_find?

theorem isSome_matchRole (spec : RoleSpec) :
    (matchRole snapshot spec).isSome ↔ ∃ e ∈ snapshot.roles, e.name = spec.name :=
  isSome_find?

theorem isSome_matchGroup (spec : GroupSpec) :
    (matchGroup snapshot spec).isSome ↔ ∃ e ∈ snapshot.groups, e.name = spec.name :=
  isSome_find?

theorem isSome_matchUser (spec : UserSpec) :
    (matchUser snapshot spec).isSome ↔ ∃ e ∈ snapshot.users, e.username = spec.username :=
  isSome_find?

theorem isSome_matchServiceAccount {spec : ServiceAccountSpec}
    (h : ¬ 1 < (serviceAccountMatches snapshot spec).length) :
    (matchServiceAccount snapshot spec).isSome ↔ ∃ e ∈ snapshot.serviceAccounts, e.name = spec.name := by
  have hmem : (∃ e ∈ snapshot.serviceAccounts, e.name = spec.name) ↔
      ∃ e, e ∈ serviceAccountMatches snapshot spec := by
    simp [serviceAccountMatches]
  rw [hmem, matchServiceAccount]
  generalize serviceAccountMatches snapshot spec = found at h
  obtain _ | ⟨e, _ | ⟨e', es⟩⟩ := found
  · simp
  · simp
  · exact absurd (by simp) h

theorem kind_of_map {α : Type} {l : List α} {natural : α → NaturalKey} {kind : KeyKind}
    (h : ∀ a, (natural a).kind = kind) : ∀ k ∈ l.map natural, k.kind = kind := by
  rw [List.forall_mem_map]
  exact fun a _ => h a

theorem nodup_kinds {l : List NaturalKey} {R S P Ro G U A N : List NaturalKey}
    (hl : l = R ++ S ++ P ++ Ro ++ G ++ U ++ A ++ N) (hR : ∀ k ∈ R, k.kind = .resource)
    (hS : ∀ k ∈ S, k.kind = .scope) (hP : ∀ k ∈ P, k.kind = .permission) (hRo : ∀ k ∈ Ro, k.kind = .role)
    (hG : ∀ k ∈ G, k.kind = .group) (hU : ∀ k ∈ U, k.kind = .user)
    (hA : ∀ k ∈ A, k.kind = .serviceAccount) (hN : ∀ k ∈ N, k.kind = .segment) :
    l.Nodup ↔ R.Nodup ∧ S.Nodup ∧ P.Nodup ∧ Ro.Nodup ∧ G.Nodup ∧ U.Nodup ∧ A.Nodup ∧ N.Nodup := by
  have hdisjoint : ∀ {l₁ l₂ : List NaturalKey}, (∀ k ∈ l₁, ∀ k' ∈ l₂, k.kind ≠ k'.kind) →
      ((l₁ ++ l₂).Nodup ↔ l₁.Nodup ∧ l₂.Nodup) := by
    intro l₁ l₂ h
    rw [List.nodup_append']
    refine ⟨fun hnd => ⟨hnd.1, hnd.2.1⟩, fun hnd => ⟨hnd.1, hnd.2, fun k hk hk' => h k hk k hk' rfl⟩⟩
  subst hl
  rw [hdisjoint, hdisjoint, hdisjoint, hdisjoint, hdisjoint, hdisjoint, hdisjoint]
  · tauto
  all_goals
    intro k hk k' hk'
    grind

theorem isSome_matchScope (hm : WellFormed m) (hsec : Sections m snapshot steps r ordered network)
    {p : ResourceSpec × ScopeSpec} (hp : p.1 ∈ m.resources) :
    (matchScope snapshot r.resources p.1 p.2).isSome ↔ ScopeHeld m snapshot p := by
  have hkey : p.1.key ∈ m.resources.map ResourceSpec.key := List.mem_map_of_mem hp
  rw [matchScope, isSome_find?]
  constructor
  · rintro ⟨s, hs, hname⟩
    cases hget : r.resources.get? p.1.key with
    | none =>
      rw [hget] at hs
      cases hs
    | some id =>
      obtain ⟨res, hres, rfl⟩ := held_of_resolved hsec hm hkey hget
      exact ⟨res, hres, s, hget ▸ hs, hname⟩
  · rintro ⟨res, hres, s, hs, hname⟩
    exact ⟨s, hres.resolved hsec.resolution ▸ hs, hname⟩

theorem place_eq_iff (hm : WellFormed m) (hsec : Sections m snapshot steps r ordered network)
    {k k' : PyStr} (hk : k ∈ m.resources.map ResourceSpec.key)
    (hk' : k' ∈ m.resources.map ResourceSpec.key) : r.place k = r.place k' ↔ SameResource m snapshot k k' := by
  rw [Resolved.place, Resolved.place]
  constructor
  · intro h
    cases hget : r.resources.get? k with
    | none =>
      cases hget' : r.resources.get? k' with
      | none =>
        rw [hget, hget'] at h
        cases h
        exact .inl rfl
      | some id' =>
        rw [hget, hget'] at h
        cases h
    | some id =>
      cases hget' : r.resources.get? k' with
      | none =>
        rw [hget, hget'] at h
        cases h
      | some id' =>
        rw [hget, hget'] at h
        cases h
        obtain ⟨res, hres, hid⟩ := held_of_resolved hsec hm hk hget
        obtain ⟨res', hres', hid'⟩ := held_of_resolved hsec hm hk' hget'
        exact .inr ⟨res, res', hres, hres', hid.trans hid'.symm⟩
  · rintro (rfl | ⟨res, res', hres, hres', hid⟩)
    · rfl
    · rw [hres.resolved hsec.resolution, hres'.resolved hsec.resolution, hid]

/-- **Distinct creates** are distinct natural keys among the specs that the tenant lacks. -/
theorem createsDistinct_iff (hm : WellFormed m) (hsec : Sections m snapshot steps r ordered network)
    (ha : ambiguousServiceAccounts m snapshot = []) :
    CreatesDistinct r steps ↔ NaturalKeysDistinct m snapshot := by
  have hr := hsec.resolution
  have hresource : ((missing (matchResource snapshot r.resources) ordered).map
      (fun s => NaturalKey.resource s.name s.parent)).Nodup ↔ DistinctWhereMissing m.resources
        ResourceSpec.key (fun s => ∃ res, Held m snapshot s.key res) (fun s => (s.name, s.parent)) := by
    rw [nodup_missing _ (fun s => ∃ res, Held m snapshot s.key res) (fun s => (s.name, s.parent))
      (((hsec.perm.map _).nodup_iff).2 hm.resourceKeys) ?_ (by simp)]
    · simp only [DistinctWhereMissing, hsec.perm.mem_iff]
    · intro s hs
      have hs' := hsec.perm.mem_iff.1 hs
      rw [← held_iff hm hsec (List.mem_map_of_mem hs'), hr.resource s hs', Option.isSome_map]
  have hspecs : ∀ p ∈ scopeSpecs m, p.1 ∈ m.resources := by
    intro p hp
    obtain ⟨spec, hs, hp⟩ := List.mem_flatMap.1 hp
    obtain ⟨scope, -, rfl⟩ := List.mem_map.1 hp
    exact hs
  have hscopeKeys : ((scopeSpecs m).map (fun p => p.2.key)).Nodup := by
    have hkeys := hm.scopeKeys
    rw [← scopeSpecs_map, List.map_map] at hkeys
    exact hkeys
  have hscope := nodup_missing (fun p => NaturalKey.scope (r.place p.1.key) p.2.name)
    (ScopeHeld m snapshot) (fun p => (r.place p.1.key, p.2.name)) hscopeKeys
    (fun p hp => isSome_matchScope hm hsec (hspecs p hp)) (by simp)
  have hpermission := nodup_missing (fun p => NaturalKey.permission p.action)
    (fun s => ∃ e ∈ snapshot.permissions, e.action = s.action) PermissionSpec.action hm.permissionKeys
    (fun s _ => isSome_matchPermission s) (by simp)
  have hrole := nodup_missing (fun s => NaturalKey.role s.name)
    (fun s => ∃ e ∈ snapshot.roles, e.name = s.name) RoleSpec.name hm.roleKeys
    (fun s _ => isSome_matchRole s) (by simp)
  have hgroup := nodup_missing (fun s => NaturalKey.group s.name)
    (fun s => ∃ e ∈ snapshot.groups, e.name = s.name) GroupSpec.name hm.groupKeys
    (fun s _ => isSome_matchGroup s) (by simp)
  have huser := nodup_missing (fun s => NaturalKey.user s.username)
    (fun s => ∃ e ∈ snapshot.users, e.username = s.username) UserSpec.username hm.userKeys
    (fun s _ => isSome_matchUser s) (by simp)
  have haccount := nodup_missing (fun s => NaturalKey.serviceAccount s.name)
    (fun s => ∃ e ∈ snapshot.serviceAccounts, e.name = s.name) ServiceAccountSpec.name
    hm.serviceAccountKeys (fun s hs => isSome_matchServiceAccount (unambiguous ha hs)) (by simp)
  have hsegment : ((missing (matchSegment snapshot) (segmentSpecs m)).map
      (fun s => NaturalKey.segment s.identity)).Nodup := by
    have hids : ((segmentSpecs m).map NetworkSegmentSpec.identity).Nodup := by
      rw [segmentSpecs]
      cases hn : m.network with
      | none => exact List.nodup_nil
      | some n => exact (hm.network n hn).identities
    have hkeys := hids.map (f := NaturalKey.segment) (fun a b he => by cases he; rfl)
    rw [List.map_map] at hkeys
    exact hkeys.sublist ((List.filter_sublist).map _)
  rw [CreatesDistinct, nodup_kinds (naturals_eq hsec ha) (kind_of_map fun _ => rfl)
    (kind_of_map fun _ => rfl) (kind_of_map fun _ => rfl) (kind_of_map fun _ => rfl)
    (kind_of_map fun _ => rfl) (kind_of_map fun _ => rfl) (kind_of_map fun _ => rfl)
    (kind_of_map fun _ => rfl), hresource, hscope, hpermission, hrole, hgroup, huser, haccount]
  have hplaces : DistinctWhereMissing (scopeSpecs m) (fun p => p.2.key) (ScopeHeld m snapshot)
      (fun p => (r.place p.1.key, p.2.name)) ↔
      ∀ p ∈ scopeSpecs m, ∀ q ∈ scopeSpecs m, p.2.key ≠ q.2.key → ¬ ScopeHeld m snapshot p →
        ¬ ScopeHeld m snapshot q → ¬ (SameResource m snapshot p.1.key q.1.key ∧ p.2.name = q.2.name) := by
    refine forall_congr' fun p => forall_congr' fun hp => forall_congr' fun q => forall_congr' fun hq => ?_
    rw [ne_eq (r.place p.1.key, p.2.name), Prod.mk.injEq, place_eq_iff hm hsec
      (List.mem_map_of_mem (hspecs p hp)) (List.mem_map_of_mem (hspecs q hq))]
  rw [hplaces]
  constructor
  · rintro ⟨h1, h2, h3, h4, h5, h6, h7, -⟩
    exact ⟨h1, h2, h3, h4, h5, h6, h7⟩
  · rintro ⟨h1, h2, h3, h4, h5, h6, h7⟩
    exact ⟨h1, h2, h3, h4, h5, h6, h7, hsegment⟩

end Plan

/-! ## Account names after an apply -/

/-- A tenant's service accounts, by name: a create adds one and nothing else changes them. -/
structure AccountNames {σ : Type} (serve : Server σ) (names : σ → List PyStr) : Prop where
  create : ∀ s call name, call.newAccount = some name → names (serve s call).1 = names s ++ [name]
  other : ∀ s call, call.newAccount = none → names (serve s call).1 = names s

section Accounts
variable {σ : Type} {serve : Server σ} {names : σ → List PyStr}

theorem AccountNames.call (h : AccountNames serve names) (s : σ) (call : Call) :
    names (serve s call).1 = names s ++ call.newAccount.toList := by
  cases hcall : call.newAccount with
  | none => rw [h.other s call hcall, Option.toList_none, List.append_nil]
  | some name => rw [h.create s call name hcall, Option.toList_some]

theorem runStep_names (hserve : Answers serve) (hnames : AccountNames serve names) (s : σ)
    {r : Resolved} {step : Step} (h : ∀ n ∈ step.names, r.has n) :
    names (runStep serve s r step).1 = names s ++ step.newAccount.toList := by
  obtain ⟨key, rfl⟩ | ⟨key, p, rfl⟩ | ⟨call, record, hstep, -, haccount⟩ := request_ok h
  · exact (List.append_nil _).symm
  · obtain ⟨roleId, subjectId, s₁, s₂, a₁, a₂, h₁, h₂, hrun⟩ := rebindRole_ok hserve s h
    have hs₁ := hnames.other s (.unassign p.subjectKind roleId subjectId p.previousResourceId) rfl
    have hs₂ := hnames.other s₁ (.assign p.subjectKind roleId subjectId
      ((truthy? p.resource).bind r.resources.get?) (inheritWire p.inherit) p.tenantScope) rfl
    rw [h₁] at hs₁
    rw [h₂, hs₁] at hs₂
    rw [runStep, hrun]
    exact hs₂.trans (List.append_nil _).symm
  · obtain ⟨s', a, hcall⟩ := hserve.call s call
    obtain ⟨secret, hrun⟩ := runStep_request hstep hcall
    have hs' := hnames.call s call
    rw [hcall] at hs'
    rw [hrun, ← haccount]
    exact hs'

theorem applyStep_names (repr : PyStr → PyStr) (hserve : Answers serve) (hnames : AccountNames serve names)
    {a : Applied σ} {p : Planned} (hgood : a.stopped = false) (h : ∀ n ∈ p.2.names, a.resolved.has n) :
    names (applyStep serve repr a p).server = names a.server ++ p.2.newAccount.toList := by
  have hrun := runStep_names hserve hnames a.server h
  cases hnoop : p.2.isNoop with
  | true =>
    rw [applyStep, hgood, hnoop]
    cases hp : p.2 with
    | noop key => exact (List.append_nil _).symm
    | _ => rw [hp] at hnoop; cases hnoop
  | false =>
    rw [applyStep_run serve hgood hnoop]
    cases hstep : runStep serve a.server a.resolved p.2 with
    | mk s' result =>
      rw [hstep] at hrun
      cases result with
      | error e => exact hrun
      | ok x => exact hrun

/-- The names of the accounts that a list of steps creates. -/
def newAccounts (steps : List Planned) : List PyStr := steps.filterMap (fun p => p.2.newAccount)

theorem foldl_names (repr : PyStr → PyStr) (hserve : Answers serve) (hnames : AccountNames serve names)
    {H : Key → Prop} {steps : List Planned} {a : Applied σ} (h : Supplied planNeeds planMakes H steps)
    (hgood : a.stopped = false) (hH : ∀ k, H k → a.resolved.has k) :
    names (steps.foldl (applyStep serve repr) a).server = names a.server ++ newAccounts steps := by
  induction steps generalizing a H with
  | nil => exact (List.append_nil _).symm
  | cons p steps ih =>
    have hneeds : ∀ n ∈ p.2.names, a.resolved.has n := fun n hn => hH n (h.1 n hn)
    obtain ⟨hgood', hgrow⟩ := applyStep_ok repr hserve hgood hneeds
    have hnext : ∀ k, After planMakes H [p] k → (applyStep serve repr a p).resolved.has k := by
      intro k hk
      obtain hk | ⟨q, hq, hk⟩ := hk
      · exact hgrow k (.inl (hH k hk))
      · rw [List.mem_singleton] at hq
        exact hgrow k (.inr (hq ▸ hk))
    rw [List.foldl_cons, ih h.2 hgood' hnext, applyStep_names repr hserve hnames hgood hneeds,
      List.append_assoc, newAccounts, newAccounts, List.filterMap_cons]
    cases p.2.newAccount with
    | none => rfl
    | some name => rfl

/-! ## Whole runs -/

variable {m : ManagementManifest} {snapshot : Snapshot} {steps : List Planned} {r : Resolved}
  {ordered : List ResourceSpec} {network : List Planned}

/-- The account names created are those of the specs that match no account. -/
theorem newAccounts_eq (hsec : Sections m snapshot steps r ordered network)
    (ha : ambiguousServiceAccounts m snapshot = []) : newAccounts steps =
      (missing (matchServiceAccount snapshot) m.serviceAccounts).map ServiceAccountSpec.name := by
  have haccount : ∀ step : Step, step.newAccount = (step.natural r).bind (fun k => match k with
      | .serviceAccount name => some name
      | _ => none) := by
    intro step
    cases step <;> rfl
  have hnaturals : newAccounts steps = (naturals r steps).filterMap (fun k => match k with
      | .serviceAccount name => some name
      | _ => none) := by
    rw [newAccounts, naturals, List.filterMap_filterMap]
    exact List.filterMap_congr fun p _ => haccount p.2
  rw [hnaturals, naturals_eq hsec ha]
  simp [List.filterMap_append, List.filterMap_map]

theorem matches_length (snapshot : Snapshot) (spec : ServiceAccountSpec) :
    (serviceAccountMatches snapshot spec).length =
      (snapshot.serviceAccounts.map ServiceAccount.name).count spec.name := by
  rw [serviceAccountMatches, List.count, List.countP_map, List.countP_eq_length_filter]
  congr 1
  refine List.filter_congr fun s _ => ?_
  rw [Function.comp_apply, Bool.eq_iff_iff]
  simp

/-- Accounts created for distinct names that the tenant lacks make no name ambiguous. -/
theorem unambiguous_after {snapshot' : Snapshot} (hm : WellFormed m)
    (ha : ambiguousServiceAccounts m snapshot = [])
    (hdistinct : DistinctWhereMissing m.serviceAccounts ServiceAccountSpec.key
      (fun s => ∃ e ∈ snapshot.serviceAccounts, e.name = s.name) ServiceAccountSpec.name)
    (hperm : (snapshot'.serviceAccounts.map ServiceAccount.name).Perm
      (snapshot.serviceAccounts.map ServiceAccount.name ++
        (missing (matchServiceAccount snapshot) m.serviceAccounts).map ServiceAccountSpec.name)) :
    ambiguousServiceAccounts m snapshot' = [] := by
  have hpresent : ∀ s ∈ m.serviceAccounts, (matchServiceAccount snapshot s).isSome ↔
      ∃ e ∈ snapshot.serviceAccounts, e.name = s.name :=
    fun s hs => isSome_matchServiceAccount (unambiguous ha hs)
  have hnodup : ((missing (matchServiceAccount snapshot) m.serviceAccounts).map
      ServiceAccountSpec.name).Nodup := by
    have h := (nodup_missing (fun s => NaturalKey.serviceAccount s.name) _ ServiceAccountSpec.name
      hm.serviceAccountKeys hpresent (by simp)).2 hdistinct
    refine List.Nodup.of_map NaturalKey.serviceAccount ?_
    rw [List.map_map]
    exact h
  rw [ambiguousServiceAccounts, List.map_eq_nil_iff, List.filter_eq_nil_iff]
  intro spec hspec
  have hold := unambiguous ha hspec
  rw [matches_length] at hold
  have hnew := List.nodup_iff_count_le_one.1 hnodup spec.name
  rw [decide_eq_true_eq, matches_length, hperm.count_eq, List.count_append]
  by_cases hmem : spec.name ∈ (missing (matchServiceAccount snapshot) m.serviceAccounts).map
      ServiceAccountSpec.name
  · -- a name that is created is on no account before
    obtain ⟨other, hother, hname⟩ := List.mem_map.1 hmem
    obtain ⟨hother, hnone⟩ := List.mem_filter.1 hother
    have hzero : (snapshot.serviceAccounts.map ServiceAccount.name).count spec.name = 0 := by
      rw [List.count_eq_zero]
      intro hin
      obtain ⟨e, he, hename⟩ := List.mem_map.1 hin
      have hsome := (hpresent other hother).2 ⟨e, he, hename.trans hname.symm⟩
      rw [Option.isNone_iff_eq_none] at hnone
      rw [hnone] at hsome
      cases hsome
    omega
  · have hzero := List.count_eq_zero.2 hmem
    omega

/-- **Applies make no duplicates**, and leave no account name ambiguous, exactly when the specs that the
tenant lacks have distinct natural keys. -/
theorem naturalKeys_iff {repr : PyStr → PyStr} (hserve : Answers serve) (hnames : AccountNames serve names)
    (hplan : Planable m snapshot steps r) {s : σ}
    (hread : (snapshot.serviceAccounts.map ServiceAccount.name).Perm (names s)) :
    (CreatesDistinct r steps ∧ ∀ snapshot' : Snapshot, (snapshot'.serviceAccounts.map
        ServiceAccount.name).Perm (names (execute serve repr s r steps).server) →
      ambiguousServiceAccounts m snapshot' = []) ↔ NaturalKeysDistinct m snapshot := by
  obtain ⟨hvalid, ha, hcompute, -⟩ := hplan
  have hm := hvalid.wellFormed
  obtain ⟨ordered, network, hsec⟩ := compute_ok hm hcompute
  rw [createsDistinct_iff hm hsec ha, and_iff_left_iff_imp]
  intro hdistinct snapshot' hperm
  have hrun := foldl_names repr hserve hnames (a := ⟨s, r, false, []⟩) (supplied_of_sections hm hsec ha) rfl
    (fun k hk => hk)
  refine unambiguous_after hm ha hdistinct.serviceAccount (hperm.trans ?_)
  rw [execute, hrun, newAccounts_eq hsec ha]
  exact hread.symm.append_right _

end Accounts

/-! ## Two accounts -/

/-- A server of service accounts alone, by their names. -/
def accountServer : Server (List PyStr) := fun names call =>
  (names ++ call.newAccount.toList, .ok ⟨lit "i", 1, []⟩)

theorem accountServer_names : AccountNames accountServer id where
  create s call name h := by simp [accountServer, h]
  other s call h := by simp [accountServer, h]

/-- Two service accounts, by their names. -/
def twoAccounts (name name' : PyStr) : ManagementManifest where
  resources := []
  permissions := []
  roles := []
  groups := []
  users := []
  serviceAccounts := [⟨lit "a", name, none, []⟩, ⟨lit "b", name', none, []⟩]
  network := none

theorem distinct_accounts_created : ∃ steps r,
    Planable (twoAccounts (lit "ci") (lit "cd")) emptySnapshot steps r ∧ CreatesDistinct r steps ∧
      ∀ snapshot' : Snapshot, (snapshot'.serviceAccounts.map ServiceAccount.name).Perm
          (execute accountServer id [] r steps).server →
        ambiguousServiceAccounts (twoAccounts (lit "ci") (lit "cd")) snapshot' = [] := by
  have hplan : Planable (twoAccounts (lit "ci") (lit "cd")) emptySnapshot _ _ :=
    ⟨by decide, rfl, rfl, rfl⟩
  refine ⟨_, _, hplan, (naturalKeys_iff (fun _ _ => ⟨_, rfl⟩) accountServer_names hplan (.refl _)).2 ?_⟩
  refine ⟨?_, ?_, ?_, ?_, ?_, ?_, ?_⟩
  all_goals simp [DistinctWhereMissing, twoAccounts, scopeSpecs]
  decide

theorem one_account_name_twice : ∃ steps r,
    Planable (twoAccounts (lit "ci") (lit "ci")) emptySnapshot steps r ∧ ¬ CreatesDistinct r steps := by
  refine ⟨_, _, ⟨by decide, rfl, rfl, rfl⟩, ?_⟩
  show ¬ [NaturalKey.serviceAccount (lit "ci"), NaturalKey.serviceAccount (lit "ci")].Nodup
  simp

end AxiamSdk.Manifest
