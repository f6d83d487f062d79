import AxiamSdk.Management.ResourceOrder
import AxiamSdk.Management.Validity

/-! # What a plan has matched

A plan of a well-formed manifest is read off the snapshot and the keys that it has resolved.

* `Resolution`: under every declared key stands the id of what its spec matches, if anything.
* `compute_ok`: the steps of a plan, section by section.
* `Held`: what the tenant holds for a resource key, from the snapshot alone. -/

namespace AxiamSdk.Manifest
open PyLib
set_option autoImplicit false

/-! ## Folds that record what is found -/

section Fold
variable {α ν : Type}

/-- `if v is not None: d[key] = v` -/
def setSome (d : Dict PyStr ν) (key : PyStr) : Option ν → Dict PyStr ν
  | some v => d.set key v
  | none => d

theorem get?_setSome_ne (d : Dict PyStr ν) {key k : PyStr} (v : Option ν) (h : key ≠ k) :
    (setSome d key v).get? k = d.get? k := by
  cases v with
  | none => rfl
  | some v => exact Dict.get?_set_ne d v h

theorem get?_setSome_self (d : Dict PyStr ν) (key : PyStr) (v : Option ν) :
    (setSome d key v).get? key = v.or (d.get? key) := by
  cases v with
  | none => rfl
  | some v => exact Dict.get?_set_self d key v

variable (key : α → PyStr) (f : α → Option ν)

theorem get?_foldl_other (specs : List α) (d : Dict PyStr ν) {k : PyStr} (hk : k ∉ specs.map key) :
    (specs.foldl (fun d s => setSome d (key s) (f s)) d).get? k = d.get? k := by
  induction specs generalizing d with
  | nil => rfl
  | cons s specs ih =>
    rw [List.map_cons, List.mem_cons, not_or] at hk
    rw [List.foldl_cons, ih _ hk.2, get?_setSome_ne d _ (Ne.symm hk.1)]

theorem get?_foldl_set (specs : List α) (d : Dict PyStr ν) (hnodup : (specs.map key).Nodup) {s : α}
    (hs : s ∈ specs) :
    (specs.foldl (fun d s => setSome d (key s) (f s)) d).get? (key s) = (f s).or (d.get? (key s)) := by
  induction specs generalizing d with
  | nil => cases hs
  | cons x specs ih =>
    rw [List.map_cons, List.nodup_cons] at hnodup
    rw [List.foldl_cons]
    rw [List.mem_cons] at hs
    obtain rfl | hs := hs
    · rw [get?_foldl_other key f specs _ hnodup.1, get?_setSome_self]
    · have hne : key x ≠ key s := fun he => hnodup.1 (he ▸ List.mem_map_of_mem hs)
      rw [ih _ hnodup.2 hs, get?_setSome_ne d _ hne]

end Fold

theorem resolveAll_eq {α : Type} (key : α → PyStr) (match? : α → Option PyStr) (specs : List α)
    (d : Dict PyStr PyStr) :
    resolveAll key match? specs d = specs.foldl (fun d s => setSome d (key s) (match? s)) d := by
  rw [resolveAll]
  congr 1
  funext d s
  cases match? s with
  | none => rfl
  | some id => rfl

theorem get?_resolveAll {α : Type} {key : α → PyStr} {match? : α → Option PyStr} {specs : List α}
    (hnodup : (specs.map key).Nodup) {s : α} (hs : s ∈ specs) :
    (resolveAll key match? specs .empty).get? (key s) = match? s := by
  rw [resolveAll_eq, get?_foldl_set key match? specs _ hnodup hs, Dict.get?_empty, Option.or_none]

theorem get?_resolveVersions {snapshot : Snapshot} {specs : List NetworkSegmentSpec}
    (hnodup : (specs.map NetworkSegmentSpec.key).Nodup) {s : NetworkSegmentSpec} (hs : s ∈ specs) :
    (resolveVersions snapshot specs).get? s.key =
      (matchSegment snapshot s).map NetworkSegment.version := by
  have heq : resolveVersions snapshot specs = specs.foldl (fun d s =>
      setSome d s.key ((matchSegment snapshot s).map NetworkSegment.version)) .empty := by
    rw [resolveVersions]
    congr 1
    funext d s
    cases matchSegment snapshot s with
    | none => rfl
    | some e => rfl
  rw [heq, get?_foldl_set NetworkSegmentSpec.key _ specs _ hnodup hs, Dict.get?_empty, Option.or_none]

theorem find?_key {α κ : Type} [DecidableEq κ] {key : α → κ} {specs : List α} (hnodup : (specs.map key).Nodup) {s : α}
    (hs : s ∈ specs) : specs.find? (fun x => key x = key s) = some s := by
  induction specs with
  | nil => cases hs
  | cons x specs ih =>
    rw [List.map_cons, List.nodup_cons] at hnodup
    rw [List.mem_cons] at hs
    obtain rfl | hs := hs
    · simp
    · have hne : key x ≠ key s := fun he => hnodup.1 (he ▸ List.mem_map_of_mem hs)
      rw [List.find?_cons_of_neg (by simpa using hne)]
      exact ih hnodup.2 hs

/-! ## Matching a resource -/

section Resource
variable {m : ManagementManifest} {snapshot : Snapshot}

/-- The resources of a name under a parent. -/
def findResource (snapshot : Snapshot) (name : PyStr) (parentId : Option PyStr) : Option Resource :=
  snapshot.resources.find? (fun r => r.name = name ∧ r.parentId = parentId)

theorem matchResource_root {d : Dict PyStr PyStr} {spec : ResourceSpec} (h : spec.parent = none) :
    matchResource snapshot d spec = findResource snapshot spec.name none := by
  simp [matchResource, findResource, h, truthy?]

theorem matchResource_pending {d : Dict PyStr PyStr} {spec : ResourceSpec} {p : PyStr}
    (h : spec.parent = some p) (hp : d.get? p = none) : matchResource snapshot d spec = none := by
  simp [matchResource, h, Dict.contains, hp]

theorem matchResource_child {d : Dict PyStr PyStr} {spec : ResourceSpec} {p id : PyStr}
    (h : spec.parent = some p) (hp : d.get? p = some id) :
    matchResource snapshot d spec =
      findResource snapshot spec.name ((truthy? (some p)).map (fun _ => id)) := by
  have hid : (truthy? (some p)).bind d.get? = (truthy? (some p)).map (fun _ => id) := by
    cases p with
    | nil => rfl
    | cons c cs => exact hp
  simp [matchResource, findResource, h, Dict.contains, hp, hid]

theorem matchResource_congr {d d' : Dict PyStr PyStr} {spec : ResourceSpec}
    (h : ∀ p, spec.parent = some p → d.get? p = d'.get? p) :
    matchResource snapshot d spec = matchResource snapshot d' spec := by
  cases hparent : spec.parent with
  | none => rw [matchResource_root hparent, matchResource_root hparent]
  | some p =>
    have hp := h p hparent
    cases hd : d.get? p with
    | none => rw [matchResource_pending hparent hd, matchResource_pending hparent (hp ▸ hd)]
    | some id => rw [matchResource_child hparent hd, matchResource_child hparent (hp ▸ hd)]

theorem resourceSpec?_eq (hm : WellFormed m) {spec : ResourceSpec} (hs : spec ∈ m.resources) :
    resourceSpec? m spec.key = some spec := by
  refine find?_key ?_ (List.mem_reverse.2 hs)
  rw [List.map_reverse, List.nodup_reverse]
  exact hm.resourceKeys

theorem resourceSpec?_some {key : PyStr} {spec : ResourceSpec} (h : resourceSpec? m key = some spec) :
    spec ∈ m.resources ∧ spec.key = key := by
  have hkey := List.find?_some h
  exact ⟨List.mem_reverse.1 (List.mem_of_find?_eq_some h), by simpa using hkey⟩

theorem planResources_cons {d : Dict PyStr PyStr} {key : PyStr} {keys : List PyStr} {spec : ResourceSpec}
    (h : resourceSpec? m key = some spec) : planResources m snapshot d (key :: keys) =
      match planResources m snapshot
        (setSome d key ((matchResource snapshot d spec).map Resource.id)) keys with
      | .error e => .error e
      | .ok (steps, resources) =>
        .ok (planResource key spec (matchResource snapshot d spec) :: steps, resources) := by
  rw [planResources, h]
  dsimp only
  cases matchResource snapshot d spec with
  | none => rfl
  | some r => rfl

/-- **The resources' section**: read off the keys it has resolved at its end. -/
theorem planResources_ok {d d' : Dict PyStr PyStr} {placed keys : List PyStr} {steps : List Planned}
    (h : planResources m snapshot d keys = .ok (steps, d')) (hnodup : keys.Nodup)
    (hfirst : ParentsFirst (parentOf m) placed keys) (hplaced : ∀ k ∈ keys, k ∉ placed)
    (hd : ∀ k ∈ keys, d.get? k = none) :
    (∀ k, k ∉ keys → d'.get? k = d.get? k) ∧ ∃ specs : List ResourceSpec,
      specs.map ResourceSpec.key = keys ∧ (∀ spec ∈ specs, spec ∈ m.resources) ∧
      steps = specs.map (fun spec => planResource spec.key spec (matchResource snapshot d' spec)) ∧
      ∀ spec ∈ specs, d'.get? spec.key = (matchResource snapshot d' spec).map Resource.id := by
  induction keys generalizing d placed steps with
  | nil =>
    cases h
    refine ⟨fun k _ => rfl, [], rfl, ?_, rfl, ?_⟩
    · simp
    · simp
  | cons key keys ih =>
    cases hspec : resourceSpec? m key with
    | none =>
      rw [planResources, hspec] at h
      cases h
    | some spec =>
      rw [planResources_cons hspec] at h
      obtain ⟨hmem, rfl⟩ := resourceSpec?_some hspec
      rw [List.nodup_cons] at hnodup
      have hset := fun (k : PyStr) (hk : spec.key ≠ k) =>
        get?_setSome_ne d ((matchResource snapshot d spec).map Resource.id) hk
      have hself := get?_setSome_self d spec.key ((matchResource snapshot d spec).map Resource.id)
      rw [hd spec.key List.mem_cons_self, Option.or_none] at hself
      generalize setSome d spec.key ((matchResource snapshot d spec).map Resource.id) = d₁ at h hset hself
      cases hrest : planResources m snapshot d₁ keys with
      | error e =>
        rw [hrest] at h
        cases h
      | ok result =>
        obtain ⟨steps', d₂⟩ := result
        rw [hrest] at h
        cases h
        have hplaced₁ : ∀ k ∈ keys, k ∉ spec.key :: placed := by
          intro k hk hmem'
          rw [List.mem_cons] at hmem'
          obtain rfl | hmem' := hmem'
          · exact hnodup.1 hk
          · exact hplaced k (List.mem_cons_of_mem _ hk) hmem'
        have hd₁ : ∀ k ∈ keys, d₁.get? k = none := by
          intro k hk
          rw [hset k (fun he => hnodup.1 (he ▸ hk))]
          exact hd k (List.mem_cons_of_mem _ hk)
        obtain ⟨hother, specs, hkeys, hdeclared, hsteps, hget⟩ := ih hrest hnodup.2 hfirst.2 hplaced₁ hd₁
        have hmatch : matchResource snapshot d spec = matchResource snapshot d' spec := by
          refine matchResource_congr fun p hp => ?_
          have hp' : p ∈ placed := hfirst.1 p (by rw [parentOf, hspec]; exact hp)
          rw [hother p (fun hk => hplaced p (List.mem_cons_of_mem _ hk) hp'),
            hset p (fun he => hplaced spec.key List.mem_cons_self (he ▸ hp'))]
        refine ⟨fun k hk => ?_, spec :: specs, ?_, ?_, ?_, ?_⟩
        · rw [List.mem_cons, not_or] at hk
          rw [hother k hk.2, hset k (Ne.symm hk.1)]
        · rw [List.map_cons, hkeys]
        · rw [List.forall_mem_cons]
          exact ⟨hmem, hdeclared⟩
        · rw [List.map_cons, hsteps, hmatch]
        · rw [List.forall_mem_cons]
          refine ⟨?_, hget⟩
          rw [hother _ hnodup.1, hself, hmatch]

end Resource

/-! ## Unambiguous service accounts -/

/-- The step for an account whose name is not ambiguous. -/
def planUniqueAccount (spec : ServiceAccountSpec) : Option ServiceAccount → Planned
  | some found =>
    if found.description ≠ spec.description then
      (⟨.update, .serviceAccount, spec.key⟩, .updateServiceAccount spec.key spec.description)
    else noChange .serviceAccount spec.key
  | none => (⟨.create, .serviceAccount, spec.key⟩,
      .createServiceAccount spec.key spec.name spec.description)

theorem planServiceAccount_unique {snapshot : Snapshot} {spec : ServiceAccountSpec}
    (h : ¬ 1 < (serviceAccountMatches snapshot spec).length) : planServiceAccount snapshot spec =
      [planUniqueAccount spec (matchServiceAccount snapshot spec)] := by
  rw [planServiceAccount, matchServiceAccount]
  generalize serviceAccountMatches snapshot spec = found at h
  obtain _ | ⟨e, _ | ⟨e', es⟩⟩ := found
  · rfl
  · dsimp only
    rw [planUniqueAccount]
    split
    · rfl
    · rfl
  · exact absurd (by simp) h

theorem matchServiceAccount_some {snapshot : Snapshot} {spec : ServiceAccountSpec} {e : ServiceAccount}
    (h : matchServiceAccount snapshot spec = some e) : e ∈ snapshot.serviceAccounts ∧ e.name = spec.name := by
  have hmem : e ∈ serviceAccountMatches snapshot spec := by
    rw [matchServiceAccount] at h
    split at h
    · next found hfound =>
      cases h
      rw [hfound]
      exact List.mem_singleton_self e
    · cases h
  simpa [serviceAccountMatches] using hmem

theorem serviceAccountSteps_eq {m : ManagementManifest} {snapshot : Snapshot}
    (h : ambiguousServiceAccounts m snapshot = []) :
    m.serviceAccounts.flatMap (planServiceAccount snapshot) =
      m.serviceAccounts.map (fun s => planUniqueAccount s (matchServiceAccount snapshot s)) := by
  rw [ambiguousServiceAccounts, List.map_eq_nil_iff, List.filter_eq_nil_iff] at h
  rw [List.map_eq_flatMap]
  refine List.flatMap_congr fun s hs => ?_
  exact planServiceAccount_unique (by simpa using h s hs)

/-! ## The keys resolved -/

/-- Under every declared key stands the id of what its spec matches. -/
structure Resolution (m : ManagementManifest) (snapshot : Snapshot) (r : Resolved) : Prop where
  resource : ∀ spec ∈ m.resources,
    r.resources.get? spec.key = (matchResource snapshot r.resources spec).map Resource.id
  scope : ∀ p ∈ scopeSpecs m,
    r.scopes.get? p.2.key = (matchScope snapshot r.resources p.1 p.2).map Scope.id
  permission : ∀ p ∈ m.permissions, r.permissions.get? p.key = (matchPermission snapshot p).map Permission.id
  role : ∀ role ∈ m.roles, r.roles.get? role.key = (matchRole snapshot role).map Role.id
  group : ∀ g ∈ m.groups, r.groups.get? g.key = (matchGroup snapshot g).map Group.id
  user : ∀ u ∈ m.users, r.users.get? u.key = (matchUser snapshot u).map User.id
  serviceAccount : ∀ s ∈ m.serviceAccounts,
    r.serviceAccounts.get? s.key = (matchServiceAccount snapshot s).map ServiceAccount.id
  segment : ∀ n, m.network = some n → ∀ s ∈ n.segments,
    r.networkSegments.get? s.key = (matchSegment snapshot s).map NetworkSegment.id
  segmentVersion : ∀ n, m.network = some n → ∀ s ∈ n.segments,
    r.networkSegmentVersions.get? s.key = (matchSegment snapshot s).map NetworkSegment.version

theorem scopeSpecs_map (m : ManagementManifest) : (scopeSpecs m).map Prod.snd = allScopes m := by
  simp [scopeSpecs, allScopes, List.map_flatMap, Function.comp_def]

theorem resolution_of_resources {m : ManagementManifest} {snapshot : Snapshot} {d : Dict PyStr PyStr}
    (hm : WellFormed m) (hd : ∀ spec ∈ m.resources,
      d.get? spec.key = (matchResource snapshot d spec).map Resource.id) :
    Resolution m snapshot (resolve m snapshot d) where
  resource := hd
  scope p hp := by
    refine get?_resolveAll ?_ hp
    have hkeys := hm.scopeKeys
    rw [← scopeSpecs_map, List.map_map] at hkeys
    exact hkeys
  permission _ hp := get?_resolveAll hm.permissionKeys hp
  role _ hr := get?_resolveAll hm.roleKeys hr
  group _ hg := get?_resolveAll hm.groupKeys hg
  user _ hu := get?_resolveAll hm.userKeys hu
  serviceAccount _ hs := get?_resolveAll hm.serviceAccountKeys hs
  segment n hn s hs := by
    have hsegments : (m.network.map NetworkSpec.segments).getD [] = n.segments := by rw [hn]; rfl
    rw [resolve, hsegments]
    exact get?_resolveAll (hm.network n hn).segmentKeys hs
  segmentVersion n hn s hs := by
    have hsegments : (m.network.map NetworkSpec.segments).getD [] = n.segments := by rw [hn]; rfl
    rw [resolve, hsegments]
    exact get?_resolveVersions (hm.network n hn).segmentKeys hs

/-! ## Subjects of role bindings -/

/-- A spec with role bindings, and the id of what it matches. -/
structure Subject where
  kind : SubjectKind
  key : PyStr
  id? : Option PyStr
  roles : List RoleBinding

def groupSubject (snapshot : Snapshot) (g : GroupSpec) : Subject :=
  ⟨.group, g.key, (matchGroup snapshot g).map Group.id, g.roles⟩

def userSubject (snapshot : Snapshot) (u : UserSpec) : Subject :=
  ⟨.user, u.key, (matchUser snapshot u).map User.id, u.roles⟩

def accountSubject (snapshot : Snapshot) (s : ServiceAccountSpec) : Subject :=
  ⟨.serviceAccount, s.key, (matchServiceAccount snapshot s).map ServiceAccount.id, s.roles⟩

def subjects (m : ManagementManifest) (snapshot : Snapshot) : List Subject :=
  m.groups.map (groupSubject snapshot) ++ m.users.map (userSubject snapshot) ++
    m.serviceAccounts.map (accountSubject snapshot)

def SubjectKind.target : SubjectKind → Target
  | .group => .groupRole
  | .user => .userRole
  | .serviceAccount => .serviceAccountRole

/-- The bindings of a role, by the kind of their subject. -/
def Snapshot.bindings (snapshot : Snapshot) : SubjectKind → Dict PyStr (List RoleAssignment)
  | .group => snapshot.roleGroupBindings
  | .user => snapshot.roleUserBindings
  | .serviceAccount => snapshot.roleServiceAccountBindings

/-- The step for a binding of a subject. -/
def planSubjectRole (snapshot : Snapshot) (r : Resolved) (u : Subject) (b : RoleBinding) : Planned :=
  planRoleBinding u.kind u.key u.id? b r (listed (snapshot.bindings u.kind) (r.roles.get? (roleKey b)))
    u.kind.target

/-- The role of the tenant that a role key stands for. -/
def matchedRole (m : ManagementManifest) (snapshot : Snapshot) (key : PyStr) : Option Role :=
  (m.roles.find? (fun role => role.key = key)).bind (matchRole snapshot)

/-- What the tenant holds in place of a binding. -/
def standing (m : ManagementManifest) (snapshot : Snapshot) (u : Subject) (b : RoleBinding) :
    Option RoleAssignment :=
  (matchedRole m snapshot (roleKey b)).bind fun role =>
    existingBinding (listed (snapshot.bindings u.kind) (some role.id)) u.id?

section Subjects
variable {m : ManagementManifest} {snapshot : Snapshot} {r : Resolved}

theorem forall_subjectSteps {α : Type} (snapshot : Snapshot) (r : Resolved) (P : Planned → Prop) (specs : List α) (subject : α → Subject) :
    (∀ p ∈ specs.flatMap (fun s => (subject s).roles.map (planSubjectRole snapshot r (subject s))), P p) ↔
      ∀ u ∈ specs.map subject, ∀ b ∈ u.roles, P (planSubjectRole snapshot r u b) := by
  simp only [List.mem_flatMap, List.mem_map, forall_exists_index, and_imp, forall_apply_eq_imp_iff₂]
  exact ⟨fun h u hu b hb => h _ u hu b hb rfl, fun h p u hu b hb hp => hp ▸ h u hu b hb⟩

theorem groupSubject_mem {g : GroupSpec} (hg : g ∈ m.groups) : groupSubject snapshot g ∈ subjects m snapshot :=
  List.mem_append_left _ (List.mem_append_left _ (List.mem_map_of_mem hg))

theorem userSubject_mem {u : UserSpec} (hu : u ∈ m.users) : userSubject snapshot u ∈ subjects m snapshot :=
  List.mem_append_left _ (List.mem_append_right _ (List.mem_map_of_mem hu))

theorem accountSubject_mem {s : ServiceAccountSpec} (hs : s ∈ m.serviceAccounts) :
    accountSubject snapshot s ∈ subjects m snapshot :=
  List.mem_append_right _ (List.mem_map_of_mem hs)

theorem subjects_declared (hm : WellFormed m) {u : Subject} (hu : u ∈ subjects m snapshot) :
    BindingsDeclared m u.roles := by
  simp only [subjects, List.mem_append, List.mem_map] at hu
  obtain (⟨g, hg, rfl⟩ | ⟨u, hu, rfl⟩) | ⟨s, hs, rfl⟩ := hu
  · exact hm.groupRoles g hg
  · exact hm.userRoles u hu
  · exact hm.serviceAccountRoles s hs

theorem planGroupRole_eq (hr : Resolution m snapshot r) {g : GroupSpec} (hg : g ∈ m.groups) :
    planGroupRole snapshot r g = planSubjectRole snapshot r (groupSubject snapshot g) := by
  funext b
  rw [planGroupRole, hr.group g hg]
  rfl

theorem planUserRole_eq (hr : Resolution m snapshot r) {u : UserSpec} (hu : u ∈ m.users) :
    planUserRole snapshot r u = planSubjectRole snapshot r (userSubject snapshot u) := by
  funext b
  rw [planUserRole, hr.user u hu]
  rfl

theorem planServiceAccountRole_eq (hr : Resolution m snapshot r) {s : ServiceAccountSpec}
    (hs : s ∈ m.serviceAccounts) :
    planServiceAccountRole snapshot r s = planSubjectRole snapshot r (accountSubject snapshot s) := by
  funext b
  rw [planServiceAccountRole, hr.serviceAccount s hs]
  rfl

theorem boundTo_eq (hm : WellFormed m) (hr : Resolution m snapshot r) {u : Subject} {b : RoleBinding}
    (hb : roleKey b ∈ m.roles.map RoleSpec.key) :
    boundTo r b (listed (snapshot.bindings u.kind) (r.roles.get? (roleKey b))) u.id? =
      standing m snapshot u b := by
  obtain ⟨role, hrole, hkey⟩ := List.mem_map.1 hb
  have hfind : m.roles.find? (fun role => role.key = roleKey b) = some role := by
    rw [← hkey]
    exact find?_key hm.roleKeys hrole
  rw [boundTo, standing, matchedRole, hfind, ← hkey, hr.role role hrole]
  cases hmatch : matchRole snapshot role with
  | none => simp [hmatch]
  | some found => simp [hmatch]

end Subjects

/-- The steps of everything but resources and network, with the subjects' bindings in one form. -/
theorem coreSteps_eq {m : ManagementManifest} {snapshot : Snapshot} {r : Resolved}
    (hr : Resolution m snapshot r) (ha : ambiguousServiceAccounts m snapshot = []) :
    coreSteps m snapshot r =
      (scopeSpecs m).map (fun p => planScope p.1 p.2 (matchScope snapshot r.resources p.1 p.2)) ++
      m.permissions.map (fun p => planPermission p (matchPermission snapshot p)) ++
      m.roles.map (fun role => planRole role (matchRole snapshot role)) ++
      m.roles.flatMap (fun role => role.grants.map (planGrant snapshot r role)) ++
      m.groups.map (fun g => planGroup g (matchGroup snapshot g)) ++
      m.groups.flatMap (fun g => g.roles.map (planSubjectRole snapshot r (groupSubject snapshot g))) ++
      m.users.map (fun u => planUser u (matchUser snapshot u)) ++
      m.users.flatMap (fun u => u.roles.map (planSubjectRole snapshot r (userSubject snapshot u))) ++
      m.serviceAccounts.map (fun s => planUniqueAccount s (matchServiceAccount snapshot s)) ++
      m.serviceAccounts.flatMap
        (fun s => s.roles.map (planSubjectRole snapshot r (accountSubject snapshot s))) ++
      m.users.flatMap (fun u => u.groups.map (planGroupMember snapshot r u)) := by
  have hgroups : m.groups.flatMap (fun g => g.roles.map (planGroupRole snapshot r g)) =
      m.groups.flatMap (fun g => g.roles.map (planSubjectRole snapshot r (groupSubject snapshot g))) :=
    List.flatMap_congr fun g hg => by rw [planGroupRole_eq hr hg]
  have husers : m.users.flatMap (fun u => u.roles.map (planUserRole snapshot r u)) =
      m.users.flatMap (fun u => u.roles.map (planSubjectRole snapshot r (userSubject snapshot u))) :=
    List.flatMap_congr fun u hu => by rw [planUserRole_eq hr hu]
  have haccounts : m.serviceAccounts.flatMap (fun s => s.roles.map (planServiceAccountRole snapshot r s)) =
      m.serviceAccounts.flatMap
        (fun s => s.roles.map (planSubjectRole snapshot r (accountSubject snapshot s))) :=
    List.flatMap_congr fun s hs => by rw [planServiceAccountRole_eq hr hs]
  rw [coreSteps, hgroups, husers, haccounts, serviceAccountSteps_eq ha]

/-! ## The sections of a plan -/

/-- The steps of the network section, if the manifest has one. -/
def networkSteps (m : ManagementManifest) (snapshot : Snapshot) : Except ComputeError (List Planned) :=
  match m.network with
  | none => .ok []
  | some n => planNetwork snapshot n

/-- A plan, section by section. -/
structure Sections (m : ManagementManifest) (snapshot : Snapshot) (steps : List Planned) (r : Resolved)
    (ordered : List ResourceSpec) (network : List Planned) : Prop where
  perm : ordered.Perm m.resources
  parentsFirst : ParentsFirst (parentOf m) [] (ordered.map ResourceSpec.key)
  steps_eq : steps =
    ordered.map (fun spec => planResource spec.key spec (matchResource snapshot r.resources spec)) ++
      coreSteps m snapshot r ++ network
  network_eq : networkSteps m snapshot = .ok network
  resolution : Resolution m snapshot r

/-- **A plan** of a well-formed manifest. -/
theorem compute_ok {m : ManagementManifest} {snapshot : Snapshot} {steps : List Planned} {r : Resolved}
    (hm : WellFormed m) (h : compute m snapshot = .ok (steps, r)) :
    ∃ ordered network, Sections m snapshot steps r ordered network := by
  rw [compute] at h
  cases horder : topologicalOrder m with
  | error k =>
    rw [horder] at h
    cases h
  | ok order =>
    rw [horder] at h
    dsimp only at h
    obtain ⟨hfirst, hnodup, hall⟩ := topologicalOrder_ok horder
    cases hplan : planResources m snapshot .empty order with
    | error k =>
      rw [hplan] at h
      cases h
    | ok result =>
      obtain ⟨resourceSteps, d⟩ := result
      rw [hplan] at h
      dsimp only at h
      obtain ⟨-, ordered, hkeys, hdeclared, hsteps, hget⟩ := planResources_ok hplan hnodup hfirst
        (fun k _ => List.not_mem_nil) (fun k _ => rfl)
      have hperm : ordered.Perm m.resources := by
        have hnd : ordered.Nodup := by
          rw [← hkeys] at hnodup
          exact hnodup.of_map
        refine (List.perm_ext_iff_of_nodup hnd hm.resourceKeys.of_map).2 fun spec => ?_
        refine ⟨hdeclared spec, fun hs => ?_⟩
        have hkey := hall spec hs
        rw [← hkeys] at hkey
        obtain ⟨spec', hs', he⟩ := List.mem_map.1 hkey
        have hspec := resourceSpec?_eq hm (hdeclared spec' hs')
        rw [he, resourceSpec?_eq hm hs] at hspec
        cases hspec
        exact hs'
      have hresolution : Resolution m snapshot (resolve m snapshot d) :=
        resolution_of_resources hm (fun spec hs => hget spec (hperm.mem_iff.2 hs))
      rw [← hkeys] at hfirst
      cases hnetwork : m.network with
      | none =>
        rw [hnetwork] at h
        cases h
        refine ⟨ordered, [], hperm, hfirst, ?_, ?_, hresolution⟩
        · rw [List.append_nil, hsteps]
          rfl
        · rw [networkSteps, hnetwork]
      | some n =>
        rw [hnetwork] at h
        dsimp only at h
        cases hsteps' : planNetwork snapshot n with
        | error e =>
          rw [hsteps'] at h
          cases h
        | ok network =>
          rw [hsteps'] at h
          cases h
          refine ⟨ordered, network, hperm, hfirst, ?_, ?_, hresolution⟩
          · rw [hsteps]
            rfl
          · rw [networkSteps, hnetwork]
            exact hsteps'

theorem Sections.parent_declared {m : ManagementManifest} {snapshot : Snapshot} {steps : List Planned}
    {r : Resolved} {ordered : List ResourceSpec} {network : List Planned} (hm : WellFormed m)
    (hsec : Sections m snapshot steps r ordered network) {spec : ResourceSpec} (hs : spec ∈ m.resources)
    {p : PyStr} (hparent : spec.parent = some p) : p ∈ m.resources.map ResourceSpec.key := by
  rw [← (hsec.perm.map ResourceSpec.key).mem_iff]
  obtain ⟨pre, post, he⟩ := List.append_of_mem (hsec.perm.mem_iff.2 hs)
  have hfirst := hsec.parentsFirst
  rw [he, List.map_append, List.map_cons] at hfirst
  have hparent' : parentOf m spec.key = some p := by
    rw [parentOf, resourceSpec?_eq hm hs]
    exact hparent
  obtain hp | hp := hfirst.mem hparent'
  · cases hp
  · rw [he, List.map_append]
    exact List.mem_append_left _ hp

/-! ## What the tenant holds for a resource key -/

/-- The tenant has the resource of a key: by its name, below what it has for the parent's key. An empty
parent key counts as none. -/
inductive Held (m : ManagementManifest) (snapshot : Snapshot) : PyStr → Resource → Prop
  | root {spec : ResourceSpec} {res : Resource} (hs : spec ∈ m.resources) (hparent : spec.parent = none)
      (hfound : findResource snapshot spec.name none = some res) : Held m snapshot spec.key res
  | child {spec : ResourceSpec} {res above : Resource} {p : PyStr} (hs : spec ∈ m.resources)
      (hparent : spec.parent = some p) (habove : Held m snapshot p above)
      (hfound : findResource snapshot spec.name ((truthy? (some p)).map (fun _ => above.id)) = some res) :
      Held m snapshot spec.key res

section Held
variable {m : ManagementManifest} {snapshot : Snapshot} {steps : List Planned} {r : Resolved}
  {ordered : List ResourceSpec} {network : List Planned}

theorem Held.resolved {key : PyStr} {res : Resource} (h : Held m snapshot key res)
    (hr : Resolution m snapshot r) : r.resources.get? key = some res.id := by
  induction h with
  | root hs hparent hfound => rw [hr.resource _ hs, matchResource_root hparent, hfound]; rfl
  | child hs hparent _ hfound ih => rw [hr.resource _ hs, matchResource_child hparent ih, hfound]; rfl

theorem held_of_resolved (hsec : Sections m snapshot steps r ordered network) {key id : PyStr}
    (hm : WellFormed m) (hkey : key ∈ m.resources.map ResourceSpec.key)
    (h : r.resources.get? key = some id) : ∃ res, Held m snapshot key res ∧ res.id = id := by
  have hkey' : key ∈ ordered.map ResourceSpec.key := (hsec.perm.map _).mem_iff.2 hkey
  have hall : ∀ k ∈ ordered.map ResourceSpec.key, ∀ id, r.resources.get? k = some id →
      ∃ res, Held m snapshot k res ∧ res.id = id := by
    refine hsec.parentsFirst.induction_on (fun k hk => by cases hk) ?_
    intro k hk ih id h
    obtain ⟨spec, hs, rfl⟩ := List.mem_map.1 ((hsec.perm.map _).mem_iff.1 hk)
    rw [hsec.resolution.resource spec hs, Option.map_eq_some_iff] at h
    obtain ⟨res, hmatch, rfl⟩ := h
    cases hparent : spec.parent with
    | none =>
      rw [matchResource_root hparent] at hmatch
      exact ⟨res, .root hs hparent hmatch, rfl⟩
    | some p =>
      cases hp : r.resources.get? p with
      | none =>
        rw [matchResource_pending hparent hp] at hmatch
        cases hmatch
      | some pid =>
        obtain ⟨above, habove, rfl⟩ := ih p (by rw [parentOf, resourceSpec?_eq hm hs]; exact hparent) pid hp
        rw [matchResource_child hparent hp] at hmatch
        exact ⟨res, .child hs hparent habove hmatch, rfl⟩
  exact hall key hkey' id h

theorem resolved_iff_held (hm : WellFormed m) (hsec : Sections m snapshot steps r ordered network)
    {key id : PyStr} (hkey : key ∈ m.resources.map ResourceSpec.key) :
    r.resources.get? key = some id ↔ ∃ res, Held m snapshot key res ∧ res.id = id := by
  constructor
  · exact held_of_resolved hsec hm hkey
  · rintro ⟨res, hres, rfl⟩
    exact hres.resolved hsec.resolution

theorem held_iff (hm : WellFormed m) (hsec : Sections m snapshot steps r ordered network) {key : PyStr}
    (hkey : key ∈ m.resources.map ResourceSpec.key) :
    (r.resources.get? key).isSome ↔ ∃ res, Held m snapshot key res := by
  rw [Option.isSome_iff_exists]
  constructor
  · rintro ⟨id, hid⟩
    obtain ⟨res, hres, -⟩ := held_of_resolved hsec hm hkey hid
    exact ⟨res, hres⟩
  · rintro ⟨res, hres⟩
    exact ⟨res.id, hres.resolved hsec.resolution⟩

end Held

end AxiamSdk.Manifest
