import AxiamSdk.Management.Matching

/-! # Converged plans

* `Unchanged`: every spec matches and nothing that the planner compares differs.
* `isConverged_iff`: a plan without changes says that, and no more. -/

namespace AxiamSdk.Manifest
open PyLib
set_option autoImplicit false

/-! ## Specs without a change -/

theorem noChange_ite {c : Prop} [Decidable c] {p : Planned} {target : Target} {key : PyStr}
    (hp : p.1.change ≠ .noChange) : (if c then p else noChange target key).1.change = .noChange ↔ ¬ c := by
  by_cases hc : c
  · rw [if_pos hc]
    exact ⟨fun h => absurd h hp, fun h => absurd hc h⟩
  · rw [if_neg hc]
    exact ⟨fun _ => hc, fun _ => rfl⟩

section Specs
variable {snapshot : Snapshot} {r : Resolved}

theorem planResource_noChange (spec : ResourceSpec) (found : Option Resource) :
    (planResource spec.key spec found).1.change = .noChange ↔ ∃ e, found = some e ∧
      e.resourceType = spec.resourceType ∧ metadataDiffers e.metadata spec.metadata = false := by
  cases found with
  | none => simp [planResource]
  | some e =>
    refine (noChange_ite (by simp)).trans ?_
    cases hmeta : spec.metadata with
    | none => simp [metadataDiffers]
    | some s =>
      by_cases ht : e.resourceType = spec.resourceType <;>
        cases hd : metadataDiffers e.metadata (some s) <;> simp [ht, hd]

theorem planScope_noChange (spec : ResourceSpec) (scope : ScopeSpec) (found : Option Scope) :
    (planScope spec scope found).1.change = .noChange ↔ found.isSome := by
  cases found with
  | none => simp [planScope]
  | some e => simp [planScope, noChange]

theorem planPermission_noChange (spec : PermissionSpec) (found : Option Permission) :
    (planPermission spec found).1.change = .noChange ↔
      ∃ e, found = some e ∧ e.description = spec.description := by
  cases found with
  | none => simp [planPermission]
  | some e =>
    rw [planPermission, noChange_ite (by simp)]
    simp

theorem planRole_noChange (spec : RoleSpec) (found : Option Role) :
    (planRole spec found).1.change = .noChange ↔
      ∃ e, found = some e ∧ e.description = spec.description ∧ e.isGlobal = spec.isGlobal := by
  cases found with
  | none => simp [planRole]
  | some e =>
    rw [planRole, noChange_ite (by simp)]
    simp

theorem planGroup_noChange (spec : GroupSpec) (found : Option Group) :
    (planGroup spec found).1.change = .noChange ↔
      ∃ e, found = some e ∧ e.description = spec.description := by
  cases found with
  | none => simp [planGroup]
  | some e =>
    rw [planGroup, noChange_ite (by simp)]
    simp

theorem planUser_noChange (spec : UserSpec) (found : Option User) :
    (planUser spec found).1.change = .noChange ↔ ∃ e, found = some e ∧ e.email = spec.email := by
  cases found with
  | none => simp [planUser]
  | some e =>
    rw [planUser, noChange_ite (by simp)]
    simp

theorem planUniqueAccount_noChange (spec : ServiceAccountSpec) (found : Option ServiceAccount) :
    (planUniqueAccount spec found).1.change = .noChange ↔
      ∃ e, found = some e ∧ e.description = spec.description := by
  cases found with
  | none => simp [planUniqueAccount]
  | some e =>
    rw [planUniqueAccount, noChange_ite (by simp)]
    simp

theorem planGrant_noChange (role : RoleSpec) (grant : GrantSpec) :
    (planGrant snapshot r role grant).1.change = .noChange ↔ ∃ id,
      r.permissions.get? grant.permission = some id ∧
        id ∈ listed snapshot.roleGrants (r.roles.get? role.key) := by
  rw [planGrant]
  cases r.permissions.get? grant.permission with
  | none => simp
  | some id =>
    by_cases h : id ∈ listed snapshot.roleGrants (r.roles.get? role.key) <;> simp [h, noChange]

theorem planGroupMember_noChange (user : UserSpec) (group : PyStr) :
    (planGroupMember snapshot r user group).1.change = .noChange ↔ ∃ id,
      r.users.get? user.key = some id ∧ id ∈ listed snapshot.groupMembers (r.groups.get? group) := by
  rw [planGroupMember]
  cases r.users.get? user.key with
  | none => simp
  | some id =>
    by_cases h : id ∈ listed snapshot.groupMembers (r.groups.get? group) <;> simp [h, noChange]

theorem planSubjectRole_noChange {m : ManagementManifest} (hm : WellFormed m) (hr : Resolution m snapshot r)
    {u : Subject} {b : RoleBinding} (hb : roleKey b ∈ m.roles.map RoleSpec.key) :
    (planSubjectRole snapshot r u b).1.change = .noChange ↔ ∃ existing,
      standing m snapshot u b = some existing ∧
        existing.resourceId = (bindingResourceAndInherit r b).1 ∧
        existing.inherit = (bindingResourceAndInherit r b).2 := by
  rw [planSubjectRole, planRoleBinding, boundTo_eq hm hr hb]
  dsimp only
  cases standing m snapshot u b with
  | none => simp
  | some existing =>
    dsimp only
    split
    · next h => simp [noChange, h]
    · next h => simpa using h

end Specs

/-! ## The whole plan -/

/-- Everything that the planner compares is as the manifest states it. -/
structure Unchanged (m : ManagementManifest) (snapshot : Snapshot) (r : Resolved) : Prop where
  resource : ∀ spec ∈ m.resources, ∃ e, matchResource snapshot r.resources spec = some e ∧
    e.resourceType = spec.resourceType ∧ metadataDiffers e.metadata spec.metadata = false
  scope : ∀ p ∈ scopeSpecs m, (matchScope snapshot r.resources p.1 p.2).isSome
  permission : ∀ p ∈ m.permissions, ∃ e, matchPermission snapshot p = some e ∧ e.description = p.description
  role : ∀ role ∈ m.roles, ∃ e, matchRole snapshot role = some e ∧ e.description = role.description ∧
    e.isGlobal = role.isGlobal
  grant : ∀ role ∈ m.roles, ∀ g ∈ role.grants, ∃ id, r.permissions.get? g.permission = some id ∧
    id ∈ listed snapshot.roleGrants (r.roles.get? role.key)
  group : ∀ g ∈ m.groups, ∃ e, matchGroup snapshot g = some e ∧ e.description = g.description
  user : ∀ u ∈ m.users, ∃ e, matchUser snapshot u = some e ∧ e.email = u.email
  serviceAccount : ∀ s ∈ m.serviceAccounts, ∃ e, matchServiceAccount snapshot s = some e ∧
    e.description = s.description
  binding : ∀ u ∈ subjects m snapshot, ∀ b ∈ u.roles, ∃ existing, standing m snapshot u b = some existing ∧
    existing.resourceId = (bindingResourceAndInherit r b).1 ∧
    existing.inherit = (bindingResourceAndInherit r b).2
  member : ∀ u ∈ m.users, ∀ g ∈ u.groups, ∃ id, r.users.get? u.key = some id ∧
    id ∈ listed snapshot.groupMembers (r.groups.get? g)

theorem ManagementPlan.isConverged_iff (steps : List Planned) :
    (ManagementPlan.mk (steps.map Prod.fst)).isConverged = true ↔ ∀ p ∈ steps, p.1.change = .noChange := by
  simp [ManagementPlan.isConverged, ManagementPlan.changes, List.isEmpty_iff]

section Plan
variable {m : ManagementManifest} {snapshot : Snapshot} {steps : List Planned} {r : Resolved}
  {ordered : List ResourceSpec} {network : List Planned}

/-- **A converged plan**: nothing that the planner compares differs. -/
theorem isConverged_iff (hm : WellFormed m) (hsec : Sections m snapshot steps r ordered network)
    (ha : ambiguousServiceAccounts m snapshot = []) :
    (ManagementPlan.mk (steps.map Prod.fst)).isConverged = true ↔
      Unchanged m snapshot r ∧ ∀ p ∈ network, p.1.change = .noChange := by
  have hr := hsec.resolution
  have hresources : (∀ p ∈ ordered.map (fun spec => planResource spec.key spec
      (matchResource snapshot r.resources spec)), p.1.change = .noChange) ↔
      ∀ spec ∈ m.resources, ∃ e, matchResource snapshot r.resources spec = some e ∧
        e.resourceType = spec.resourceType ∧ metadataDiffers e.metadata spec.metadata = false := by
    rw [List.forall_mem_map]
    refine forall_congr' fun spec => ?_
    rw [hsec.perm.mem_iff, planResource_noChange]
  have hgrants : (∀ p ∈ m.roles.flatMap (fun role => role.grants.map (planGrant snapshot r role)),
      p.1.change = .noChange) ↔ ∀ role ∈ m.roles, ∀ g ∈ role.grants, ∃ id,
        r.permissions.get? g.permission = some id ∧
          id ∈ listed snapshot.roleGrants (r.roles.get? role.key) := by
    simp only [List.mem_flatMap, List.mem_map, forall_exists_index, and_imp, ← planGrant_noChange]
    exact ⟨fun h role hrole g hg => h _ role hrole g hg rfl, fun h p role hrole g hg hp => hp ▸ h role hrole g hg⟩
  have hmembers : (∀ p ∈ m.users.flatMap (fun u => u.groups.map (planGroupMember snapshot r u)),
      p.1.change = .noChange) ↔ ∀ u ∈ m.users, ∀ g ∈ u.groups, ∃ id, r.users.get? u.key = some id ∧
        id ∈ listed snapshot.groupMembers (r.groups.get? g) := by
    simp only [List.mem_flatMap, List.mem_map, forall_exists_index, and_imp, ← planGroupMember_noChange]
    exact ⟨fun h u hu g hg => h _ u hu g hg rfl, fun h p u hu g hg hp => hp ▸ h u hu g hg⟩
  have hbindings : (∀ u ∈ subjects m snapshot, ∀ b ∈ u.roles,
      (planSubjectRole snapshot r u b).1.change = .noChange) ↔
      ∀ u ∈ subjects m snapshot, ∀ b ∈ u.roles, ∃ existing, standing m snapshot u b = some existing ∧
        existing.resourceId = (bindingResourceAndInherit r b).1 ∧
        existing.inherit = (bindingResourceAndInherit r b).2 := by
    refine forall_congr' fun u => forall_congr' fun hu => forall_congr' fun b => forall_congr' fun hb => ?_
    exact planSubjectRole_noChange hm hr ((subjects_declared hm hu).role b hb)
  have hsubjects : ((∀ p ∈ m.groups.flatMap (fun g => g.roles.map
        (planSubjectRole snapshot r (groupSubject snapshot g))), p.1.change = .noChange) ∧
      (∀ p ∈ m.users.flatMap (fun u => u.roles.map
        (planSubjectRole snapshot r (userSubject snapshot u))), p.1.change = .noChange) ∧
      ∀ p ∈ m.serviceAccounts.flatMap (fun s => s.roles.map
        (planSubjectRole snapshot r (accountSubject snapshot s))), p.1.change = .noChange) ↔
      ∀ u ∈ subjects m snapshot, ∀ b ∈ u.roles,
        (planSubjectRole snapshot r u b).1.change = .noChange := by
    have hg := forall_subjectSteps snapshot r (fun p => p.1.change = .noChange) m.groups (groupSubject snapshot)
    have hu := forall_subjectSteps snapshot r (fun p => p.1.change = .noChange) m.users (userSubject snapshot)
    have hs := forall_subjectSteps snapshot r (fun p => p.1.change = .noChange) m.serviceAccounts
      (accountSubject snapshot)
    rw [subjects, List.forall_mem_append, List.forall_mem_append, and_assoc]
    exact and_congr hg (and_congr hu hs)
  rw [ManagementPlan.isConverged_iff, hsec.steps_eq, coreSteps_eq hr ha]
  simp only [List.forall_mem_append]
  constructor
  · rintro ⟨⟨h1, ⟨⟨⟨⟨⟨⟨⟨⟨⟨⟨h2, h3⟩, h4⟩, h5⟩, h6⟩, h7⟩, h8⟩, h9⟩, h10⟩, h11⟩, h12⟩⟩, h13⟩
    rw [List.forall_mem_map] at h2 h3 h4 h6 h8 h10
    refine ⟨⟨hresources.1 h1, fun p hp => ?_, fun p hp => ?_, fun p hp => ?_, hgrants.1 h5, fun p hp => ?_,
      fun p hp => ?_, fun p hp => ?_, hbindings.1 (hsubjects.1 ⟨h7, h9, h11⟩), hmembers.1 h12⟩, h13⟩
    · exact (planScope_noChange _ _ _).1 (h2 p hp)
    · exact (planPermission_noChange _ _).1 (h3 p hp)
    · exact (planRole_noChange _ _).1 (h4 p hp)
    · exact (planGroup_noChange _ _).1 (h6 p hp)
    · exact (planUser_noChange _ _).1 (h8 p hp)
    · exact (planUniqueAccount_noChange _ _).1 (h10 p hp)
  · rintro ⟨h, h13⟩
    obtain ⟨h7, h9, h11⟩ := hsubjects.2 (hbindings.2 h.binding)
    refine ⟨⟨hresources.2 h.resource, ⟨⟨⟨⟨⟨⟨⟨⟨⟨⟨?_, ?_⟩, ?_⟩, hgrants.2 h.grant⟩, ?_⟩, h7⟩, ?_⟩, h9⟩, ?_⟩, h11⟩,
      hmembers.2 h.member⟩⟩, h13⟩
    all_goals rw [List.forall_mem_map]; intro p hp
    · exact (planScope_noChange _ _ _).2 (h.scope p hp)
    · exact (planPermission_noChange _ _).2 (h.permission p hp)
    · exact (planRole_noChange _ _).2 (h.role p hp)
    · exact (planGroup_noChange _ _).2 (h.group p hp)
    · exact (planUser_noChange _ _).2 (h.user p hp)
    · exact (planUniqueAccount_noChange _ _).2 (h.serviceAccount p hp)

end Plan

end AxiamSdk.Manifest
