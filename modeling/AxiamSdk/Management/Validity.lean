import AxiamSdk.Management.Engine

/-! # What `validate` guarantees

`WellFormed` names what the later modules use of a manifest that has no problem. -/

namespace AxiamSdk.Manifest
open PyLib
set_option autoImplicit false

/-! ## Repetitions -/

theorem repeats_eq_nil_iff {α : Type} [DecidableEq α] (seen xs : List α) :
    repeats seen xs = [] ↔ xs.Nodup ∧ ∀ x ∈ xs, x ∉ seen := by
  induction xs generalizing seen with
  | nil => simp [repeats]
  | cons x xs ih =>
    rw [repeats]
    by_cases hx : x ∈ seen
    · simp [hx]
    · rw [if_neg hx, ih, List.nodup_cons]
      constructor
      · intro h
        refine ⟨⟨fun hmem => h.2 x hmem List.mem_cons_self, h.1⟩, fun y hy => ?_⟩
        rw [List.mem_cons] at hy
        obtain rfl | hy := hy
        · exact hx
        · exact fun hs => h.2 y hy (List.mem_cons_of_mem x hs)
      · intro h
        refine ⟨h.1.2, fun y hy hmem => ?_⟩
        rw [List.mem_cons] at hmem
        obtain rfl | hs := hmem
        · exact h.1.1 hy
        · exact h.2 y (List.mem_cons_of_mem x hy) hs

theorem duplicates_eq_nil_iff {kind : SpecKind} {keys : List PyStr} :
    duplicates kind keys = [] ↔ keys.Nodup := by
  rw [duplicates, List.map_eq_nil_iff, repeats_eq_nil_iff]
  simp

/-! ## Role bindings -/

/-- The bindings of one subject: roles and resources are declared and no role is bound twice. -/
structure BindingsDeclared (m : ManagementManifest) (bs : List RoleBinding) : Prop where
  role : ∀ b ∈ bs, roleKey b ∈ m.roles.map RoleSpec.key
  distinct : (bs.map roleKey).Nodup
  resource : ∀ b ∈ bs, ∀ key, resourceKey b = some key → key ∈ m.resources.map ResourceSpec.key

theorem bindingsDeclared_of_valid {m : ManagementManifest} {kind : SpecKind} {subject : PyStr}
    {seen : List PyStr} {bs : List RoleBinding} (h : validateRoleBindings m kind subject seen bs = []) :
    BindingsDeclared m bs ∧ ∀ b ∈ bs, roleKey b ∉ seen := by
  induction bs generalizing seen with
  | nil =>
    refine ⟨⟨fun b hb => ?_, List.nodup_nil, fun b hb => ?_⟩, fun b hb => ?_⟩
    · cases hb
    · cases hb
    · cases hb
  | cons b bs ih =>
    simp only [validateRoleBindings, List.append_eq_nil_iff] at h
    obtain ⟨⟨⟨hrole, hseen⟩, hbinding⟩, hrest⟩ := h
    obtain ⟨hdeclared, hfresh⟩ := ih hrest
    have hrole' : roleKey b ∈ m.roles.map RoleSpec.key := by
      by_contra hnot
      rw [if_neg hnot] at hrole
      cases hrole
    have hseen' : roleKey b ∉ seen := by
      intro hmem
      rw [if_pos hmem] at hseen
      cases hseen
    have hresource : ∀ key, resourceKey b = some key → key ∈ m.resources.map ResourceSpec.key := by
      intro key hkey
      obtain role | ⟨role, resource, inherit⟩ := b
      · cases hkey
      · cases hkey
        simp only [List.append_eq_nil_iff] at hbinding
        by_contra hnot
        rw [if_neg hnot] at hbinding
        cases hbinding.1
    refine ⟨⟨?_, ?_, ?_⟩, ?_⟩
    · rw [List.forall_mem_cons]
      exact ⟨hrole', hdeclared.role⟩
    · rw [List.map_cons, List.nodup_cons]
      refine ⟨fun hmem => ?_, hdeclared.distinct⟩
      obtain ⟨b', hb', hkey⟩ := List.mem_map.1 hmem
      exact hfresh b' hb' (hkey ▸ List.mem_cons_self)
    · rw [List.forall_mem_cons]
      exact ⟨hresource, hdeclared.resource⟩
    · rw [List.forall_mem_cons]
      exact ⟨hseen', fun b' hb' hmem => hfresh b' hb' (List.mem_cons_of_mem _ hmem)⟩

/-! ## The network section -/

/-- Segments are told apart by key and by what they are, and a profile names one of them. -/
structure NetworkDeclared (n : NetworkSpec) : Prop where
  segmentKeys : (n.segments.map NetworkSegmentSpec.key).Nodup
  identities : (n.segments.map NetworkSegmentSpec.identity).Nodup
  segment : ∀ p ∈ n.profiles, p.segment ∈ n.segments.map NetworkSegmentSpec.key

theorem identities_of_valid {natural : List (PyStr × PyStr × PyStr)} {ss : List NetworkSegmentSpec}
    (h : validateSegments natural ss = []) :
    (ss.map NetworkSegmentSpec.identity).Nodup ∧ ∀ s ∈ ss, s.identity ∉ natural := by
  induction ss generalizing natural with
  | nil => simp
  | cons s ss ih =>
    simp only [validateSegments, List.append_eq_nil_iff] at h
    obtain ⟨⟨hnatural, -⟩, hrest⟩ := h
    obtain ⟨hnodup, hfresh⟩ := ih hrest
    have hs : s.identity ∉ natural := by
      intro hmem
      rw [if_pos hmem] at hnatural
      cases hnatural
    refine ⟨?_, ?_⟩
    · rw [List.map_cons, List.nodup_cons]
      refine ⟨fun hmem => ?_, hnodup⟩
      obtain ⟨s', hs', hkey⟩ := List.mem_map.1 hmem
      exact hfresh s' hs' (hkey ▸ List.mem_cons_self)
    · rw [List.forall_mem_cons]
      exact ⟨hs, fun s' hs' hmem => hfresh s' hs' (List.mem_cons_of_mem _ hmem)⟩

theorem profiles_of_valid {keys profiled : List PyStr} {ps : List NetworkProfileSpec}
    (h : validateProfiles keys profiled ps = []) : ∀ p ∈ ps, p.segment ∈ keys := by
  induction ps generalizing profiled with
  | nil => simp
  | cons p ps ih =>
    simp only [validateProfiles, List.append_eq_nil_iff] at h
    obtain ⟨⟨⟨hsegment, -⟩, -⟩, hrest⟩ := h
    rw [List.forall_mem_cons]
    refine ⟨?_, ih hrest⟩
    by_contra hnot
    rw [if_neg hnot] at hsegment
    cases hsegment

/-! ## The manifest -/

/-- What a manifest without problems guarantees. -/
structure WellFormed (m : ManagementManifest) : Prop where
  resourceKeys : (m.resources.map ResourceSpec.key).Nodup
  scopeKeys : ((allScopes m).map ScopeSpec.key).Nodup
  permissionKeys : (m.permissions.map PermissionSpec.key).Nodup
  roleKeys : (m.roles.map RoleSpec.key).Nodup
  groupKeys : (m.groups.map GroupSpec.key).Nodup
  userKeys : (m.users.map UserSpec.key).Nodup
  serviceAccountKeys : (m.serviceAccounts.map ServiceAccountSpec.key).Nodup
  parent : ∀ r ∈ m.resources, ∀ p, truthy? r.parent = some p → p ∈ m.resources.map ResourceSpec.key
  permission : ∀ role ∈ m.roles, ∀ g ∈ role.grants, g.permission ∈ m.permissions.map PermissionSpec.key
  scope : ∀ role ∈ m.roles, ∀ g ∈ role.grants, ∀ s ∈ g.scopes, s ∈ (allScopes m).map ScopeSpec.key
  groupRoles : ∀ g ∈ m.groups, BindingsDeclared m g.roles
  userRoles : ∀ u ∈ m.users, BindingsDeclared m u.roles
  userGroups : ∀ u ∈ m.users, ∀ g ∈ u.groups, g ∈ m.groups.map GroupSpec.key
  serviceAccountRoles : ∀ s ∈ m.serviceAccounts, BindingsDeclared m s.roles
  network : ∀ n, m.network = some n → NetworkDeclared n

theorem Valid.wellFormed {m : ManagementManifest} (h : Valid m) : WellFormed m := by
  simp only [Valid, problems, List.append_eq_nil_iff, List.flatMap_eq_nil_iff, duplicates_eq_nil_iff] at h
  obtain ⟨⟨⟨⟨⟨⟨⟨⟨⟨⟨⟨⟨⟨hresource, hscope⟩, hpermission⟩, hrole⟩, hgroup⟩, huser⟩, haccount⟩, hparent⟩, hgrant⟩,
    hgroups⟩, husers⟩, haccounts⟩, hnetwork⟩, -⟩ := h
  refine ⟨hresource, hscope, hpermission, hrole, hgroup, huser, haccount, ?_, ?_, ?_, ?_, ?_, ?_, ?_, ?_⟩
  · intro r hr p hp
    have hr' := hparent r hr
    rw [hp] at hr'
    by_contra hnot
    simp [hnot] at hr'
  · intro role hr g hg
    by_contra hnot
    have hg' := (hgrant role hr g hg).1
    rw [if_neg hnot] at hg'
    cases hg'
  · intro role hr g hg s hs
    by_contra hnot
    have hs' := (hgrant role hr g hg).2 s hs
    rw [if_neg hnot] at hs'
    cases hs'
  · exact fun g hg => (bindingsDeclared_of_valid (hgroups g hg)).1
  · exact fun u hu => (bindingsDeclared_of_valid (husers u hu).1).1
  · intro u hu g hg
    by_contra hnot
    have hg' := (husers u hu).2 g hg
    rw [if_neg hnot] at hg'
    cases hg'
  · exact fun s hs => (bindingsDeclared_of_valid (haccounts s hs)).1
  · intro n hn
    rw [hn] at hnetwork
    simp only [validateNetwork, List.append_eq_nil_iff, duplicates_eq_nil_iff] at hnetwork
    exact ⟨hnetwork.1.1, (identities_of_valid hnetwork.1.2).1, profiles_of_valid hnetwork.2⟩

end AxiamSdk.Manifest
