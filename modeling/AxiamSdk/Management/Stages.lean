import AxiamSdk.Management.Parts

/-! # The stages of an apply

A plan writes one part of the tenant after the other.

* `stages`: the plan of a manifest without a network section, part by part.
* `stage_run`: while a part is written, the earlier parts are as they end and the later ones as they began. -/

namespace AxiamSdk.Manifest
open PyLib
set_option autoImplicit false

/-! ## Stages in order -/

/-- When a part is written. -/
def Part.stage : Part → ℕ
  | .resource => 0
  | .scope => 1
  | .permission => 2
  | .role => 3
  | .grant => 4
  | .group => 5
  | .binding .group => 6
  | .user => 7
  | .binding .user => 8
  | .serviceAccount => 9
  | .binding .serviceAccount => 10
  | .member => 11
  | .network => 12

/-- A state of the stage of `k`, in an apply that leads from `x` to `y`. -/
structure Within (k : Part) (x y z : ApplyState) : Prop where
  before : ∀ k', k'.stage < k.stage → view k' z = view k' y
  after : ∀ k', k.stage < k'.stage → view k' z = view k' x

/-- The steps touch no part but `k`. -/
def Touches (k : Part) (steps : List Planned) : Prop := ∀ p ∈ steps, ∀ k' ∈ p.2.part, k' = k

section Stages
variable {serve : Server TenantData} {x y u v : ApplyState} {k : Part} {steps : List Planned}

theorem Touches.frame (h : Touches k steps) (hserve : Exact serve) (hrun : Run (Moves serve) x steps y)
    {k' : Part} (hk : k' ≠ k) : view k' y = view k' x :=
  run_frame hserve (fun p hp hpart => hk (h p hp k' hpart)) hrun

theorem frame_of_stages (hserve : Exact serve) {stages : List (Part × List Planned)}
    (htouch : ∀ s ∈ stages, Touches s.1 s.2) (hrun : Run (Moves serve) x (stages.flatMap Prod.snd) y) {k : Part}
    (hk : ∀ s ∈ stages, s.1 ≠ k) : view k y = view k x := by
  refine run_frame hserve (fun p hp hpart => ?_) hrun
  obtain ⟨s, hs, hp⟩ := List.mem_flatMap.1 hp
  exact hk s hs (htouch s hs p hp k hpart).symm

/-- **One stage of a run.** -/
theorem stage_run (hserve : Exact serve) {stages : List (Part × List Planned)}
    (hsorted : (stages.map (fun s => s.1.stage)).Pairwise (· < ·)) (htouch : ∀ s ∈ stages, Touches s.1 s.2)
    (h : Run (Moves serve) x (stages.flatMap Prod.snd) y) (hs : (k, steps) ∈ stages) :
    ∃ u v, view k u = view k x ∧ view k v = view k y ∧
      Run (guarded (Moves serve) (fun z _ => Within k x y z)) u steps v := by
  obtain ⟨pre, post, rfl⟩ := List.append_of_mem hs
  rw [List.flatMap_append, List.flatMap_cons] at h
  obtain ⟨u, hpre, h⟩ := h.append_inv
  obtain ⟨v, hrun, hpost⟩ := h.append_inv
  dsimp only at hrun
  rw [List.map_append, List.map_cons, List.pairwise_append, List.pairwise_cons] at hsorted
  obtain ⟨-, ⟨hlater, -⟩, hearlier⟩ := hsorted
  have hbefore : ∀ s ∈ pre, s.1.stage < k.stage := fun s hs =>
    hearlier _ (List.mem_map_of_mem hs) _ List.mem_cons_self
  have hafter : ∀ s ∈ post, k.stage < s.1.stage := fun s hs => hlater _ (List.mem_map_of_mem hs)
  have hstart : ∀ k', k.stage ≤ k'.stage → view k' u = view k' x := by
    intro k' hk'
    refine frame_of_stages hserve (fun s hs => htouch s (List.mem_append_left _ hs)) hpre fun s hs he => ?_
    have hlt := hbefore s hs
    rw [he] at hlt
    omega
  have hend : ∀ k', k'.stage ≤ k.stage → view k' y = view k' v := by
    intro k' hk'
    refine frame_of_stages hserve (fun s hs => htouch s (by simp [hs])) hpost fun s hs he => ?_
    have hlt := hafter s hs
    rw [he] at hlt
    omega
  have hown : Touches k steps := htouch (k, steps) (by simp)
  refine ⟨u, v, hstart k le_rfl, (hend k le_rfl).symm, hrun.guard ?_⟩
  intro done p rest z z' hsteps hz _
  have hframe : ∀ k', k' ≠ k → view k' z = view k' u := by
    intro k' hk'
    refine Touches.frame (fun q hq => hown q ?_) hserve hz hk'
    rw [hsteps]
    exact List.mem_append_left _ hq
  constructor
  · intro k' hlt
    have hne : k' ≠ k := fun he => absurd hlt (by rw [he]; omega)
    rw [hframe k' hne, ← hown.frame hserve hrun hne, hend k' hlt.le]
  · intro k' hlt
    have hne : k' ≠ k := fun he => absurd hlt (by rw [he]; omega)
    rw [hframe k' hne, hstart k' hlt.le]

end Stages

/-! ## The stages of a plan -/

section Plan
variable {m : ManagementManifest} {snapshot : Snapshot} {r : Resolved} {ordered : List ResourceSpec}

/-- The plan of everything but the network, part by part. -/
def stages (m : ManagementManifest) (snapshot : Snapshot) (r : Resolved) (ordered : List ResourceSpec) :
    List (Part × List Planned) :=
  [(.resource, ordered.map (fun spec => planResource spec.key spec (matchResource snapshot r.resources spec))),
    (.scope, (scopeSpecs m).map (fun p => planScope p.1 p.2 (matchScope snapshot r.resources p.1 p.2))),
    (.permission, m.permissions.map (fun p => planPermission p (matchPermission snapshot p))),
    (.role, m.roles.map (fun role => planRole role (matchRole snapshot role))),
    (.grant, m.roles.flatMap (fun role => role.grants.map (planGrant snapshot r role))),
    (.group, m.groups.map (fun g => planGroup g (matchGroup snapshot g))),
    (.binding .group,
      m.groups.flatMap (fun g => g.roles.map (planSubjectRole snapshot r (groupSubject snapshot g)))),
    (.user, m.users.map (fun u => planUser u (matchUser snapshot u))),
    (.binding .user,
      m.users.flatMap (fun u => u.roles.map (planSubjectRole snapshot r (userSubject snapshot u)))),
    (.serviceAccount, m.serviceAccounts.map (fun s => planUniqueAccount s (matchServiceAccount snapshot s))),
    (.binding .serviceAccount, m.serviceAccounts.flatMap
      (fun s => s.roles.map (planSubjectRole snapshot r (accountSubject snapshot s)))),
    (.member, m.users.flatMap (fun u => u.groups.map (planGroupMember snapshot r u)))]

theorem stages_sorted : ((stages m snapshot r ordered).map (fun s => s.1.stage)).Pairwise (· < ·) := by
  show [0, 1, 2, 3, 4, 5, 6, 7, 8, 9, 10, 11].Pairwise (· < ·)
  decide

theorem stages_flatMap (hr : Resolution m snapshot r) (ha : ambiguousServiceAccounts m snapshot = []) :
    (stages m snapshot r ordered).flatMap Prod.snd = ordered.map (fun spec =>
      planResource spec.key spec (matchResource snapshot r.resources spec)) ++ coreSteps m snapshot r := by
  rw [coreSteps_eq hr ha]
  simp only [stages, List.flatMap_cons, List.flatMap_nil, List.append_nil, List.append_assoc]

theorem part_ite {c : Prop} [Decidable c] {p : Planned} {target : Target} {key : PyStr} {k : Part}
    (h : p.2.part = some k) : ∀ k' ∈ (if c then p else noChange target key).2.part, k' = k := by
  split
  · simp [h]
  · simp [noChange, Step.part]

theorem touches_map {α : Type} {specs : List α} {plan : α → Planned} {k : Part}
    (h : ∀ s, ∀ k' ∈ (plan s).2.part, k' = k) : Touches k (specs.map plan) :=
  fun p hp => by
    obtain ⟨s, -, rfl⟩ := List.mem_map.1 hp
    exact h s

theorem touches_flatMap {α β : Type} {specs : List α} {edges : α → List β} {plan : α → β → Planned} {k : Part}
    (h : ∀ s e, ∀ k' ∈ (plan s e).2.part, k' = k) :
    Touches k (specs.flatMap (fun s => (edges s).map (plan s))) := by
  intro p hp
  obtain ⟨s, -, hp⟩ := List.mem_flatMap.1 hp
  obtain ⟨e, -, rfl⟩ := List.mem_map.1 hp
  exact h s e

theorem planSubjectRole_part (u : Subject) (b : RoleBinding) :
    ∀ k ∈ (planSubjectRole snapshot r u b).2.part, k = .binding u.kind := by
  rw [planSubjectRole, planRoleBinding]
  dsimp only
  split
  · simp [Step.part]
  · split
    · simp [noChange, Step.part]
    · simp [Step.part]

theorem stages_touch : ∀ s ∈ stages m snapshot r ordered, Touches s.1 s.2 := by
  simp only [stages, List.forall_mem_cons]
  refine ⟨?_, ?_, ?_, ?_, ?_, ?_, ?_, ?_, ?_, ?_, ?_, ?_, by simp⟩
  · refine touches_map fun s => ?_
    cases matchResource snapshot r.resources s with
    | none => simp [planResource, Step.part]
    | some e => exact part_ite rfl
  · refine touches_map fun s => ?_
    cases matchScope snapshot r.resources s.1 s.2 <;> simp [planScope, noChange, Step.part]
  · refine touches_map fun s => ?_
    cases matchPermission snapshot s with
    | none => simp [planPermission, Step.part]
    | some e => exact part_ite rfl
  · refine touches_map fun s => ?_
    cases matchRole snapshot s with
    | none => simp [planRole, Step.part]
    | some e => exact part_ite rfl
  · refine touches_flatMap fun role grant => ?_
    rw [planGrant]
    split <;> simp [noChange, Step.part]
  · refine touches_map fun s => ?_
    cases matchGroup snapshot s with
    | none => simp [planGroup, Step.part]
    | some e => exact part_ite rfl
  · exact touches_flatMap fun g b => planSubjectRole_part (groupSubject snapshot g) b
  · refine touches_map fun s => ?_
    cases matchUser snapshot s with
    | none => simp [planUser, Step.part]
    | some e => exact part_ite rfl
  · exact touches_flatMap fun u b => planSubjectRole_part (userSubject snapshot u) b
  · refine touches_map fun s => ?_
    cases matchServiceAccount snapshot s with
    | none => simp [planUniqueAccount, Step.part]
    | some e => exact part_ite rfl
  · exact touches_flatMap fun s b => planSubjectRole_part (accountSubject snapshot s) b
  · refine touches_flatMap fun u g => ?_
    rw [planGroupMember]
    split <;> simp [noChange, Step.part]

end Plan

end AxiamSdk.Manifest
