import AxiamSdk.Management.Matching

/-! # The order of an accepted manifest

`validate` looks a parent up only where it is truthy, `topological_order` and `_compute` wherever it is not `None`.

* `Placed`: the order lists the declared keys once each, parents first, and the planner finds every one.
* `placed_iff`: it does exactly if no resource states an empty parent that no resource declares. -/

namespace AxiamSdk.Manifest
open PyLib
set_option autoImplicit false

/-! ## Keys that are climbed to -/

section Climb
variable {ps : List (PyStr × Option PyStr)} {keys placed : List PyStr}

theorem climb_subset (hclosed : ∀ k ∈ keys, ∀ p, parentIn ps k = some p → p ∈ keys) {fuel : ℕ}
    {chain chain' : List PyStr} {cursor : Option PyStr} (hcursor : ∀ k, cursor = some k → k ∈ keys)
    (hchain : chain ⊆ keys) (h : climb ps placed fuel chain cursor = .ok chain') : chain' ⊆ keys := by
  induction fuel generalizing chain cursor with
  | zero =>
    cases cursor with
    | none =>
      cases h
      exact hchain
    | some k => cases h
  | succ fuel ih =>
    cases cursor with
    | none =>
      cases h
      exact hchain
    | some k =>
      have hk : k ∈ keys := hcursor k rfl
      rw [climb] at h
      split at h
      · cases h
        exact hchain
      · split at h
        · cases h
        · exact ih (fun p hp => hclosed k hk p hp) (List.cons_subset.2 ⟨hk, hchain⟩) h

theorem placeAll_subset (hclosed : ∀ k ∈ keys, ∀ p, parentIn ps k = some p → p ∈ keys) {fuel : ℕ}
    {order : List PyStr} {rs : List ResourceSpec} (hrs : ∀ r ∈ rs, r.key ∈ keys) (hplaced : placed ⊆ keys)
    (h : placeAll ps fuel placed rs = .ok order) : order ⊆ keys := by
  induction rs generalizing placed with
  | nil =>
    cases h
    exact hplaced
  | cons r rs ih =>
    rw [List.forall_mem_cons] at hrs
    rw [placeAll] at h
    cases hclimb : climb ps placed fuel [] (some r.key) with
    | error k =>
      rw [hclimb] at h
      cases h
    | ok chain =>
      rw [hclimb] at h
      have hchain := climb_subset hclosed (fun k hk => Option.some.inj hk ▸ hrs.1) (List.nil_subset _) hclimb
      exact ih hrs.2 (List.append_subset.2 ⟨hplaced, hchain⟩) h

end Climb

/-! ## The order -/

/-- The order is a permutation of the declared keys, a stated parent comes before its child, and the planner
finds the resource of every key. -/
structure Placed (m : ManagementManifest) (order : List PyStr) : Prop where
  perm : order.Perm (m.resources.map ResourceSpec.key)
  parentFirst : ∀ spec ∈ m.resources, ∀ p, spec.parent = some p → ∀ pre post, order = pre ++ spec.key :: post →
    p ∈ pre
  found : ∀ key ∈ order, ∃ spec ∈ m.resources, spec.key = key
  planned : ∀ snapshot resources, ∃ result, planResources m snapshot resources order = .ok result

/-- An empty parent is the key of a resource. -/
def EmptyParentDeclared (m : ManagementManifest) : Prop :=
  ∀ spec ∈ m.resources, spec.parent = some [] → [] ∈ m.resources.map ResourceSpec.key

section Order
variable {m : ManagementManifest}

theorem order_of_valid (h : Valid m) : ∃ order, topologicalOrder m = .ok order := by
  simp only [Valid, problems, List.append_eq_nil_iff] at h
  cases horder : topologicalOrder m with
  | error k =>
    rw [horder] at h
    cases h.2
  | ok order => exact ⟨order, rfl⟩

theorem parent_declared (hm : WellFormed m) (hempty : EmptyParentDeclared m) {spec : ResourceSpec}
    (hs : spec ∈ m.resources) {p : PyStr} (hp : spec.parent = some p) : p ∈ m.resources.map ResourceSpec.key := by
  cases p with
  | nil => exact hempty spec hs hp
  | cons c cs => exact hm.parent spec hs _ (by rw [hp]; rfl)

theorem parentIn_declared (hm : WellFormed m) (hempty : EmptyParentDeclared m) :
    ∀ k ∈ m.resources.map ResourceSpec.key, ∀ p, parentIn (parents m) k = some p →
      p ∈ m.resources.map ResourceSpec.key := by
  intro k _ p hp
  rw [parentIn_parents, parentOf, Option.bind_eq_some_iff] at hp
  obtain ⟨spec, hspec, hp⟩ := hp
  exact parent_declared hm hempty (resourceSpec?_some hspec).1 hp

theorem planResources_found {snapshot : Snapshot} {keys : List PyStr}
    (h : ∀ key ∈ keys, ∃ spec, resourceSpec? m key = some spec) (d : Dict PyStr PyStr) :
    ∃ result, planResources m snapshot d keys = .ok result := by
  induction keys generalizing d with
  | nil => exact ⟨([], d), rfl⟩
  | cons key keys ih =>
    rw [List.forall_mem_cons] at h
    obtain ⟨⟨spec, hspec⟩, hrest⟩ := h
    rw [planResources_cons hspec]
    obtain ⟨result, hresult⟩ := ih hrest (setSome d key ((matchResource snapshot d spec).map Resource.id))
    rw [hresult]
    exact ⟨_, rfl⟩

theorem parent_before {order : List PyStr} (hm : WellFormed m) (h : topologicalOrder m = .ok order)
    {spec : ResourceSpec} (hs : spec ∈ m.resources) {p : PyStr} (hp : spec.parent = some p) {pre post : List PyStr}
    (he : order = pre ++ spec.key :: post) : p ∈ pre := by
  obtain ⟨hfirst, -, -⟩ := topologicalOrder_ok h
  rw [he] at hfirst
  have hparent : parentOf m spec.key = some p := by
    rw [parentOf, resourceSpec?_eq hm hs]
    exact hp
  obtain hmem | hmem := hfirst.mem hparent
  · cases hmem
  · exact hmem

/-- **The order of an accepted manifest.** -/
theorem placed_iff (hvalid : Valid m) :
    (∃ order, topologicalOrder m = .ok order ∧ Placed m order) ↔ EmptyParentDeclared m := by
  have hm := hvalid.wellFormed
  constructor
  · rintro ⟨order, horder, hplaced⟩ spec hs hp
    have hkey : spec.key ∈ order := hplaced.perm.mem_iff.2 (List.mem_map_of_mem hs)
    obtain ⟨pre, post, he⟩ := List.append_of_mem hkey
    have hbefore := hplaced.parentFirst spec hs [] hp pre post he
    rw [← hplaced.perm.mem_iff, he]
    exact List.mem_append_left _ hbefore
  · intro hempty
    obtain ⟨order, horder⟩ := order_of_valid hvalid
    obtain ⟨-, hnodup, hall⟩ := topologicalOrder_ok horder
    have hsub : order ⊆ m.resources.map ResourceSpec.key :=
      placeAll_subset (parentIn_declared hm hempty) (fun r hr => List.mem_map_of_mem hr) (List.nil_subset _) horder
    have hfound : ∀ key ∈ order, ∃ spec ∈ m.resources, spec.key = key := fun key hk => List.mem_map.1 (hsub hk)
    refine ⟨order, horder, ?_, fun spec hs p hp pre post he => parent_before hm horder hs hp he, hfound, ?_⟩
    · refine (List.perm_ext_iff_of_nodup hnodup hm.resourceKeys).2 fun key => ⟨fun hk => hsub hk, fun hk => ?_⟩
      obtain ⟨spec, hs, rfl⟩ := List.mem_map.1 hk
      exact hall spec hs
    · intro snapshot resources
      refine planResources_found (fun key hk => ?_) resources
      obtain ⟨spec, hs, rfl⟩ := hfound key hk
      exact ⟨spec, resourceSpec?_eq hm hs⟩

end Order

/-! ## An empty parent -/

/-- One resource, with a parent. -/
def oneResource (parent : PyStr) : ManagementManifest where
  resources := [⟨lit "doc", lit "doc", lit "document", some parent, [], none⟩]
  permissions := []
  roles := []
  groups := []
  users := []
  serviceAccounts := []
  network := none

/-- A root resource and one below it. -/
def twoResources : ManagementManifest :=
  { oneResource (lit "root") with
    resources := (oneResource (lit "root")).resources ++ [⟨lit "root", lit "root", lit "folder", none, [], none⟩] }

theorem twoResources_placed : ∃ order, topologicalOrder twoResources = .ok order ∧ Placed twoResources order :=
  (placed_iff (by decide)).2 (by unfold EmptyParentDeclared; decide)

/-- A resource whose parent is the empty string is accepted, and the order names a key that nothing declares. -/
theorem not_placed : ¬ ∀ m : ManagementManifest, Valid m → ∃ order, topologicalOrder m = .ok order ∧ Placed m order := by
  intro h
  obtain ⟨order, horder, hplaced⟩ := h (oneResource []) (by decide)
  obtain rfl : [[], lit "doc"] = order := Except.ok.inj horder
  obtain ⟨spec, hs, hkey⟩ := hplaced.found [] List.mem_cons_self
  rw [oneResource, List.mem_singleton] at hs
  subst hs
  cases hkey

end AxiamSdk.Manifest
