import Mathlib.Data.List.Perm.Subperm
import AxiamSdk.Lib.ParentsFirst
import AxiamSdk.Management.Engine

/-! # The order of the resources

* `topologicalOrder_ok`: the order lists every declared key once, parents first.
* `topologicalOrder_error`: the key it fails with lies on a cycle of the parent graph. -/

namespace AxiamSdk.Manifest
open PyLib
set_option autoImplicit false

/-- The parent of a key. -/
def parentIn (ps : List (PyStr × Option PyStr)) (key : PyStr) : Option PyStr := (Assoc.get? ps key).join

section Climb
variable {ps : List (PyStr × Option PyStr)} {placed : List PyStr}

/-- A climb that ends adds a path below what is placed. -/
structure Climbed (ps : List (PyStr × Option PyStr)) (placed chain : List PyStr) : Prop where
  parentsFirst : ParentsFirst (parentIn ps) placed chain
  nodup : chain.Nodup
  fresh : ∀ k ∈ chain, k ∉ placed

theorem climb_ok {fuel : ℕ} {chain chain' : List PyStr} {cursor : Option PyStr}
    (h : climb ps placed fuel chain cursor = .ok chain') (hpath : Descends (parentIn ps) cursor chain)
    (hnodup : chain.Nodup) (hfresh : ∀ k ∈ chain, k ∉ placed) :
    Climbed ps placed chain' ∧ chain ⊆ chain' ∧ ∀ k, cursor = some k → k ∈ placed ∨ k ∈ chain' := by
  induction fuel generalizing chain cursor with
  | zero =>
    cases cursor with
    | none =>
      cases h
      refine ⟨⟨hpath.parentsFirst fun k hk => ?_, hnodup, hfresh⟩, List.Subset.refl _, fun k hk => ?_⟩
      · cases hk
      · cases hk
    | some k => cases h
  | succ fuel ih =>
    cases cursor with
    | none =>
      cases h
      refine ⟨⟨hpath.parentsFirst fun k hk => ?_, hnodup, hfresh⟩, List.Subset.refl _, fun k hk => ?_⟩
      · cases hk
      · cases hk
    | some k =>
      rw [climb] at h
      by_cases hplaced : k ∈ placed
      · rw [if_pos hplaced] at h
        cases h
        refine ⟨⟨hpath.parentsFirst fun x hx => ?_, hnodup, hfresh⟩, List.Subset.refl _, fun x hx => ?_⟩
        · cases hx
          exact hplaced
        · cases hx
          exact .inl hplaced
      · rw [if_neg hplaced] at h
        by_cases hmem : k ∈ chain
        · rw [if_pos hmem] at h
          cases h
        · rw [if_neg hmem] at h
          obtain ⟨hclimbed, hsub, -⟩ := ih h ⟨rfl, hpath⟩ (List.nodup_cons.2 ⟨hmem, hnodup⟩) (by
            intro x hx
            rw [List.mem_cons] at hx
            obtain rfl | hx := hx
            · exact hplaced
            · exact hfresh x hx)
          refine ⟨hclimbed, fun x hx => hsub (List.mem_cons_of_mem k hx), fun x hx => ?_⟩
          cases hx
          exact .inr (hsub List.mem_cons_self)

theorem climb_fuel {fuel : ℕ} {chain : List PyStr} {cursor : Option PyStr} {k : PyStr}
    (h : climb ps placed fuel chain cursor = .error k) (hpath : Descends (parentIn ps) cursor chain)
    (hnodup : chain.Nodup) (hkeys : cursor ≠ none → chain ⊆ ps.map Prod.fst)
    (hfuel : ps.length < fuel + chain.length) :
    ∃ cycle, Descends (parentIn ps) (some k) cycle ∧ k ∈ cycle := by
  induction fuel generalizing chain cursor with
  | zero =>
    cases cursor with
    | none => cases h
    | some c =>
      have hle := (hnodup.subperm (hkeys (by simp))).length_le
      rw [List.length_map] at hle
      omega
  | succ fuel ih =>
    cases cursor with
    | none => cases h
    | some c =>
      rw [climb] at h
      by_cases hplaced : c ∈ placed
      · rw [if_pos hplaced] at h
        cases h
      · rw [if_neg hplaced] at h
        by_cases hmem : c ∈ chain
        · rw [if_pos hmem] at h
          cases h
          exact ⟨chain, hpath, hmem⟩
        · rw [if_neg hmem] at h
          refine ih h ⟨rfl, hpath⟩ (List.nodup_cons.2 ⟨hmem, hnodup⟩) (fun hnext => ?_) ?_
          · rw [List.cons_subset]
            refine ⟨?_, hkeys (by simp)⟩
            by_contra hc
            rw [Assoc.get?_eq_none_iff.2 hc] at hnext
            exact hnext rfl
          · rw [List.length_cons]
            omega

end Climb

theorem placeAll_ok {ps : List (PyStr × Option PyStr)} {fuel : ℕ} {placed order : List PyStr}
    {rs : List ResourceSpec} (h : placeAll ps fuel placed rs = .ok order)
    (hplaced : ParentsFirst (parentIn ps) [] placed) (hnodup : placed.Nodup) :
    ParentsFirst (parentIn ps) [] order ∧ order.Nodup ∧ placed ⊆ order ∧
      ∀ r ∈ rs, r.key ∈ order := by
  induction rs generalizing placed with
  | nil =>
    cases h
    exact ⟨hplaced, hnodup, List.Subset.refl _, fun r hr => by cases hr⟩
  | cons r rs ih =>
    rw [placeAll] at h
    cases hclimb : climb ps placed fuel [] (some r.key) with
    | error k =>
      rw [hclimb] at h
      cases h
    | ok chain =>
      rw [hclimb] at h
      obtain ⟨hclimbed, -, hkey⟩ := climb_ok hclimb trivial List.nodup_nil (fun k hk => by cases hk)
      have hfirst : ParentsFirst (parentIn ps) [] (placed ++ chain) := by
        rw [parentsFirst_append]
        refine ⟨hplaced, hclimbed.parentsFirst.mono fun x hx => ?_⟩
        rw [List.append_nil, List.mem_reverse]
        exact hx
      have hnd : (placed ++ chain).Nodup := by
        rw [List.nodup_append']
        exact ⟨hnodup, hclimbed.nodup, fun x hx hx' => hclimbed.fresh x hx' hx⟩
      obtain ⟨h1, h2, h3, h4⟩ := ih h hfirst hnd
      rw [List.append_subset] at h3
      refine ⟨h1, h2, h3.1, fun x hx => ?_⟩
      rw [List.mem_cons] at hx
      obtain rfl | hx := hx
      · exact (hkey _ rfl).elim (fun hk => h3.1 hk) (fun hk => h3.2 hk)
      · exact h4 x hx

theorem placeAll_error {ps : List (PyStr × Option PyStr)} {fuel : ℕ} {placed : List PyStr} {k : PyStr}
    {rs : List ResourceSpec} (h : placeAll ps fuel placed rs = .error k) (hfuel : ps.length < fuel)
    (hkeys : ∀ r ∈ rs, r.key ∈ ps.map Prod.fst) :
    ∃ cycle, Descends (parentIn ps) (some k) cycle ∧ k ∈ cycle := by
  induction rs generalizing placed with
  | nil => cases h
  | cons r rs ih =>
    rw [placeAll] at h
    cases hclimb : climb ps placed fuel [] (some r.key) with
    | error k' =>
      rw [hclimb] at h
      cases h
      exact climb_fuel hclimb trivial List.nodup_nil (fun _ => List.nil_subset _) (by simpa using hfuel)
    | ok chain =>
      rw [hclimb] at h
      exact ih h (fun x hx => hkeys x (List.mem_cons_of_mem r hx))

/-! ## The parents of a manifest -/

/-- The parent that the resource of a key states. -/
def parentOf (m : ManagementManifest) (key : PyStr) : Option PyStr :=
  (resourceSpec? m key).bind ResourceSpec.parent

theorem get?_foldl_parents (rs : List ResourceSpec) (d : List (PyStr × Option PyStr)) (key : PyStr) :
    Assoc.get? (rs.foldl (fun d r => Assoc.set d r.key r.parent) d) key =
      ((rs.reverse.find? (fun r => r.key = key)).map ResourceSpec.parent).or (Assoc.get? d key) := by
  induction rs generalizing d with
  | nil => rfl
  | cons r rs ih =>
    rw [List.foldl_cons, ih, Assoc.get?_set, List.reverse_cons, List.find?_append]
    cases rs.reverse.find? (fun r => r.key = key) with
    | some s => rfl
    | none => by_cases hk : r.key = key <;> simp [hk]

theorem get?_parents (m : ManagementManifest) (key : PyStr) :
    Assoc.get? (parents m) key = (resourceSpec? m key).map ResourceSpec.parent := by
  rw [parents, get?_foldl_parents, resourceSpec?, Assoc.get?_nil, Option.or_none]

theorem parentIn_parents (m : ManagementManifest) : parentIn (parents m) = parentOf m := by
  funext key
  rw [parentIn, get?_parents, parentOf]
  cases resourceSpec? m key with
  | none => rfl
  | some s => rfl

theorem length_set_le (d : List (PyStr × Option PyStr)) (key : PyStr) (v : Option PyStr) :
    (Assoc.set d key v).length ≤ d.length + 1 := by
  induction d with
  | nil => simp [Assoc.set]
  | cons p d ih =>
    rw [Assoc.set]
    split
    · simp
    · simpa using ih

theorem length_foldl_parents_le (rs : List ResourceSpec) (d : List (PyStr × Option PyStr)) :
    (rs.foldl (fun d r => Assoc.set d r.key r.parent) d).length ≤ d.length + rs.length := by
  induction rs generalizing d with
  | nil => simp
  | cons r rs ih =>
    have hset := length_set_le d r.key r.parent
    have hrest := ih (Assoc.set d r.key r.parent)
    rw [List.foldl_cons, List.length_cons]
    omega

theorem length_parents_le (m : ManagementManifest) : (parents m).length ≤ m.resources.length := by
  have h := length_foldl_parents_le m.resources []
  simpa [parents] using h

/-- **The order**: every declared key, once, parents first. -/
theorem topologicalOrder_ok {m : ManagementManifest} {order : List PyStr}
    (h : topologicalOrder m = .ok order) :
    ParentsFirst (parentOf m) [] order ∧ order.Nodup ∧ ∀ r ∈ m.resources, r.key ∈ order := by
  obtain ⟨h1, h2, -, h4⟩ := placeAll_ok h trivial List.nodup_nil
  rw [parentIn_parents] at h1
  exact ⟨h1, h2, h4⟩

/-- **The failure**: the key lies on a cycle of the parents. -/
theorem topologicalOrder_error {m : ManagementManifest} {k : PyStr} (h : topologicalOrder m = .error k) :
    ∃ cycle, Descends (parentOf m) (some k) cycle ∧ k ∈ cycle := by
  have hlen := length_parents_le m
  rw [← parentIn_parents]
  refine placeAll_error h (by omega) fun r hr => ?_
  by_contra hnot
  rw [← Assoc.get?_eq_none_iff, get?_parents, Option.map_eq_none_iff, resourceSpec?, List.find?_eq_none] at hnot
  exact hnot r (List.mem_reverse.2 hr) (by simp)

end AxiamSdk.Manifest
