import Mathlib.Data.List.Basic

/-! # Lists with parents first

A forest given by its parent function, and lists of its nodes in which every parent stands before its
children.

* `ParentsFirst`: every parent is placed already, or stands before its child.
* `Descends`: a path down from below `top`; with `top` placed it keeps parents first. -/

namespace PyLib
set_option autoImplicit false

variable {κ : Type*} (parent : κ → Option κ)

/-- Every parent is in `placed` or stands before its child. -/
def ParentsFirst : List κ → List κ → Prop
  | _, [] => True
  | placed, k :: ks => (∀ p, parent k = some p → p ∈ placed) ∧ ParentsFirst (k :: placed) ks

/-- A path: the head is a child of `top` and every other node one of the node before. -/
def Descends : Option κ → List κ → Prop
  | _, [] => True
  | top, k :: ks => parent k = top ∧ Descends (some k) ks

variable {parent}

theorem ParentsFirst.mono {placed placed' ks : List κ} (h : ParentsFirst parent placed ks)
    (hsub : placed ⊆ placed') : ParentsFirst parent placed' ks := by
  induction ks generalizing placed placed' with
  | nil => trivial
  | cons k ks ih =>
    refine ⟨fun p hp => hsub (h.1 p hp), ih h.2 ?_⟩
    intro x hx
    rw [List.mem_cons] at hx ⊢
    exact hx.imp_right (fun hx => hsub hx)

theorem parentsFirst_append {placed ks ls : List κ} :
    ParentsFirst parent placed (ks ++ ls) ↔
      ParentsFirst parent placed ks ∧ ParentsFirst parent (ks.reverse ++ placed) ls := by
  induction ks generalizing placed with
  | nil => simp [ParentsFirst]
  | cons k ks ih =>
    rw [List.cons_append, ParentsFirst, ParentsFirst, ih, and_assoc, List.reverse_cons, List.append_assoc]
    rfl

theorem ParentsFirst.mem {placed pre post : List κ} {k p : κ}
    (h : ParentsFirst parent placed (pre ++ k :: post)) (hp : parent k = some p) :
    p ∈ placed ∨ p ∈ pre := by
  have hk := (parentsFirst_append.1 h).2.1 p hp
  rw [List.mem_append, List.mem_reverse] at hk
  exact hk.symm

theorem ParentsFirst.induction_on {P : κ → Prop} {placed ks : List κ} (h : ParentsFirst parent placed ks)
    (hplaced : ∀ k ∈ placed, P k)
    (hstep : ∀ k ∈ ks, (∀ p, parent k = some p → P p) → P k) : ∀ k ∈ ks, P k := by
  induction ks generalizing placed with
  | nil => simp
  | cons k ks ih =>
    have hk : P k := hstep k List.mem_cons_self fun p hp => hplaced p (h.1 p hp)
    have hrest := ih h.2 (by
      rw [List.forall_mem_cons]
      exact ⟨hk, hplaced⟩) (fun x hx => hstep x (List.mem_cons_of_mem k hx))
    rw [List.forall_mem_cons]
    exact ⟨hk, hrest⟩

theorem Descends.parentsFirst {placed ks : List κ} {top : Option κ} (h : Descends parent top ks)
    (htop : ∀ k, top = some k → k ∈ placed) : ParentsFirst parent placed ks := by
  induction ks generalizing top placed with
  | nil => trivial
  | cons k ks ih =>
    refine ⟨fun p hp => htop p (h.1 ▸ hp), ih h.2 ?_⟩
    intro x hx
    cases hx
    exact List.mem_cons_self

theorem Descends.mem_parent {ks : List κ} {top : Option κ} {k : κ} (h : Descends parent top ks)
    (hk : k ∈ ks) : parent k = top ∨ ∃ p, parent k = some p ∧ p ∈ ks := by
  induction ks generalizing top with
  | nil => cases hk
  | cons x ks ih =>
    rw [List.mem_cons] at hk
    obtain rfl | hk := hk
    · exact .inl h.1
    · right
      obtain hx | ⟨p, hp, hmem⟩ := ih h.2 hk
      · exact ⟨x, hx, List.mem_cons_self⟩
      · exact ⟨p, hp, List.mem_cons_of_mem x hmem⟩

end PyLib
