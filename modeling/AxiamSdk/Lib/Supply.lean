import Mathlib.Data.List.Basic

/-! # Scripts that supply what they need

A script is a list of steps; a step needs some facts and makes others.

* `Supplied`: every step finds what it needs, from the start or from a step before it.
* `Supplied.run`: a machine on which a supplied step succeeds runs a supplied script to its end. -/

namespace PyLib
set_option autoImplicit false

variable {α κ : Type*} (needs makes : α → List κ)

/-- What holds after a script. -/
def After (H : κ → Prop) (steps : List α) (k : κ) : Prop := H k ∨ ∃ p ∈ steps, k ∈ makes p

/-- Every step finds what it needs. -/
def Supplied : (κ → Prop) → List α → Prop
  | _, [] => True
  | H, p :: ps => (∀ k ∈ needs p, H k) ∧ Supplied (After makes H [p]) ps

variable {needs makes} {H : κ → Prop}

theorem after_nil (k : κ) : After makes H [] k ↔ H k := by
  simp [After]

theorem after_append (l₁ l₂ : List α) (k : κ) :
    After makes (After makes H l₁) l₂ k ↔ After makes H (l₁ ++ l₂) k := by
  simp only [After, List.mem_append, or_and_right, exists_or, or_assoc]

theorem Supplied.mono {H' : κ → Prop} {steps : List α} (h : Supplied needs makes H steps)
    (hsub : ∀ k, H k → H' k) : Supplied needs makes H' steps := by
  induction steps generalizing H H' with
  | nil => trivial
  | cons p ps ih =>
    refine ⟨fun k hk => hsub k (h.1 k hk), ih h.2 fun k hk => ?_⟩
    exact hk.imp_left (hsub k)

theorem supplied_append {l₁ l₂ : List α} : Supplied needs makes H (l₁ ++ l₂) ↔
    Supplied needs makes H l₁ ∧ Supplied needs makes (After makes H l₁) l₂ := by
  induction l₁ generalizing H with
  | nil =>
    have heq : After makes H [] = H := funext fun k => propext (after_nil k)
    rw [List.nil_append, heq]
    simp [Supplied]
  | cons p ps ih =>
    have heq : After makes (After makes H [p]) ps = After makes H (p :: ps) :=
      funext fun k => propext (after_append [p] ps k)
    rw [List.cons_append, Supplied, Supplied, ih, heq, and_assoc]

theorem supplied_of_forall {steps : List α} (h : ∀ p ∈ steps, ∀ k ∈ needs p, H k) :
    Supplied needs makes H steps := by
  induction steps generalizing H with
  | nil => trivial
  | cons p ps ih =>
    rw [List.forall_mem_cons] at h
    exact ⟨h.1, ih fun q hq k hk => .inl (h.2 q hq k hk)⟩

theorem Supplied.extend {pre l : List α} (h : Supplied needs makes H pre)
    (hl : ∀ p ∈ l, ∀ k ∈ needs p, After makes H pre k) : Supplied needs makes H (pre ++ l) :=
  supplied_append.2 ⟨h, supplied_of_forall hl⟩

/-- **The run lemma**, from what one step does: `holds s` are the facts of a state and `good` says that
the machine goes on. -/
theorem Supplied.run {σ : Type*} {step : σ → α → σ} (good : σ → Prop) (holds : σ → κ → Prop)
    (hstep : ∀ s p, good s → (∀ k ∈ needs p, holds s k) →
      good (step s p) ∧ ∀ k, holds s k ∨ k ∈ makes p → holds (step s p) k)
    {steps : List α} {s : σ} (h : Supplied needs makes H steps) (hgood : good s)
    (hholds : ∀ k, H k → holds s k) :
    good (steps.foldl step s) ∧ ∀ k, After makes H steps k → holds (steps.foldl step s) k := by
  induction steps generalizing s H with
  | nil => exact ⟨hgood, fun k hk => hholds k ((after_nil k).1 hk)⟩
  | cons p ps ih =>
    obtain ⟨hgood', hholds'⟩ := hstep s p hgood fun k hk => hholds k (h.1 k hk)
    have hnext : ∀ k, After makes H [p] k → holds (step s p) k := by
      intro k hk
      obtain hk | ⟨q, hq, hk⟩ := hk
      · exact hholds' k (.inl (hholds k hk))
      · rw [List.mem_singleton] at hq
        exact hholds' k (.inr (hq ▸ hk))
    obtain ⟨hgood'', hholds''⟩ := ih h.2 hgood' hnext
    refine ⟨hgood'', fun k hk => hholds'' k ?_⟩
    rw [after_append]
    exact hk

end PyLib
