import Mathlib.Data.Nat.Notation
import Mathlib.Tactic.Common

/-! # Loops

A loop is a body that goes on with a new state or ends with a result.

* `run`, `reached`: the loop cut off after so many turns, and the state that a turn starts in.
* `ends_of_measure`: a loop ends when from some turn on every turn that goes on makes a measure smaller. -/

namespace PyLib.Loop
set_option autoImplicit false

variable {σ ρ : Type*} {body : σ → σ ⊕ ρ} {s t : σ} {r : ρ} {n k : ℕ}

/-- The result after at most so many turns. -/
def run (body : σ → σ ⊕ ρ) : ℕ → σ → Option ρ
  | 0, _ => none
  | n + 1, s =>
    match body s with
    | .inl t => run body n t
    | .inr r => some r

/-- The state in which a turn starts; none after the end. -/
def reached (body : σ → σ ⊕ ρ) : ℕ → σ → Option σ
  | 0, s => some s
  | n + 1, s =>
    match body s with
    | .inl t => reached body n t
    | .inr _ => none

def Ends (body : σ → σ ⊕ ρ) (s : σ) : Prop := ∃ n r, run body n s = some r

theorem run_inl (h : body s = .inl t) (n : ℕ) : run body (n + 1) s = run body n t := by
  rw [run, h]

theorem run_inr (h : body s = .inr r) (n : ℕ) : run body (n + 1) s = some r := by
  rw [run, h]

theorem reached_inl (h : body s = .inl t) (n : ℕ) : reached body (n + 1) s = reached body n t := by
  rw [reached, h]

theorem reached_inr (h : body s = .inr r) (n : ℕ) : reached body (n + 1) s = none := by
  rw [reached, h]

/-- What holds at the start and after every turn that goes on holds in every state reached. -/
theorem reached_invariant {P : σ → Prop} (hstep : ∀ s t, P s → body s = .inl t → P t) (hs : P s)
    (h : reached body n s = some t) : P t := by
  induction n generalizing s with
  | zero =>
    obtain rfl := Option.some.inj h
    exact hs
  | succ n ih =>
    cases hbody : body s with
    | inl s' =>
      rw [reached_inl hbody] at h
      exact ih (hstep s s' hs hbody) h
    | inr r =>
      rw [reached_inr hbody] at h
      cases h

theorem reached_add (h : reached body n s = some t) (k : ℕ) : reached body (n + k) s = reached body k t := by
  induction n generalizing s with
  | zero =>
    obtain rfl := Option.some.inj h
    rw [Nat.zero_add]
  | succ n ih =>
    cases hbody : body s with
    | inl s' =>
      rw [reached_inl hbody] at h
      rw [Nat.add_right_comm, reached_inl hbody]
      exact ih h
    | inr r =>
      rw [reached_inr hbody] at h
      cases h

theorem reached_succ (h : reached body n s = some t) : reached body (n + 1) s = match body t with
    | .inl t' => some t'
    | .inr _ => none := by
  rw [reached_add h 1, reached]
  rfl

theorem run_of_reached (h : reached body n s = some t) (hbody : body t = .inr r) :
    run body (n + 1) s = some r := by
  induction n generalizing s with
  | zero =>
    obtain rfl := Option.some.inj h
    exact run_inr hbody 0
  | succ n ih =>
    cases hs : body s with
    | inl s' =>
      rw [reached_inl hs] at h
      rw [run_inl hs]
      exact ih h
    | inr r' =>
      rw [reached_inr hs] at h
      cases h

theorem run_unique {r' : ρ} (h : run body n s = some r) (h' : run body k s = some r') : r = r' := by
  induction n generalizing s k with
  | zero => cases h
  | succ n ih =>
    cases k with
    | zero => cases h'
    | succ k =>
      cases hs : body s with
      | inl t =>
        rw [run_inl hs] at h h'
        exact ih h h'
      | inr r'' =>
        rw [run_inr hs] at h h'
        exact (Option.some.inj h).symm.trans (Option.some.inj h')

theorem ends_iff : Ends body s ↔ ∃ n, reached body n s = none := by
  constructor
  · rintro ⟨n, r, h⟩
    refine ⟨n, ?_⟩
    induction n generalizing s with
    | zero => cases h
    | succ n ih =>
      cases hs : body s with
      | inl s' =>
        rw [run_inl hs] at h
        rw [reached_inl hs]
        exact ih h
      | inr r' => exact reached_inr hs n
  · rintro ⟨n, h⟩
    induction n generalizing s with
    | zero => cases h
    | succ n ih =>
      cases hs : body s with
      | inl s' =>
        rw [reached_inl hs] at h
        obtain ⟨k, r, hr⟩ := ih h
        exact ⟨k + 1, r, by rw [run_inl hs, hr]⟩
      | inr r => exact ⟨1, r, run_inr hs 0⟩

theorem reached_none_of_le (h : reached body n s = none) (hle : n ≤ k) : reached body k s = none := by
  induction n generalizing s k with
  | zero => cases h
  | succ n ih =>
    obtain ⟨k, rfl⟩ : ∃ k', k = k' + 1 := ⟨k - 1, by omega⟩
    cases hs : body s with
    | inl s' =>
      rw [reached_inl hs] at h ⊢
      exact ih h (by omega)
    | inr r => exact reached_inr hs k

/-- **A loop ends** when, from some turn on, every turn that goes on makes the measure smaller. -/
theorem ends_of_measure (measure : σ → ℕ) (n : ℕ)
    (h : ∀ k s' t', n ≤ k → reached body k s = some s' → body s' = .inl t' → measure t' < measure s') :
    Ends body s := by
  rw [ends_iff]
  cases hn : reached body n s with
  | none => exact ⟨n, hn⟩
  | some u =>
    -- after as many more turns as the measure says, no turn is left
    have hdone : ∀ m k u, n ≤ k → reached body k s = some u → measure u ≤ m →
        ∃ j, reached body j s = none := by
      intro m
      induction m with
      | zero =>
        intro k u hk hu hm
        refine ⟨k + 1, ?_⟩
        rw [reached_succ hu]
        cases hbody : body u with
        | inl u' =>
          have hlt := h k u u' hk hu hbody
          omega
        | inr r => rfl
      | succ m ih =>
        intro k u hk hu hm
        cases hbody : body u with
        | inl u' =>
          have hlt := h k u u' hk hu hbody
          refine ih (k + 1) u' (by omega) ?_ (by omega)
          rw [reached_succ hu, hbody]
        | inr r =>
          refine ⟨k + 1, ?_⟩
          rw [reached_succ hu, hbody]
    exact hdone (measure u) n u (Nat.le_refl n) hn (Nat.le_refl _)

end PyLib.Loop
