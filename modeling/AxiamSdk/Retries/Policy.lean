import Mathlib.Algebra.Group.Nat.Defs
import AxiamSdk.Authz

/-! # The retry policy (`_retry.py`)

* `retryRun`: the attempts of a call and the pauses between them; `retryRun_result`: its result is that of
  `retrySync`.
* `made_iff`: which attempts are made.
* `Exact`: another attempt follows one exactly if that one ended so and fewer than three were made;
  `policy_exact_iff`: exactly when. -/

namespace AxiamSdk.Retries
open PyLib
set_option autoImplicit false

/-! ## The policy -/

/-- `BASE_DELAY_MS` -/
def baseDelayMs : Float := 200.0

/-- `MAX_DELAY_MS` -/
def maxDelayMs : Float := 5000.0

/-- `MAX_RETRY_AFTER_MS` -/
def maxRetryAfterMs : Float := 3600000.0

/-- `backoff_ms` -/
def backoffMs (attempt : ℕ) : Float :=
  let step := baseDelayMs * Float.ofNat (2 ^ (attempt - 1))
  if step < maxDelayMs then step else maxDelayMs

/-- `delay_ms` -/
def delayMs (attempt : ℕ) (retryAfterMs : Option Float) (fraction : Float) : Float :=
  let drawn := if fraction < 0.0 then 0.0 else fraction
  let jittered := backoffMs attempt * (if 1.0 < drawn then 1.0 else drawn)
  match retryAfterMs with
  | none => jittered
  | some ms => if jittered < ms then ms else jittered

/-- `status_is_retryable` -/
def statusIsRetryable (status : ℕ) : Bool :=
  decide (status = 408 ∨ status = 429 ∨ (500 ≤ status ∧ status ≤ 599))

/-- `_retry_after_of` -/
def retryAfterOf : Exc → Option Float
  | .networkError _ (some ms) => some (if maxRetryAfterMs < ms then maxRetryAfterMs else ms)
  | _ => none

/-- `_should_retry` -/
def shouldRetry (e : Exc) : Bool := e.isNetworkError

/-- What a call made: how many attempts, the pauses before each further one, and its result. -/
structure Run (α : Type) where
  made : ℕ
  waits : List Float
  result : Except Exc α

section Policy
variable {α β : Type}

/-- The attempts from `attempt` on, `left` of them after this one; `rand` draws the jitter. -/
def runFrom (op : ℕ → Except Exc α) (rand : ℕ → Float) : ℕ → ℕ → Run α
  | 0, attempt => ⟨attempt, [], op attempt⟩
  | left + 1, attempt =>
    match op attempt with
    | .ok v => ⟨attempt, [], .ok v⟩
    | .error e =>
      if shouldRetry e then
        let rest := runFrom op rand left (attempt + 1)
        ⟨rest.made, delayMs attempt (retryAfterOf e) (rand attempt) :: rest.waits, rest.result⟩
      else ⟨attempt, [], .error e⟩

/-- `retry_sync` -/
def retryRun (enabled : Bool) (op : ℕ → Except Exc α) (rand : ℕ → Float) : Run α :=
  runFrom op rand ((if enabled then maxAttempts else 1) - 1) 1

/-- A call that ends before any attempt. -/
def Run.unsent (result : Except Exc α) : Run α := ⟨0, [], result⟩

/-- What the call makes of the answer. -/
def Run.bind (run : Run α) (f : α → Except Exc β) : Run β := ⟨run.made, run.waits, run.result >>= f⟩

@[simp] theorem unsent_made (result : Except Exc α) : (Run.unsent result).made = 0 := rfl

@[simp] theorem bind_made (run : Run α) (f : α → Except Exc β) : (run.bind f).made = run.made := rfl

@[simp] theorem bind_result (run : Run α) (f : α → Except Exc β) :
    (run.bind f).result = run.result >>= f := rfl

theorem runFrom_result (op : ℕ → Except Exc α) (rand : ℕ → Float) (left attempt : ℕ) :
    (runFrom op rand left attempt).result = retryFrom op left attempt := by
  induction left generalizing attempt with
  | zero => rfl
  | succ left ih =>
    rw [runFrom, retryFrom]
    cases op attempt with
    | ok v => rfl
    | error e =>
      by_cases hn : e.isNetworkError = true
      · simp [shouldRetry, hn, ih]
      · simp [shouldRetry, hn]

theorem retryRun_result (enabled : Bool) (op : ℕ → Except Exc α) (rand : ℕ → Float) :
    (retryRun enabled op rand).result = retrySync enabled op :=
  runFrom_result op rand _ 1

theorem made_iff (op : ℕ → Except Exc α) (rand : ℕ → Float) (left first k : ℕ) :
    (first ≤ k ∧ k ≤ (runFrom op rand left first).made) ↔ Reached op left first k := by
  induction left generalizing first k with
  | zero =>
    constructor
    · rintro ⟨hle, hle'⟩
      exact ⟨hle, hle', fun j hj hlt => absurd (Nat.lt_of_lt_of_le hlt hle') (Nat.not_lt.2 hj)⟩
    · rintro ⟨hle, hle', _⟩
      exact ⟨hle, hle'⟩
  | succ left ih =>
    rcases retryFrom_succ op left first with ⟨⟨e, he, hn⟩, _⟩ | ⟨hnr, _⟩
    · have hmade : (runFrom op rand (left + 1) first).made = (runFrom op rand left (first + 1)).made := by
        rw [runFrom, he]
        simp [shouldRetry, hn]
      have hfirst : Reached op left (first + 1) (first + 1) :=
        ⟨Nat.le_refl _, by omega, fun j hj hlt => by omega⟩
      have hlast := ((ih (first + 1) (first + 1)).2 hfirst).2
      have hih := ih (first + 1) k
      rw [hmade]
      constructor
      · rintro ⟨hle, hle'⟩
        rcases Nat.eq_or_lt_of_le hle with rfl | hlt
        · exact ⟨Nat.le_refl _, by omega, fun j hj hlt => by omega⟩
        · obtain ⟨_, hk, hall⟩ := hih.1 ⟨hlt, hle'⟩
          refine ⟨hle, by omega, fun j hj hjk => ?_⟩
          rcases Nat.eq_or_lt_of_le hj with rfl | hj'
          · exact ⟨e, he, hn⟩
          · exact hall j hj' hjk
      · rintro ⟨hle, hle', hall⟩
        rcases Nat.eq_or_lt_of_le hle with rfl | hlt
        · exact ⟨hle, by omega⟩
        · have hk := (hih.2 ⟨hlt, by omega, fun j hj hjk => hall j (by omega) hjk⟩).2
          exact ⟨hle, hk⟩
    · have hmade : (runFrom op rand (left + 1) first).made = first := by
        rw [runFrom]
        cases ho : op first with
        | ok v => rfl
        | error e =>
          have hn : e.isNetworkError = false := by simpa [Retried, ho] using hnr
          simp [shouldRetry, hn]
      rw [hmade]
      constructor
      · rintro ⟨hle, hle'⟩
        exact ⟨hle, by omega, fun j hj hlt => by omega⟩
      · rintro ⟨hle, _, hall⟩
        rcases Nat.eq_or_lt_of_le hle with rfl | hlt
        · exact ⟨Nat.le_refl _, Nat.le_refl _⟩
        · exact absurd (hall first (Nat.le_refl _) hlt) hnr

/-- Another attempt follows attempt `k` exactly if that one ended so and fewer than three were made. -/
def Exact (ended : ℕ → Prop) (made : ℕ) : Prop :=
  ∀ k, 1 ≤ k → k ≤ made → (k + 1 ≤ made ↔ k < maxAttempts ∧ ended k)

/-- **The policy is exact** exactly when it judges right every attempt that follows right ones. -/
theorem policy_exact_iff (op : ℕ → Except Exc α) (rand : ℕ → Float) (ended : ℕ → Prop) :
    Exact ended (retryRun true op rand).made ↔
      ∀ k, 1 ≤ k → k < maxAttempts → (∀ j, 1 ≤ j → j < k → ended j) → (Retried (op k) ↔ ended k) := by
  have hmade : ∀ k, (1 ≤ k ∧ k ≤ (retryRun true op rand).made) ↔
      (1 ≤ k ∧ k ≤ maxAttempts ∧ ∀ j, 1 ≤ j → j < k → Retried (op j)) := by
    intro k
    have h := made_iff op rand 2 1 k
    unfold Reached at h
    exact h
  have hnext : ∀ k, 1 ≤ k → k ≤ (retryRun true op rand).made →
      (k + 1 ≤ (retryRun true op rand).made ↔ k < maxAttempts ∧ Retried (op k)) := by
    intro k hk hle
    obtain ⟨_, _, hall⟩ := (hmade k).1 ⟨hk, hle⟩
    constructor
    · intro h
      obtain ⟨_, hlt, hall'⟩ := (hmade (k + 1)).1 ⟨by omega, h⟩
      exact ⟨by omega, hall' k hk (by omega)⟩
    · rintro ⟨hlt, hr⟩
      refine ((hmade (k + 1)).2 ⟨by omega, by omega, fun j hj hjk => ?_⟩).2
      rcases Nat.eq_or_lt_of_le (Nat.le_of_lt_succ hjk) with rfl | hj'
      · exact hr
      · exact hall j hj hj'
  constructor
  · intro hexact k hk hlt hall
    have hreached : ∀ j, 1 ≤ j → j ≤ k → j ≤ (retryRun true op rand).made := by
      intro j hj
      induction j, hj using Nat.le_induction with
      | base => exact fun _ => ((hmade 1).2 ⟨Nat.le_refl _, by decide, fun j hj hjl => by omega⟩).2
      | succ j hj ih =>
        intro hjk
        exact (hexact j hj (ih (by omega))).2 ⟨by omega, hall j hj (by omega)⟩
    have hle := hreached k hk (Nat.le_refl _)
    have h := (hnext k hk hle).symm.trans (hexact k hk hle)
    simpa [hlt] using h
  · intro hjudged k hk hle
    obtain ⟨_, _, hall⟩ := (hmade k).1 ⟨hk, hle⟩
    have hended : ∀ j, 1 ≤ j → j < k → ended j := by
      intro j
      induction j using Nat.strong_induction_on with
      | _ j ih =>
        intro hj hjk
        have hbefore : ∀ i, 1 ≤ i → i < j → ended i := fun i hi hij => ih i hij hi (by omega)
        have hkmax : k ≤ maxAttempts := ((hmade k).1 ⟨hk, hle⟩).2.1
        exact (hjudged j hj (by omega) hbefore).1 (hall j hj hjk)
    rw [hnext k hk hle]
    exact and_congr_right fun hlt => hjudged k hk hlt hended

end Policy

end AxiamSdk.Retries
