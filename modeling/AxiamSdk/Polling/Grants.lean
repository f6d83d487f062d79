import AxiamSdk.Polling.DeviceLogin
import AxiamSdk.Polling.CibaAwait

/-! # The polling grants

`grants_keep_schedule`: every state of a run of `device_login` or of `ciba_await` obeys the law of a polling grant,
exactly if no pass of it misreads an answer or forgets a `Retry-After`. -/

namespace AxiamSdk.Polling
open PyLib
set_option autoImplicit false

variable {τ : Type}

/-- The interval that was stated, or the default for none. -/
def statedInterval (interval : ℤ) : ℤ := if 0 < interval then interval else 5

theorem statedInterval_nonneg (interval : ℤ) : (0 : ℚ) ≤ statedInterval interval := by
  have h : 0 ≤ statedInterval interval := by
    unfold statedInterval
    split <;> omega
  exact_mod_cast h

/-- **The polling grants.** Whatever was stated, whenever the loop starts and whatever is answered, every state of a
run of `device_login` or of `ciba_await` obeys the law exactly if every pass conforms. -/
theorem grants_keep_schedule (C : PollClient τ) (interval expiresIn : ℤ) (receivedAt clock : ℚ)
    (exchanges : List (ℕ → Exchange)) :
    (Run.Along (fnStep (deviceLoop C).step)
        (Grant.start (PollSchedule.new interval expiresIn receivedAt) clock) exchanges
        (Lawful C.platform (receivedAt + expiresIn) (statedInterval interval) (deviceAnswer C)) ↔
      Run.Always (fnStep (deviceLoop C).step)
        (Grant.start (PollSchedule.new interval expiresIn receivedAt) clock) exchanges
        (deviceSchedules C).Conforms) ∧
    (Run.Along (fnStep (cibaLoop C).step)
        (Grant.start (CibaSchedule.new interval expiresIn receivedAt) clock) exchanges
        (Lawful C.platform (receivedAt + expiresIn) (statedInterval interval) (cibaAnswer C)) ↔
      Run.Always (fnStep (cibaLoop C).step)
        (Grant.start (CibaSchedule.new interval expiresIn receivedAt) clock) exchanges
        (cibaSchedules C).Conforms) :=
  ⟨(deviceSchedules C).lawful_iff (statedInterval_nonneg interval) rfl rfl rfl clock exchanges,
    (cibaSchedules C).lawful_iff (statedInterval_nonneg interval) rfl rfl rfl clock exchanges⟩

/-! ## A 404 that is polled through, and a wait cut short -/

namespace Misjudged

def client : PollClient Unit where
  platform := ⟨⟨4300, 990, 990, fun _ => []⟩, fun _ _ => List.replicate 32 0, fun _ => none⟩
  retryEnabled := true
  buildTokenSet _ := .ok ()
  decisive _ _ h := by cases h

/-- Every request gets this answer after a second. -/
def always (r : Response) : ℕ → Exchange := fun _ => ⟨.response r, 1, 1⟩

/-- A 404 without a body. -/
def notFound : Response := ⟨404, by decide, [], some none⟩

/-- A 429 with the body `slow_down` for its error and `Retry-After: 120`. -/
def slowDown : Response :=
  ⟨429, by decide, [123, 34, 101, 114, 114, 111, 114, 34, 58, 34, 115, 108, 111, 119, 95, 100, 111, 119,
    110, 34, 125], some (some 120000)⟩

def deviceStart : Grant PollSchedule Unit := Grant.start (PollSchedule.new 5 600 0) 0

def cibaStart : Grant CibaSchedule Unit := Grant.start (CibaSchedule.new 5 600 0) 0

theorem device_goes : ((deviceLoop client).tick deviceStart.schedule 0).isSome = true ∧
    ((deviceLoop client).step deviceStart (always notFound)).isSome = true := by
  decide +kernel

theorem named_errors : (Outcome.response notFound).bare client.platform = true ∧
    (Outcome.response slowDown).oauthError client.platform = some (lit "slow_down") := by
  decide +kernel

theorem misreads_notFound : DeviceMisreads client.platform (.response notFound) :=
  ⟨notFound, rfl, rfl, by decide, Or.inr ⟨named_errors.1, by decide⟩⟩

theorem forgets_slowDown : CibaForgets client.platform (.response slowDown) :=
  ⟨slowDown, rfl, Or.inr ⟨rfl, named_errors.2⟩⟩

/-- The grant after the first 429. -/
def limited? : Option (Grant CibaSchedule Unit) := (cibaLoop client).step cibaStart (always slowDown)

theorem limited_isSome : limited?.isSome = true := by decide +kernel

def limited : Grant CibaSchedule Unit := limited?.get limited_isSome

theorem limited_step : (cibaLoop client).step cibaStart (always slowDown) = some limited :=
  (Option.some_get limited_isSome).symm

/-- The grant is still going, now every 10 seconds, and a second pass of it goes through. -/
theorem limited_goes : limited.schedule.interval = 10 ∧ limited.ending.isNone = true ∧
    ((cibaLoop client).tick limited.schedule limited.clock).isSome = true ∧
    ((cibaLoop client).step limited (always slowDown)).isSome = true ∧
    (Outcome.response slowDown).retryAfter.getD 0 = 120 := by
  decide +kernel

theorem limited_answer : lastAnswer limited.passes = some (.response slowDown) := by
  obtain ⟨-, ⟨-, hexpired⟩ | ⟨wait, s, -, p, rfl, hpasses, -⟩⟩ := step_cases limited_step
  · obtain ⟨-, hgoing, -⟩ := limited_goes
    rw [hexpired] at hgoing
    cases hgoing
  · rw [hpasses, lastAnswer_concat]
    rfl

end Misjudged

open Misjudged in
/-- `device_login` polls on after a 404, and `ciba_await` waits 10 seconds after a `slow_down` sent as a 429 with
`Retry-After: 120`. -/
theorem not_grants_keep_schedule :
    (¬ ∀ (C : PollClient Unit) (interval expiresIn : ℤ) (receivedAt clock : ℚ) (exchanges : List (ℕ → Exchange)),
      Run.Along (fnStep (deviceLoop C).step)
        (Grant.start (PollSchedule.new interval expiresIn receivedAt) clock) exchanges
        (Lawful C.platform (receivedAt + expiresIn) (statedInterval interval) (deviceAnswer C))) ∧
    ¬ ∀ (C : PollClient Unit) (interval expiresIn : ℤ) (receivedAt clock : ℚ) (exchanges : List (ℕ → Exchange)),
      Run.Along (fnStep (cibaLoop C).step)
        (Grant.start (CibaSchedule.new interval expiresIn receivedAt) clock) exchanges
        (Lawful C.platform (receivedAt + expiresIn) (statedInterval interval) (cibaAnswer C)) := by
  constructor
  · intro hall
    have hconforms := ((deviceSchedules client).lawful_iff (statedInterval_nonneg 5) rfl rfl rfl 0 _).1
      (hall client 5 600 0 0 [always notFound])
    obtain ⟨hwaits, hsteps⟩ := device_goes
    have hfirst := hconforms [] (always notFound) [] deviceStart _ rfl (Run.nil _)
      (Option.some_get hsteps).symm _ _ (Option.some_get hwaits).symm
    exact hfirst.2 misreads_notFound
  · intro hall
    have hconforms := ((cibaSchedules client).lawful_iff (statedInterval_nonneg 5) rfl rfl rfl 0 _).1
      (hall client 5 600 0 0 [always slowDown, always slowDown])
    obtain ⟨hinterval, -, hwaits, hsteps, hseconds⟩ := limited_goes
    have hsecond := hconforms [always slowDown] (always slowDown) [] limited _ rfl
      (Run.single limited_step) (Option.some_get hsteps).symm _ _ (Option.some_get hwaits).symm
    have hheeded : (Outcome.response slowDown).retryAfter.getD 0 ≤ ((limited.schedule.interval : ℤ) : ℚ) :=
      hsecond.1 _ limited_answer forgets_slowDown
    rw [hseconds, hinterval] at hheeded
    norm_num at hheeded

end AxiamSdk.Polling
