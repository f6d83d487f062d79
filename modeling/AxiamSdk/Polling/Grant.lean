import Mathlib.Tactic.Linarith
import AxiamSdk.Lib.Runs
import AxiamSdk.Polling.Answers

/-! # A polling grant (`_retry.py` and the loops of `_client.py`)

* `retrySync`: the attempts of one poll, on a clock that a sleep of `w` seconds moves by `w`.
* `GrantLoop`: a loop that waits, polls and reads the answer; `step` is one pass of it.
* `Lawful`: what the passes so far must be; `Schedules`: what makes a loop obey it, and
  `lawful_iff`: exactly when it does. -/

namespace AxiamSdk.Polling
open PyLib
set_option autoImplicit false

/-! ## Retries -/

/-- `MAX_ATTEMPTS` -/
def maxAttempts : ℕ := 3

/-- `BASE_DELAY_MS` -/
def baseDelayMs : ℚ := 200

/-- `MAX_DELAY_MS` -/
def maxDelayMs : ℚ := 5000

/-- `MAX_RETRY_AFTER_MS` -/
def maxRetryAfterMs : ℚ := 3600000

/-- `backoff_ms` -/
def backoffMs (attempt : ℕ) : ℚ := min maxDelayMs (baseDelayMs * 2 ^ (attempt - 1))

/-- `delay_ms` -/
def delayMs (attempt : ℕ) (retryAfterMs : Option ℚ) (fraction : ℚ) : ℚ :=
  let jittered := backoffMs attempt * min (max fraction 0) 1
  match retryAfterMs with
  | none => jittered
  | some ms => max jittered ms

/-- `_retry_after_of` -/
def retryAfterOf (e : PollError) : Option ℚ := e.retryAfterMs.map (fun ms : ℚ≥0 => min (ms : ℚ) maxRetryAfterMs)

/-- One request, the time until its answer is read, and the jitter drawn if it is retried. -/
structure Exchange where
  outcome : Outcome
  took : ℚ≥0
  jitter : ℚ

/-- What a poll does: it sends a request, or it sleeps. -/
inductive Act
  | send (instant : ℚ)
  | sleep (start seconds : ℚ)

/-- A poll: the clock after it, what it did, the answers it retried after, the last answer and the result. -/
structure Tried (α : Type) where
  clock : ℚ
  acts : List Act
  retried : List Outcome
  answer : Outcome
  result : Except PollError α

/-- The attempts from `attempt` on, `left` of them after this one. `remaining` reads the clock. -/
def retryFrom {α : Type} (op : Outcome → Except PollError α) (remaining : ℚ → ℚ) (exchange : ℕ → Exchange) :
    ℕ → ℕ → ℚ → Tried α
  | 0, attempt, now =>
    ⟨now + (exchange attempt).took, [.send now], [], (exchange attempt).outcome, op (exchange attempt).outcome⟩
  | left + 1, attempt, now =>
    let x := exchange attempt
    let answered := now + x.took
    match op x.outcome with
    | .ok v => ⟨answered, [.send now], [], x.outcome, .ok v⟩
    | .error e =>
      let wait := delayMs attempt (retryAfterOf e) x.jitter / 1000
      if e.raised.isNetworkError = false ∨ remaining answered ≤ wait then
        ⟨answered, [.send now], [], x.outcome, .error e⟩
      else
        let rest := retryFrom op remaining exchange left (attempt + 1) (answered + wait)
        ⟨rest.clock, .send now :: .sleep answered wait :: rest.acts, x.outcome :: rest.retried, rest.answer,
          rest.result⟩

/-- `retry_sync`, with a deadline -/
def retrySync {α : Type} (enabled : Bool) (op : Outcome → Except PollError α) (remaining : ℚ → ℚ)
    (exchange : ℕ → Exchange) (now : ℚ) : Tried α :=
  retryFrom op remaining exchange ((if enabled then maxAttempts else 1) - 1) 1 now

/-- It happens before the deadline. -/
def Act.Before (deadline : ℚ) : Act → Prop
  | .send instant => instant < deadline
  | .sleep start seconds => start + seconds < deadline

/-- **The retries of one poll**: nothing happens at or after the deadline, what is retried is a
`NetworkError`, and the result is what `op` makes of the last answer. -/
theorem retryFrom_spec {α : Type} {op : Outcome → Except PollError α} {remaining : ℚ → ℚ} {deadline : ℚ}
    (hremaining : ∀ now, remaining now ≤ deadline - now) (exchange : ℕ → Exchange) (left attempt : ℕ)
    {now : ℚ} (hnow : now < deadline) :
    let t := retryFrom op remaining exchange left attempt now
    (∀ a ∈ t.acts, a.Before deadline) ∧
      (∀ x ∈ t.retried, ∃ e, op x = .error e ∧ e.raised.isNetworkError = true) ∧ t.result = op t.answer := by
  induction left generalizing attempt now with
  | zero =>
    refine ⟨fun a ha => ?_, fun x hx => absurd hx List.not_mem_nil, rfl⟩
    obtain rfl := List.mem_singleton.1 ha
    exact hnow
  | succ left ih =>
    have hsend : ∀ a ∈ [Act.send now], a.Before deadline := by
      intro a ha
      obtain rfl := List.mem_singleton.1 ha
      exact hnow
    rw [retryFrom]
    dsimp only
    cases hop : op (exchange attempt).outcome with
    | ok v => exact ⟨hsend, fun x hx => absurd hx List.not_mem_nil, hop.symm⟩
    | error e =>
      dsimp only
      split
      · exact ⟨hsend, fun x hx => absurd hx List.not_mem_nil, hop.symm⟩
      next hretry =>
        rw [not_or, not_le, Bool.not_eq_false] at hretry
        obtain ⟨hnetwork, hwait⟩ := hretry
        have hslept := lt_of_lt_of_le hwait (hremaining _)
        have hnext : now + (exchange attempt).took + delayMs attempt (retryAfterOf e)
            (exchange attempt).jitter / 1000 < deadline := by linarith
        obtain ⟨hacts, hretried, hresult⟩ := ih (attempt + 1) hnext
        refine ⟨fun a ha => ?_, fun x hx => ?_, hresult⟩
        · rcases List.mem_cons.1 ha with rfl | ha
          · exact hnow
          rcases List.mem_cons.1 ha with rfl | ha
          · exact hnext
          · exact hacts a ha
        · rcases List.mem_cons.1 hx with rfl | hx
          · exact ⟨e, hop, hnetwork⟩
          · exact hretried x hx

theorem retrySync_spec {α : Type} (enabled : Bool) (op : Outcome → Except PollError α) (remaining : ℚ → ℚ)
    {deadline : ℚ} (hremaining : ∀ now, remaining now ≤ deadline - now) (exchange : ℕ → Exchange) {now : ℚ}
    (hnow : now < deadline) :
    (∀ a ∈ (retrySync enabled op remaining exchange now).acts, a.Before deadline) ∧
      (∀ x ∈ (retrySync enabled op remaining exchange now).retried,
        ∃ e, op x = .error e ∧ e.raised.isNetworkError = true) ∧
      (retrySync enabled op remaining exchange now).result =
        op (retrySync enabled op remaining exchange now).answer :=
  retryFrom_spec hremaining exchange _ 1 hnow

/-! ## The loop -/

/-- A loop around a poll: `tick` is the wait before the next poll, or nothing once the grant has expired;
`after` reads the failure of a poll, and goes on or gives up. -/
structure GrantLoop (σ τ : Type) where
  tick : σ → ℚ → Option (ℚ × σ)
  poll : σ → (ℕ → Exchange) → ℚ → Tried τ
  after : σ → PollError → Option σ
  expired : PollError

/-- One pass: the wait, the poll, its last answer and its result. -/
structure Pass (τ : Type) where
  start : ℚ
  wait : ℚ
  poll : Tried τ

/-- How a grant ends: by the deadline, or as a poll did. -/
inductive Ending (τ : Type)
  | expired (e : PollError)
  | finished (result : Except PollError τ)

/-- A grant on its way, with the passes so far. -/
structure Grant (σ τ : Type) where
  schedule : σ
  clock : ℚ
  passes : List (Pass τ)
  ending : Option (Ending τ)

section Loop
variable {σ τ : Type}

/-- The grant before its first pass. -/
def Grant.start (schedule : σ) (clock : ℚ) : Grant σ τ := ⟨schedule, clock, [], none⟩

/-- One pass of the loop, with the exchanges that its poll would have. -/
def GrantLoop.step (L : GrantLoop σ τ) (g : Grant σ τ) (exchange : ℕ → Exchange) : Option (Grant σ τ) :=
  if g.ending.isSome then none
  else
    match L.tick g.schedule g.clock with
    | none => some { g with ending := some (.expired L.expired) }
    | some (wait, schedule) =>
      let poll := L.poll schedule exchange (g.clock + wait)
      let passes := g.passes ++ [⟨g.clock, wait, poll⟩]
      match poll.result with
      | .ok tokens => some ⟨schedule, poll.clock, passes, some (.finished (.ok tokens))⟩
      | .error e =>
        match L.after schedule e with
        | none => some ⟨schedule, poll.clock, passes, some (.finished (.error e))⟩
        | some schedule => some ⟨schedule, poll.clock, passes, none⟩

/-! ## The law -/

/-- The answer of the last pass. -/
def lastAnswer (passes : List (Pass τ)) : Option Outcome := passes.getLast?.map (fun p => p.poll.answer)

/-- The `Retry-After` of the last failure, in seconds. -/
def lastRetryAfter (passes : List (Pass τ)) : ℚ := ((lastAnswer passes).bind Outcome.retryAfter).getD 0

/-- The passes so far that were answered with `slow_down`. -/
def slowDowns (P : Platform) (passes : List (Pass τ)) : ℕ :=
  passes.countP (fun p => p.poll.answer.refuses P (lit "slow_down"))

/-- The passes so far whose answer names `slow_down`, at whatever status. -/
def namedSlowDowns (P : Platform) (passes : List (Pass τ)) : ℕ :=
  passes.countP (fun p => decide (p.poll.answer.oauthError P = some (lit "slow_down")))

/-- **The law of a polling grant.** Every wait, request and retry is over before the deadline; a wait is at
least the interval with 5 seconds for every `slow_down` and at least the `Retry-After` of the last failure,
and no earlier one lengthens it; and after an answer that does not say to go on the grant ends, as that answer says. -/
structure Lawful (P : Platform) (deadline interval : ℚ) (read : Outcome → Except PollError τ)
    (g : Grant σ τ) : Prop where
  inTime : ∀ p ∈ g.passes, p.start + p.wait < deadline ∧ ∀ a ∈ p.poll.acts, a.Before deadline
  waits : ∀ pre p post, g.passes = pre ++ p :: post →
    interval + 5 * slowDowns P pre ≤ p.wait ∧ lastRetryAfter pre ≤ p.wait ∧
      p.wait ≤ max (interval + 5 * namedSlowDowns P pre) (lastRetryAfter pre)
  goesOn : ∀ pre p post, g.passes = pre ++ p :: post →
    p.poll.result = read p.poll.answer ∧ (∀ x ∈ p.poll.retried, x.again P = true) ∧
      (p.poll.answer.again P = true ∨ post = [] ∧ g.ending = some (.finished p.poll.result))

/-! ## Loops that keep it -/

/-- What a loop makes of its schedule. `misread` are the answers after which it goes on against the law,
`unheeded` those whose `Retry-After` it forgets. -/
structure Schedules (P : Platform) (L : GrantLoop σ τ) (read : Outcome → Except PollError τ)
    (misread unheeded : Outcome → Prop) where
  deadline : σ → ℚ
  interval : σ → ℚ
  floor : σ → ℚ
  tick : ∀ {s now wait s'}, L.tick s now = some (wait, s') → wait = max (interval s) (floor s) ∧
    now + wait < deadline s ∧ deadline s' = deadline s ∧ interval s' = interval s ∧ floor s' = 0
  poll : ∀ s exchange {now}, now < deadline s →
    (∀ a ∈ (L.poll s exchange now).acts, a.Before (deadline s)) ∧
    (∀ x ∈ (L.poll s exchange now).retried, x.again P = true) ∧
    (L.poll s exchange now).result = read (L.poll s exchange now).answer
  returns : ∀ {x v}, read x = .ok v → ¬ misread x
  givesUp : ∀ {s x e}, read x = .error e → L.after s e = none → ¬ misread x
  goesOn : ∀ {s s' x e}, read x = .error e → L.after s e = some s' → floor s = 0 →
    (x.again P = true ∨ misread x) ∧ deadline s' = deadline s ∧
    interval s + (if x.refuses P (lit "slow_down") then 5 else 0) ≤ interval s' ∧
    interval s' ≤ interval s + (if x.oauthError P = some (lit "slow_down") then 5 else 0) ∧
    (unheeded x ∧ floor s' = 0 ∨ ¬ unheeded x ∧ floor s' = x.retryAfter.getD 0)
  misread_not_again : ∀ {x}, misread x → x.again P = false

/-- A pass in which the law is kept: if the loop waits, the last answer's `Retry-After` is not forgotten, or is no longer
than the interval; and the answer to the poll is not misread. -/
def Schedules.Conforms {P : Platform} {L : GrantLoop σ τ} {read : Outcome → Except PollError τ}
    {misread unheeded : Outcome → Prop} (S : Schedules P L read misread unheeded) (g : Grant σ τ)
    (exchange : ℕ → Exchange) : Prop :=
  ∀ wait s, L.tick g.schedule g.clock = some (wait, s) →
    (∀ x, lastAnswer g.passes = some x → unheeded x → x.retryAfter.getD 0 ≤ S.interval g.schedule) ∧
    ¬ misread (L.poll s exchange (g.clock + wait)).answer

/-- What a failed poll makes of the schedule, when the loop goes on. -/
structure Heeds (P : Platform) (x : Outcome) (unheeded : Prop) (interval interval' floor' : ℚ) : Prop where
  lower : interval + (if x.refuses P (lit "slow_down") then 5 else 0) ≤ interval'
  upper : interval' ≤ interval + (if x.oauthError P = some (lit "slow_down") then 5 else 0)
  floor : unheeded ∧ floor' = 0 ∨ ¬ unheeded ∧ floor' = x.retryAfter.getD 0

theorem Heeds.keep {P : Platform} {x : Outcome} {unheeded : Prop} {floor' : ℚ} (interval : ℚ)
    (hslow : x.refuses P (lit "slow_down") = false)
    (hfloor : unheeded ∧ floor' = 0 ∨ ¬ unheeded ∧ floor' = x.retryAfter.getD 0) :
    Heeds P x unheeded interval interval floor' := by
  refine ⟨?_, ?_, hfloor⟩
  · rw [hslow]
    simp
  · split <;> simp

theorem Heeds.raise {P : Platform} {x : Outcome} {unheeded : Prop} {floor' : ℚ} (interval : ℚ)
    (hnames : x.oauthError P = some (lit "slow_down"))
    (hfloor : unheeded ∧ floor' = 0 ∨ ¬ unheeded ∧ floor' = x.retryAfter.getD 0) :
    Heeds P x unheeded interval (interval + 5) floor' := by
  refine ⟨?_, ?_, hfloor⟩
  · split <;> simp
  · rw [if_pos hnames]

/-! ### A pass -/

theorem step_cases {L : GrantLoop σ τ} {g u : Grant σ τ} {exchange : ℕ → Exchange}
    (h : L.step g exchange = some u) : g.ending = none ∧
      (L.tick g.schedule g.clock = none ∧ u = { g with ending := some (.expired L.expired) } ∨
      ∃ wait s, L.tick g.schedule g.clock = some (wait, s) ∧
        ∃ p : Pass τ, p = ⟨g.clock, wait, L.poll s exchange (g.clock + wait)⟩ ∧
          u.passes = g.passes ++ [p] ∧
          ((∃ v, p.poll.result = .ok v ∧ u.ending = some (.finished p.poll.result)) ∨
            (∃ e, p.poll.result = .error e ∧ L.after s e = none ∧
              u.ending = some (.finished p.poll.result)) ∨
            ∃ e s', p.poll.result = .error e ∧ L.after s e = some s' ∧ u.schedule = s' ∧ u.ending = none)) := by
  unfold GrantLoop.step at h
  cases hend : g.ending with
  | some ending => simp [hend] at h
  | none =>
    refine ⟨rfl, ?_⟩
    rw [hend] at h
    cases htick : L.tick g.schedule g.clock with
    | none =>
      rw [htick] at h
      exact Or.inl ⟨rfl, (Option.some.inj h).symm⟩
    | some ws =>
      obtain ⟨wait, s⟩ := ws
      rw [htick] at h
      dsimp only [Option.isSome_none, Bool.false_eq_true, if_false] at h
      refine Or.inr ⟨wait, s, rfl, _, rfl, ?_⟩
      cases hresult : (L.poll s exchange (g.clock + wait)).result with
      | ok v =>
        rw [hresult] at h
        obtain rfl := Option.some.inj h
        exact ⟨rfl, Or.inl ⟨v, rfl, rfl⟩⟩
      | error e =>
        rw [hresult] at h
        dsimp only at h
        cases hafter : L.after s e with
        | none =>
          rw [hafter] at h
          obtain rfl := Option.some.inj h
          exact ⟨rfl, Or.inr (Or.inl ⟨e, rfl, hafter, rfl⟩)⟩
        | some s' =>
          rw [hafter] at h
          obtain rfl := Option.some.inj h
          exact ⟨rfl, Or.inr (Or.inr ⟨e, s', rfl, hafter, rfl, rfl⟩)⟩

theorem split_concat {α : Type} {l pre post : List α} {p q : α} (h : l ++ [q] = pre ++ p :: post) :
    (pre = l ∧ p = q ∧ post = []) ∨ ∃ post', post = post' ++ [q] ∧ l = pre ++ p :: post' := by
  rcases List.eq_nil_or_concat post with rfl | ⟨post', r, rfl⟩
  · obtain ⟨rfl, hpq⟩ := List.append_inj' h rfl
    exact Or.inl ⟨rfl, by simpa using hpq.symm, rfl⟩
  · have h' : l ++ [q] = (pre ++ p :: post') ++ [r] := by
      rw [h, List.concat_eq_append, List.append_assoc, List.cons_append]
    obtain ⟨rfl, hqr⟩ := List.append_inj' h' rfl
    obtain rfl : q = r := by simpa using hqr
    exact Or.inr ⟨post', List.concat_eq_append, rfl⟩

theorem lastAnswer_concat (passes : List (Pass τ)) (p : Pass τ) :
    lastAnswer (passes ++ [p]) = some p.poll.answer := by
  simp [lastAnswer]

/-! ### What the schedule knows -/

section Law
variable {P : Platform} {L : GrantLoop σ τ} {read : Outcome → Except PollError τ}
  {misread unheeded : Outcome → Prop} (S : Schedules P L read misread unheeded) {deadline interval : ℚ}

/-- The schedule of a grant that goes on, against its passes. -/
structure Schedules.Tracks (deadline interval : ℚ) (g : Grant σ τ) : Prop where
  deadline_eq : S.deadline g.schedule = deadline
  lower : interval + 5 * slowDowns P g.passes ≤ S.interval g.schedule
  upper : S.interval g.schedule ≤ interval + 5 * namedSlowDowns P g.passes
  floor : (∃ x, lastAnswer g.passes = some x ∧ unheeded x) ∧ S.floor g.schedule = 0 ∨
    (∀ x, lastAnswer g.passes = some x → ¬ unheeded x) ∧ S.floor g.schedule = lastRetryAfter g.passes

theorem Schedules.tracks_step {g u : Grant σ τ} {exchange : ℕ → Exchange}
    (hg : g.ending = none → S.Tracks deadline interval g) (h : L.step g exchange = some u) :
    u.ending = none → S.Tracks deadline interval u := by
  intro hu
  obtain ⟨hnone, hexpired | ⟨wait, s, htick, p, hp, hpasses, hcase⟩⟩ := step_cases h
  · obtain ⟨-, rfl⟩ := hexpired
    cases hu
  obtain ⟨hdeadline, hlower, hupper, -⟩ := hg hnone
  obtain ⟨-, hbefore, hs, hinterval, hfloor⟩ := S.tick htick
  obtain ⟨v, -, hend⟩ | ⟨e, -, -, hend⟩ | ⟨e, s', hresult, hafter, rfl, -⟩ := hcase
  · rw [hu] at hend
    cases hend
  · rw [hu] at hend
    cases hend
  have hread : read p.poll.answer = .error e := by
    rw [← hs] at hbefore
    rw [← hresult, hp, (S.poll s exchange hbefore).2.2]
  obtain ⟨-, hd, hl, hh, hf⟩ := S.goesOn hread hafter hfloor
  have hslow : slowDowns P u.passes = slowDowns P g.passes +
      if p.poll.answer.refuses P (lit "slow_down") then 1 else 0 := by
    rw [hpasses, slowDowns, List.countP_append, List.countP_singleton]
    rfl
  have hnamed : namedSlowDowns P u.passes = namedSlowDowns P g.passes +
      if p.poll.answer.oauthError P = some (lit "slow_down") then 1 else 0 := by
    rw [hpasses, namedSlowDowns, List.countP_append, List.countP_singleton]
    simp only [decide_eq_true_eq]
    rfl
  have hlast : lastAnswer u.passes = some p.poll.answer := by rw [hpasses, lastAnswer_concat]
  refine ⟨hd.trans (hs.trans hdeadline), ?_, ?_, ?_⟩
  · rw [hslow]
    split
    · next hc =>
      rw [if_pos hc] at hl
      push_cast
      linarith
    · next hc =>
      rw [if_neg hc] at hl
      rw [Nat.add_zero]
      linarith
  · rw [hnamed]
    split
    · next hc =>
      rw [if_pos hc] at hh
      push_cast
      linarith
    · next hc =>
      rw [if_neg hc] at hh
      rw [Nat.add_zero]
      linarith
  · rw [lastRetryAfter, hlast]
    obtain ⟨hun, hzero⟩ | ⟨hun, hra⟩ := hf
    · exact Or.inl ⟨⟨_, rfl, hun⟩, hzero⟩
    · refine Or.inr ⟨fun x hx => ?_, hra⟩
      obtain rfl := Option.some.inj hx
      exact hun

theorem Schedules.Tracks.interval_nonneg {S : Schedules P L read misread unheeded} {g : Grant σ τ}
    (ht : S.Tracks deadline interval g) (hpos : 0 ≤ interval) : 0 ≤ S.interval g.schedule := by
  have hcount : (0 : ℚ) ≤ slowDowns P g.passes := Nat.cast_nonneg _
  have hlower := ht.lower
  linarith

/-- The next wait, if no `Retry-After` longer than the interval was forgotten. -/
theorem Schedules.Tracks.wait {S : Schedules P L read misread unheeded} {g : Grant σ τ}
    (ht : S.Tracks deadline interval g) (hpos : 0 ≤ interval) (hheeded : ∀ x, lastAnswer g.passes = some x →
      unheeded x → x.retryAfter.getD 0 ≤ S.interval g.schedule) :
    interval + 5 * slowDowns P g.passes ≤ max (S.interval g.schedule) (S.floor g.schedule) ∧
      lastRetryAfter g.passes ≤ max (S.interval g.schedule) (S.floor g.schedule) ∧
      max (S.interval g.schedule) (S.floor g.schedule) ≤
        max (interval + 5 * namedSlowDowns P g.passes) (lastRetryAfter g.passes) := by
  refine ⟨ht.lower.trans (le_max_left _ _), ?_, ?_⟩
  · obtain ⟨⟨x, hx, hun⟩, -⟩ | ⟨-, hfloor⟩ := ht.floor
    · have hle := hheeded x hx hun
      rw [lastRetryAfter, hx]
      exact hle.trans (le_max_left _ _)
    · rw [← hfloor]
      exact le_max_right _ _
  · apply max_le (ht.upper.trans (le_max_left _ _))
    obtain ⟨-, hfloor⟩ | ⟨-, hfloor⟩ := ht.floor
    · rw [hfloor]
      exact (ht.interval_nonneg hpos).trans (ht.upper.trans (le_max_left _ _))
    · rw [hfloor]
      exact le_max_right _ _

/-- **One pass** keeps the law exactly if it conforms. -/
theorem Schedules.lawful_step (hpos : 0 ≤ interval) {g u : Grant σ τ} {exchange : ℕ → Exchange}
    (hg : g.ending = none → S.Tracks deadline interval g) (hlaw : Lawful P deadline interval read g)
    (h : L.step g exchange = some u) : Lawful P deadline interval read u ↔ S.Conforms g exchange := by
  obtain ⟨hnone, ⟨htick, rfl⟩ | ⟨wait, s, htick, p, hp, hpasses, hcase⟩⟩ := step_cases h
  · have hconforms : S.Conforms g exchange := by
      intro wait s hsome
      rw [htick] at hsome
      cases hsome
    refine ⟨fun _ => hconforms, fun _ => ⟨hlaw.inTime, hlaw.waits, fun pre p post hsplit => ?_⟩⟩
    obtain ⟨hresult, hretried, hagain | ⟨-, hend⟩⟩ := hlaw.goesOn pre p post hsplit
    · exact ⟨hresult, hretried, Or.inl hagain⟩
    · rw [hnone] at hend
      cases hend
  have ht := hg hnone
  have hdeadline := ht.deadline_eq
  obtain ⟨hwait, hbefore, hs, hinterval, hzero⟩ := S.tick htick
  rw [hdeadline] at hbefore hs
  have hpoll := S.poll s exchange (show g.clock + wait < S.deadline s by rw [hs]; exact hbefore)
  rw [hs] at hpoll
  obtain ⟨hacts, hretried, hresult⟩ := hpoll
  have hp_poll : p.poll = L.poll s exchange (g.clock + wait) := by rw [hp]
  have hread : p.poll.result = read p.poll.answer := by rw [hp_poll, hresult]
  have hconforms : S.Conforms g exchange ↔
      (∀ x, lastAnswer g.passes = some x → unheeded x →
        x.retryAfter.getD 0 ≤ S.interval g.schedule) ∧ ¬ misread p.poll.answer := by
    rw [hp_poll]
    refine ⟨fun hc => hc wait s htick, fun hc wait' s' htick' => ?_⟩
    rw [htick] at htick'
    cases htick'
    exact hc
  rw [hconforms]
  constructor
  · intro hu
    refine ⟨fun x hx hun => ?_, fun hmis => ?_⟩
    · obtain ⟨-, hafter, -⟩ := hu.waits g.passes p [] hpasses
      have hforgot : S.floor g.schedule = 0 := by
        obtain ⟨-, hf⟩ | ⟨hno, -⟩ := ht.floor
        · exact hf
        · exact absurd hun (hno x hx)
      rw [lastRetryAfter, hx, hp] at hafter
      rw [hwait, hforgot, max_eq_left (ht.interval_nonneg hpos)] at hafter
      exact hafter
    · obtain ⟨-, -, hagain | ⟨-, hend⟩⟩ := hu.goesOn g.passes p [] hpasses
      · rw [S.misread_not_again hmis] at hagain
        cases hagain
      · obtain ⟨v, hv, -⟩ | ⟨e, he, hnext, -⟩ | ⟨e, s', -, -, -, hgoing⟩ := hcase
        · exact S.returns (hread.symm.trans hv) hmis
        · exact S.givesUp (hread.symm.trans he) hnext hmis
        · rw [hgoing] at hend
          cases hend
  · rintro ⟨hheeded, hread'⟩
    refine ⟨?_, ?_, ?_⟩
    · rw [hpasses, List.forall_mem_append, List.forall_mem_singleton]
      refine ⟨hlaw.inTime, ?_, ?_⟩
      · rw [hp]
        exact hbefore
      · rw [hp_poll]
        exact hacts
    · intro pre q post hsplit
      rw [hpasses] at hsplit
      obtain ⟨rfl, rfl, -⟩ | ⟨post', -, hsplit'⟩ := split_concat hsplit
      · rw [hp]
        show _ ≤ wait ∧ _ ≤ wait ∧ wait ≤ _
        rw [hwait]
        exact ht.wait hpos hheeded
      · exact hlaw.waits pre q post' hsplit'
    · intro pre q post hsplit
      rw [hpasses] at hsplit
      obtain ⟨rfl, rfl, rfl⟩ | ⟨post', -, hsplit'⟩ := split_concat hsplit
      · refine ⟨hread, by rw [hp_poll]; exact hretried, ?_⟩
        obtain ⟨v, -, hend⟩ | ⟨e, -, -, hend⟩ | ⟨e, s', he, hnext, -, -⟩ := hcase
        · exact Or.inr ⟨rfl, hend⟩
        · exact Or.inr ⟨rfl, hend⟩
        · obtain ⟨hagain | hmis, -⟩ := S.goesOn (hread.symm.trans he) hnext hzero
          · exact Or.inl hagain
          · exact absurd hmis hread'
      · obtain ⟨hresult', hretried', hagain | ⟨-, hend⟩⟩ := hlaw.goesOn pre q post' hsplit'
        · exact ⟨hresult', hretried', Or.inl hagain⟩
        · rw [hnone] at hend
          cases hend

/-- **The law holds of every state of a run exactly if every pass conforms.** -/
theorem Schedules.lawful_iff (hpos : 0 ≤ interval) {schedule : σ} (hdeadline : S.deadline schedule = deadline)
    (hinterval : S.interval schedule = interval) (hfloor : S.floor schedule = 0) (clock : ℚ)
    (exchanges : List (ℕ → Exchange)) :
    Run.Along (fnStep L.step) (Grant.start schedule clock) exchanges (Lawful P deadline interval read) ↔
      Run.Always (fnStep L.step) (Grant.start schedule clock) exchanges S.Conforms := by
  refine Run.along_iff_always (I := fun g => g.ending = none → S.Tracks deadline interval g) ?_ ?_ ?_ ?_
  · intro _
    refine ⟨hdeadline, ?_, ?_, ?_⟩
    · simp [Grant.start, slowDowns, hinterval]
    · simp [Grant.start, namedSlowDowns, hinterval]
    · refine Or.inr ⟨fun x hx => ?_, ?_⟩
      · simp [Grant.start, lastAnswer] at hx
      · simp [Grant.start, lastRetryAfter, lastAnswer, hfloor]
  · refine ⟨?_, ?_, ?_⟩
    · intro p hp
      exact absurd hp List.not_mem_nil
    · intro pre p post hsplit
      simp [Grant.start] at hsplit
    · intro pre p post hsplit
      simp [Grant.start] at hsplit
  · exact fun _ _ _ hg hstep => S.tracks_step hg hstep
  · exact fun _ _ _ hg hlaw hstep => S.lawful_step hpos hg hlaw hstep

end Law

end Loop

end AxiamSdk.Polling
