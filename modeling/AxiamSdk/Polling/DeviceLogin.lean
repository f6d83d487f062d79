import AxiamSdk.Polling.Grant

/-! # The device login (`_client.py`, `_oidc.py`)

* `PollSchedule`, `deviceLoop`: the loop of `device_login`.
* `DeviceMisreads`, `DeviceForgets`: the answers it misjudges.
* `deviceSchedules`: apart from those, it keeps its schedule. -/

namespace AxiamSdk.Polling
open PyLib
set_option autoImplicit false

variable {τ : Type}

/-! ## `device_login` -/

/-- `DEFAULT_POLL_INTERVAL_SECONDS` -/
def defaultPollIntervalSeconds : ℤ := 5

/-- `SLOW_DOWN_INCREMENT_SECONDS` -/
def slowDownIncrementSeconds : ℤ := 5

/-- `PollSchedule`, with a clock -/
structure PollSchedule where
  interval : ℤ
  left : ℚ
  deadline : ℚ
  floor : ℚ
  wait : ℚ

namespace PollSchedule

/-- `PollSchedule(interval_seconds, expires_in_seconds, clock)` -/
def new (intervalSeconds expiresInSeconds : ℤ) (now : ℚ) : PollSchedule :=
  let interval := if 0 < intervalSeconds then intervalSeconds else defaultPollIntervalSeconds
  ⟨interval, expiresInSeconds, now + expiresInSeconds, 0, interval⟩

/-- `remaining` -/
def remaining (s : PollSchedule) (now : ℚ) : ℚ := min s.left (s.deadline - now)

/-- `rate_limited` -/
def rateLimited (s : PollSchedule) (retryAfterSeconds : Option ℚ) : PollSchedule :=
  { s with floor := max (retryAfterSeconds.getD 0) 0 }

/-- `slow_down` -/
def slowDown (s : PollSchedule) : PollSchedule := { s with interval := s.interval + slowDownIncrementSeconds }

/-- `tick` -/
def tick (s : PollSchedule) (now : ℚ) : Bool × PollSchedule :=
  let wait := max (s.interval : ℚ) s.floor
  if s.remaining now ≤ wait then (false, { s with floor := 0, left := 0 })
  else (true, { s with floor := 0, left := s.remaining now - wait, wait := wait })

end PollSchedule

/-- `_device_expired_error` -/
def deviceExpiredError : PollError :=
  .of (.oauthProtocolError (lit "expired_token")
    (lit "the device authorization expired before the user completed it " ++
      lit "(client-side deadline from expires_in; CONTRACT.md §14.2 rule 4)"))

/-- `_device_poll` -/
def devicePoll (C : PollClient τ) (remaining : ℚ → ℚ) (exchange : ℕ → Exchange) (now : ℚ) : Tried τ :=
  let t := retrySync C.retryEnabled (deviceAttempt C.platform) remaining exchange now
  let result := match t.result with
    | .error e => .error e
    | .ok r => handleDevicePollResponse C r
  ⟨t.clock, t.acts, t.retried, t.answer, result⟩

/-- What the loop of `device_login` does with a failed poll. -/
def deviceAfter (s : PollSchedule) (e : PollError) : Option PollSchedule :=
  match devicePollOutcome e with
  | .pending => some s
  | .retry =>
    match e.seconds with
    | none => some s
    | some seconds => some (s.rateLimited (some seconds))
  | .slowDown => some s.slowDown
  | .rateLimited => some (s.rateLimited e.seconds)
  | .terminal => none

/-- The loop of `device_login` -/
def deviceLoop (C : PollClient τ) : GrantLoop PollSchedule τ where
  tick s now :=
    match s.tick now with
    | (false, _) => none
    | (true, s) => some (s.wait, s)
  poll s := devicePoll C s.remaining
  after := deviceAfter
  expired := deviceExpiredError

/-! ## The answers it misjudges -/

/-- `device_login` polls again after a refusal other than 408, 429 and 5xx that names `rate_limit_exceeded`, and
after any other status than 200, 401, 403 and 409 without an OAuth error, which becomes a `NetworkError`. -/
def DeviceMisreads (P : Platform) (x : Outcome) : Prop :=
  ∃ r, x = .response r ∧ statusIsRetryable r.status = false ∧ r.status ≠ 200 ∧
    (x.oauthError P = some (lit "rate_limit_exceeded") ∨
      x.bare P = true ∧ ¬ (r.status = 401 ∨ r.status = 403 ∨ r.status = 409))

/-- It forgets the `Retry-After` of a 408 whose body names an OAuth error. -/
def DeviceForgets (P : Platform) (x : Outcome) : Prop :=
  ∃ r, x = .response r ∧ r.status = 408 ∧ ∃ code ∈ goesOnCodes, x.oauthError P = some code

theorem DeviceMisreads.not_again {P : Platform} {x : Outcome} (h : DeviceMisreads P x) : x.again P = false := by
  obtain ⟨r, rfl, hr, -, hcode | ⟨hbare, -⟩⟩ := h
  · exact again_eq_false hr (Or.inl hcode)
  · exact again_eq_false hr (Or.inr (oauthError_of_bare hbare))

/-! ### How an answer is read -/

theorem rateLimitExceeded_cases {P : Platform} {r : Response} (h429 : r.status = 429) :
    (∃ e, rateLimitExceeded P r = .error e ∧ Decisive e) ∨
      ∃ e, rateLimitExceeded P r = .ok e ∧ errorCode e.raised = some (lit "rate_limit_exceeded") ∧
        e.seconds = (Outcome.response r).retryAfter := by
  have hretryable : statusIsRetryable r.status = true := by rw [h429]; rfl
  unfold rateLimitExceeded
  cases hmapped : errorFromOauth2Response P (lit "token request failed") r with
  | error e => exact Or.inl ⟨e, rfl, errorFromOauth2Response_error hmapped⟩
  | ok mapped =>
    obtain hraise | ⟨ms, hms, hseconds⟩ := retryAfterMsOf_cases r
    · rw [hraise]
      exact Or.inl ⟨_, rfl, rfl, rfl⟩
    · rw [hms]
      exact Or.inr ⟨_, rfl, rfl, hseconds hretryable⟩

/-- A failed device poll: an exception that ends it, a `NetworkError`, the `rate_limit_exceeded` of a 429, or the
OAuth error that the body names. -/
theorem deviceAnswer_error {C : PollClient τ} {x : Outcome} {e : PollError} (h : deviceAnswer C x = .error e) :
    Decisive e.raised ∧ ¬ DeviceMisreads C.platform x ∨
    e.raised.isNetworkError = true ∧ errorCode e.raised = none ∧ e.seconds = x.retryAfter ∧
      (x.transient = true ∨ DeviceMisreads C.platform x) ∧ ¬ DeviceForgets C.platform x ∨
    errorCode e.raised = some (lit "rate_limit_exceeded") ∧ e.seconds = x.retryAfter ∧
      x.transient = true ∧ ¬ DeviceForgets C.platform x ∨
    ∃ r code, x = .response r ∧ errorCode e.raised = some code ∧ x.oauthError C.platform = some code ∧
      e.seconds = none ∧ r.status ≠ 200 ∧ r.status ≠ 429 ∧ r.status < 500 := by
  cases x with
  | transport name text =>
    cases h
    refine Or.inr (Or.inl ⟨rfl, rfl, rfl, Or.inl rfl, ?_⟩)
    rintro ⟨r, hr, -⟩
    cases hr
  | response r =>
    have hle := r.status_le
    have hretryable : statusIsRetryable r.status = true ↔
        r.status = 408 ∨ r.status = 429 ∨ 500 ≤ r.status := by
      rw [statusIsRetryable, decide_eq_true_eq]
      omega
    have hmis : statusIsRetryable r.status = true → ¬ DeviceMisreads C.platform (.response r) := by
      rintro hr ⟨r', heq, hno, -⟩
      cases heq
      rw [hr] at hno
      cases hno
    have hforgets : r.status ≠ 408 → ¬ DeviceForgets C.platform (.response r) := by
      rintro hne ⟨r', heq, h408, -⟩
      cases heq
      exact hne h408
    rw [deviceAnswer, deviceAttempt] at h
    by_cases h500 : 500 ≤ r.status
    · have hr := hretryable.2 (Or.inr (Or.inr h500))
      rw [if_pos h500] at h
      obtain rfl := Except.error.inj h
      obtain ⟨e, he, hdec, -⟩ | ⟨e, he, hdec, -⟩ | ⟨e, he, hnet, hcode, -, hsec, -⟩ :=
        errorFromHttpStatus_cases C.platform (lit "token request failed") r
      · rw [he]
        exact Or.inl ⟨hdec, hmis hr⟩
      · rw [he]
        exact Or.inl ⟨hdec, hmis hr⟩
      · rw [he]
        exact Or.inr (Or.inl ⟨hnet, hcode, hsec, Or.inl hr, hforgets (by omega)⟩)
    rw [if_neg h500] at h
    dsimp only [handleDevicePollResponse] at h
    rw [if_neg h500] at h
    by_cases h429 : r.status = 429
    · have hr := hretryable.2 (Or.inr (Or.inl h429))
      rw [if_pos h429] at h
      obtain rfl := Except.error.inj h
      obtain ⟨e, he, hdec⟩ | ⟨e, he, hcode, hsec⟩ := rateLimitExceeded_cases h429
      · rw [he]
        exact Or.inl ⟨hdec, hmis hr⟩
      · rw [he]
        exact Or.inr (Or.inr (Or.inl ⟨hcode, hsec, hr, hforgets (by omega)⟩))
    rw [if_neg h429, handleTokenResponse] at h
    by_cases h200 : r.status = 200
    · have hok : ¬ DeviceMisreads C.platform (.response r) := by
        rintro ⟨r', heq, -, hne, -⟩
        cases heq
        exact hne h200
      rw [if_neg (not_not.2 h200)] at h
      cases hjson : r.json C.platform with
      | error e' =>
        rw [hjson] at h
        obtain rfl := Except.error.inj h
        exact Or.inl ⟨decisive_of_loads hjson, hok⟩
      | ok wire =>
        rw [hjson] at h
        dsimp only at h
        cases hbuild : C.buildTokenSet wire with
        | error e' =>
          rw [hbuild] at h
          obtain rfl := Except.error.inj h
          exact Or.inl ⟨C.decisive wire e' hbuild, hok⟩
        | ok v =>
          rw [hbuild] at h
          cases h
    rw [if_pos h200] at h
    obtain rfl := Except.error.inj h
    obtain ⟨hbare, hnone, heq⟩ | ⟨hbare, ⟨e, heq, hdec, hwhy⟩ | ⟨error, description, ms, heq, hcode, hms⟩⟩ :=
      errorFromOauth2Response_cases C.platform (lit "token request failed") r
    · rw [heq]
      have hmisread : DeviceMisreads C.platform (.response r) →
          ¬ (r.status = 401 ∨ r.status = 403 ∨ r.status = 409) := by
        rintro ⟨r', heq', -, -, hcode | ⟨-, hno⟩⟩
        · rw [hnone] at hcode
          cases hcode
        · cases heq'
          exact hno
      obtain ⟨e, he, hdec, hwhy⟩ | ⟨e, he, hdec, hstatus⟩ | ⟨e, he, hnet, hcode, -, hsec, hno⟩ :=
        errorFromHttpStatus_cases C.platform (lit "token request failed") r
      · rw [he]
        refine Or.inl ⟨hdec, fun hm => ?_⟩
        obtain hr | h403 := hwhy
        · exact hmis hr hm
        · exact hmisread hm (Or.inr (Or.inl h403))
      · rw [he]
        exact Or.inl ⟨hdec, fun hm => hmisread hm hstatus⟩
      · rw [he]
        refine Or.inr (Or.inl ⟨hnet, hcode, hsec, ?_, ?_⟩)
        · cases hr : statusIsRetryable r.status with
          | true => exact Or.inl hr
          | false => exact Or.inr ⟨r, rfl, hr, h200, Or.inr ⟨hbare, hno⟩⟩
        · rintro ⟨r', heq', -, code, -, hcode'⟩
          rw [hnone] at hcode'
          cases hcode'
    · rw [heq]
      refine Or.inl ⟨hdec, ?_⟩
      rintro ⟨r', heq', -, -, hcode | ⟨hb, -⟩⟩
      · obtain hnone | h429' := hwhy
        · rw [hnone] at hcode
          cases hcode
        · exact h429 h429'
      · rw [hbare] at hb
        cases hb
    · rw [heq]
      refine Or.inr (Or.inr (Or.inr ⟨r, error, rfl, rfl, hcode, ?_, h200, h429, by omega⟩))
      rw [if_neg h429] at hms
      exact hms

theorem deviceAnswer_ok {C : PollClient τ} {x : Outcome} {v : τ} (h : deviceAnswer C x = .ok v) :
    ¬ DeviceMisreads C.platform x := by
  rintro ⟨r, rfl, hr, h200, -⟩
  have hlt : ¬ 500 ≤ r.status := by
    intro hge
    have hle := r.status_le
    rw [statusIsRetryable, decide_eq_false_iff_not] at hr
    omega
  have h429 : r.status ≠ 429 := by
    rintro heq
    rw [heq] at hr
    cases hr
  rw [deviceAnswer, deviceAttempt, if_neg hlt] at h
  dsimp only [handleDevicePollResponse] at h
  rw [if_neg hlt, if_neg h429, handleTokenResponse, if_pos h200] at h
  cases h

theorem deviceAttempt_retried {P : Platform} {x : Outcome} {e : PollError} (h : deviceAttempt P x = .error e) :
    x.transient = true := by
  cases x with
  | transport name text => rfl
  | response r =>
    have hle := r.status_le
    rw [deviceAttempt] at h
    split at h
    · rw [Outcome.transient, statusIsRetryable, decide_eq_true_eq]
      omega
    · cases h

/-! ### What the loop makes of it -/

theorem devicePollOutcome_code {e : PollError} {code : PyStr} (h : errorCode e.raised = some code) :
    devicePollOutcome e =
      if code = lit "authorization_pending" then .pending
      else if code = lit "slow_down" then .slowDown
      else if code = lit "rate_limit_exceeded" then .rateLimited
      else .terminal := by
  rw [devicePollOutcome, h]

theorem devicePollOutcome_decisive {e : PollError} (h : Decisive e.raised) : devicePollOutcome e = .terminal := by
  rw [devicePollOutcome, h.2, h.1]
  rfl

theorem devicePollOutcome_network {e : PollError} (hnet : e.raised.isNetworkError = true)
    (hcode : errorCode e.raised = none) : devicePollOutcome e = .retry := by
  rw [devicePollOutcome, hcode, hnet]
  rfl

theorem rateLimited_floor (s : PollSchedule) (e : PollError) :
    (s.rateLimited e.seconds).floor = e.seconds.getD 0 := by
  cases h : e.seconds with
  | none => exact max_self 0
  | some seconds => exact max_eq_left (seconds_nonneg e seconds h)

theorem deviceAfter_retry {s : PollSchedule} {e : PollError} (h : devicePollOutcome e = .retry)
    (hfloor : s.floor = 0) : deviceAfter s e = some { s with floor := e.seconds.getD 0 } := by
  have hra := rateLimited_floor s e
  rw [deviceAfter, h]
  cases hs : e.seconds with
  | none =>
    rw [Option.getD_none, ← hfloor]
  | some seconds =>
    rw [hs] at hra
    rw [← hra]
    rfl

theorem deviceAfter_rateLimited {s : PollSchedule} {e : PollError} (h : devicePollOutcome e = .rateLimited) :
    deviceAfter s e = some { s with floor := e.seconds.getD 0 } := by
  rw [deviceAfter, h, ← rateLimited_floor s e]
  rfl

/-- The floor after a refusal that names an OAuth error: none, and if it was a 408 its `Retry-After` is forgotten. -/
theorem deviceForgets_or {P : Platform} {r : Response} {code : PyStr} (h429 : r.status ≠ 429)
    (hlt : r.status < 500) (hnames : (Outcome.response r).oauthError P = some code)
    (hmem : code ∈ goesOnCodes) : DeviceForgets P (.response r) ∧ (0 : ℚ) = 0 ∨
      ¬ DeviceForgets P (.response r) ∧ 0 = ((Outcome.response r).retryAfter).getD 0 := by
  by_cases h408 : r.status = 408
  · exact Or.inl ⟨⟨r, rfl, h408, code, hmem, hnames⟩, rfl⟩
  · have hr : statusIsRetryable r.status = false := by
      rw [statusIsRetryable, decide_eq_false_iff_not]
      omega
    refine Or.inr ⟨?_, by rw [retryAfter_of_not_retryable hr]; rfl⟩
    rintro ⟨r', heq, h408', -⟩
    cases heq
    exact h408 h408'

theorem deviceAfter_some {C : PollClient τ} {x : Outcome} {e : PollError} {s s' : PollSchedule}
    (hx : deviceAnswer C x = .error e) (h : deviceAfter s e = some s') (hfloor : s.floor = 0) :
    (x.again C.platform = true ∨ DeviceMisreads C.platform x) ∧ s'.deadline = s.deadline ∧
      Heeds C.platform x (DeviceForgets C.platform x) s.interval s'.interval s'.floor := by
  obtain ⟨hdec, -⟩ | ⟨hnet, hcode, hsec, hwhy, hno⟩ | ⟨hcode, hsec, htr, hno⟩ |
    ⟨r, code, rfl, hcode, hnames, hsec, h200, h429, hlt⟩ := deviceAnswer_error hx
  · rw [deviceAfter, devicePollOutcome_decisive hdec] at h
    cases h
  · have hslow : x.refuses C.platform (lit "slow_down") = false := by
      obtain htr | hmis := hwhy
      · exact refuses_of_transient htr _
      · exact not_slow_of_not_again hmis.not_again
    rw [deviceAfter_retry (devicePollOutcome_network hnet hcode) hfloor] at h
    obtain rfl := Option.some.inj h
    exact ⟨hwhy.imp_left again_of_transient, rfl, .keep _ hslow (Or.inr ⟨hno, by rw [hsec]⟩)⟩
  · have hlimited : devicePollOutcome e = .rateLimited := devicePollOutcome_code hcode
    rw [deviceAfter_rateLimited hlimited] at h
    obtain rfl := Option.some.inj h
    exact ⟨Or.inl (again_of_transient htr), rfl,
      .keep _ (refuses_of_transient htr _) (Or.inr ⟨hno, by rw [hsec]⟩)⟩
  · have hout := devicePollOutcome_code hcode
    have hmem : code ∈ goesOnCodes := by
      by_contra hmem
      simp only [goesOnCodes, List.mem_cons, List.not_mem_nil, or_false, not_or] at hmem
      rw [if_neg hmem.1, if_neg hmem.2.1, if_neg hmem.2.2] at hout
      rw [deviceAfter, hout] at h
      cases h
    have hforgotten := deviceForgets_or h429 hlt hnames hmem
    have hagain : (Outcome.response r).again C.platform = true ∨ DeviceMisreads C.platform (.response r) := by
      obtain hagain | ⟨hr, rfl⟩ := again_of_code h200 hnames hmem
      · exact Or.inl hagain
      · exact Or.inr ⟨r, rfl, hr, h200, Or.inl hnames⟩
    simp only [goesOnCodes, List.mem_cons, List.not_mem_nil, or_false] at hmem
    obtain rfl | rfl | rfl := hmem
    · rw [deviceAfter, hout] at h
      obtain rfl := Option.some.inj h
      refine ⟨hagain, rfl, .keep _ (refuses_eq_false hnames (by decide)) ?_⟩
      rw [hfloor]
      exact hforgotten
    · rw [deviceAfter, hout] at h
      obtain rfl := Option.some.inj h
      have hinterval : ((s.slowDown).interval : ℚ) = s.interval + 5 := by
        simp [PollSchedule.slowDown, slowDownIncrementSeconds]
      refine ⟨hagain, rfl, ?_⟩
      rw [hinterval]
      refine .raise _ hnames ?_
      show _ ∧ s.floor = 0 ∨ _ ∧ s.floor = _
      rw [hfloor]
      exact hforgotten
    · rw [deviceAfter_rateLimited hout, hsec] at h
      obtain rfl := Option.some.inj h
      exact ⟨hagain, rfl, .keep _ (refuses_eq_false hnames (by decide)) hforgotten⟩

theorem deviceAfter_none {C : PollClient τ} {x : Outcome} {e : PollError} {s : PollSchedule}
    (hx : deviceAnswer C x = .error e) (h : deviceAfter s e = none) : ¬ DeviceMisreads C.platform x := by
  obtain ⟨-, hno⟩ | ⟨hnet, hcode, -⟩ | ⟨hcode, -⟩ | ⟨r, code, rfl, hcode, hnames, -, -⟩ := deviceAnswer_error hx
  · exact hno
  · rw [deviceAfter, devicePollOutcome_network hnet hcode] at h
    dsimp only at h
    split at h <;> cases h
  · have hlimited : devicePollOutcome e = .rateLimited := devicePollOutcome_code hcode
    rw [deviceAfter_rateLimited hlimited] at h
    cases h
  · rintro ⟨r', -, -, -, hrate | ⟨hbare, -⟩⟩
    · rw [hnames] at hrate
      obtain rfl := Option.some.inj hrate
      have hlimited : devicePollOutcome e = .rateLimited := devicePollOutcome_code hcode
      rw [deviceAfter_rateLimited hlimited] at h
      cases h
    · rw [oauthError_of_bare hbare] at hnames
      cases hnames

/-! ## The schedule -/

/-- `device_login` keeps its schedule, apart from the answers it misreads and the `Retry-After` it forgets. -/
def deviceSchedules (C : PollClient τ) : Schedules C.platform (deviceLoop C) (deviceAnswer C)
    (DeviceMisreads C.platform) (DeviceForgets C.platform) where
  deadline s := s.deadline
  interval s := s.interval
  floor s := s.floor
  tick {s now wait s'} h := by
    simp only [deviceLoop, PollSchedule.tick] at h
    split at h
    · cases h
    next htick =>
      split at htick
      · cases htick
      next hleft =>
        obtain ⟨-, rfl⟩ := Prod.mk.inj htick
        obtain ⟨rfl, rfl⟩ := Prod.mk.inj (Option.some.inj h)
        have hbefore : s.remaining now ≤ s.deadline - now := min_le_right _ _
        have hwait := lt_of_lt_of_le (not_le.1 hleft) hbefore
        refine ⟨rfl, ?_, rfl, rfl, rfl⟩
        show now + max (s.interval : ℚ) s.floor < s.deadline
        linarith
  poll s exchange now hnow := by
    obtain ⟨hacts, hretried, hresult⟩ := retrySync_spec C.retryEnabled (deviceAttempt C.platform)
      s.remaining (fun now => min_le_right _ _) exchange hnow
    refine ⟨hacts, fun x hx => ?_, ?_⟩
    · obtain ⟨e, he, -⟩ := hretried x hx
      exact again_of_transient (deviceAttempt_retried he)
    · simp only [deviceLoop, devicePoll]
      rw [hresult]
      unfold deviceAnswer
      cases deviceAttempt C.platform (retrySync C.retryEnabled (deviceAttempt C.platform) s.remaining exchange
        now).answer <;> rfl
  returns := deviceAnswer_ok
  givesUp := deviceAfter_none
  goesOn hx h hfloor := by
    obtain ⟨hagain, hdeadline, hheeds⟩ := deviceAfter_some hx h hfloor
    exact ⟨hagain, hdeadline, hheeds.lower, hheeds.upper, hheeds.floor⟩
  misread_not_again h := h.not_again

end AxiamSdk.Polling
