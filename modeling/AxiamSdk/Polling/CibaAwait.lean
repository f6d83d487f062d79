import AxiamSdk.Polling.Grant

/-! # The CIBA wait (`_client.py`, `_ciba.py`)

* `CibaSchedule`, `cibaLoop`: the loop of `ciba_await`, with its inline arithmetic.
* `CibaMisreads`, `CibaForgets`: the answers it misjudges.
* `cibaSchedules`: apart from those, it keeps its schedule. -/

namespace AxiamSdk.Polling
open PyLib
set_option autoImplicit false

variable {τ : Type}

/-! ## `ciba_await` -/

/-- `DEFAULT_CIBA_INTERVAL_SECONDS` -/
def defaultCibaIntervalSeconds : ℤ := 5

/-- `CIBA_SLOW_DOWN_INCREMENT_SECONDS` -/
def cibaSlowDownIncrementSeconds : ℤ := 5

/-- The `deadline`, `interval` and `floor` of `ciba_await`. -/
structure CibaSchedule where
  deadline : ℚ
  interval : ℤ
  floor : ℚ

/-- The schedule of an `initiated` request. -/
def CibaSchedule.new (interval expiresIn : ℤ) (receivedAt : ℚ) : CibaSchedule :=
  ⟨receivedAt + expiresIn, if 0 < interval then interval else defaultCibaIntervalSeconds, 0⟩

/-- `local_expiry` -/
def localExpiry : PollError :=
  .of (.oauthProtocolError (lit "expired_token")
    (lit "the CIBA request expired before it was decided (client-side deadline from " ++
      lit "expires_in; CONTRACT.md §33.7 rule 4)"))

/-- `_ciba_poll` -/
def cibaPoll (C : PollClient τ) (remaining : ℚ → ℚ) (exchange : ℕ → Exchange) (now : ℚ) : Tried τ :=
  let t := retrySync C.retryEnabled (cibaAttempt C) remaining exchange now
  let result := match t.result with
    | .error e => .error e
    | .ok outcome => outcome
  ⟨t.clock, t.acts, t.retried, t.answer, result⟩

/-- What the loop of `ciba_await` does with a failed poll. -/
def cibaAfter (s : CibaSchedule) (e : PollError) : Option CibaSchedule :=
  match pollStep e with
  | .slowDown => some { s with interval := s.interval + cibaSlowDownIncrementSeconds }
  | .terminal => none
  | _ =>
    match e.seconds with
    | none => some s
    | some seconds => some { s with floor := seconds }

/-- The loop of `ciba_await` -/
def cibaLoop (C : PollClient τ) : GrantLoop CibaSchedule τ where
  tick s now :=
    let wait := max (s.interval : ℚ) s.floor
    if s.deadline ≤ now + wait then none else some (wait, { s with floor := 0 })
  poll s := cibaPoll C (fun now => s.deadline - now)
  after := cibaAfter
  expired := localExpiry

/-! ## The answers it misjudges -/

/-- `ciba_await` polls again after a refusal other than 408, 429 and 5xx that names `rate_limit_exceeded`. -/
def CibaMisreads (P : Platform) (x : Outcome) : Prop :=
  ∃ r, x = .response r ∧ statusIsRetryable r.status = false ∧ ¬ (200 ≤ r.status ∧ r.status ≤ 299) ∧
    x.oauthError P = some (lit "rate_limit_exceeded")

/-- It forgets the `Retry-After` of a 408 whose body names an OAuth error, and of a 429 whose body names
`slow_down`. -/
def CibaForgets (P : Platform) (x : Outcome) : Prop :=
  ∃ r, x = .response r ∧ (r.status = 408 ∧ (∃ code ∈ goesOnCodes, x.oauthError P = some code) ∨
    r.status = 429 ∧ x.oauthError P = some (lit "slow_down"))

theorem CibaMisreads.not_again {P : Platform} {x : Outcome} (h : CibaMisreads P x) : x.again P = false := by
  obtain ⟨r, rfl, hr, -, hcode⟩ := h
  exact again_eq_false hr (Or.inl hcode)

/-! ### How an answer is read -/

theorem pollStep_code {e : PollError} {code : PyStr} (h : errorCode e.raised = some code) :
    pollStep e =
      if code = lit "authorization_pending" then .pending
      else if code = lit "slow_down" then .slowDown
      else if code = lit "rate_limit_exceeded" then .transient
      else .terminal := by
  rw [pollStep, h]

theorem pollStep_decisive {e : PollError} (h : Decisive e.raised) : pollStep e = .terminal := by
  rw [pollStep, h.2, h.1]
  rfl

theorem pollStep_network {e : PollError} (hnet : e.raised.isNetworkError = true)
    (hcode : errorCode e.raised = none) : pollStep e = if e.terminal then .terminal else .transient := by
  rw [pollStep, hcode, hnet]
  cases e.terminal <;> rfl

theorem typedPollError_decisive {e : PollError} (h : Decisive e.raised) : typedPollError e = e := by
  obtain ⟨raised, ms, terminal⟩ := e
  cases raised <;> first | rfl | cases h.2

theorem typedPollError_network {e : PollError} (h : e.raised.isNetworkError = true) : typedPollError e = e := by
  obtain ⟨raised, ms, terminal⟩ := e
  cases raised <;> first | rfl | cases h

/-- The subtypes keep the code; the others keep the `Retry-After` as well. -/
theorem typedPollError_oauth (error description : PyStr) (ms : Option ℚ≥0) :
    errorCode (typedPollError ⟨.oauthProtocolError error description, ms, false⟩).raised = some error ∧
      (error ∈ goesOnCodes → typedPollError ⟨.oauthProtocolError error description, ms, false⟩ =
        ⟨.oauthProtocolError error description, ms, false⟩) := by
  unfold typedPollError
  dsimp only
  split
  · next h =>
    refine ⟨rfl, fun hmem => absurd hmem ?_⟩
    obtain rfl | rfl := h <;> decide
  · exact ⟨rfl, fun _ => rfl⟩

theorem cibaPollError_error {P : Platform} {r : Response} {e : Exc} (h : cibaPollError P r = .error e) :
    Decisive e := by
  unfold cibaPollError at h
  split at h
  · exact errorFromHttpStatus_error h
  · unfold cibaError at h
    cases hmapped : errorFromOauth2Response P
        (lit "ciba_poll" ++ lit " failed with HTTP " ++ JsonDumps.decDigits r.status) r with
    | ok e' =>
      rw [hmapped] at h
      cases h
    | error e' =>
      rw [hmapped] at h
      obtain rfl := Except.error.inj h
      exact errorFromOauth2Response_error hmapped

/-- A failed CIBA poll: an exception that ends it, a `NetworkError` that may be retried, or the OAuth error that the
body names. -/
theorem cibaAnswer_error {C : PollClient τ} {x : Outcome} {e : PollError} (h : cibaAnswer C x = .error e) :
    pollStep e = .terminal ∧ ¬ CibaMisreads C.platform x ∨
    pollStep e = .transient ∧ e.seconds = x.retryAfter ∧ x.transient = true ∧ ¬ CibaForgets C.platform x ∨
    ∃ r code, x = .response r ∧ errorCode e.raised = some code ∧ x.oauthError C.platform = some code ∧
      (code ∈ goesOnCodes → e.seconds = if r.status = 429 then x.retryAfter else none) ∧
      ¬ (200 ≤ r.status ∧ r.status ≤ 299) ∧ r.status < 500 := by
  cases x with
  | transport name text =>
    cases h
    refine Or.inr (Or.inl ⟨rfl, rfl, rfl, ?_⟩)
    rintro ⟨r, hr, -⟩
    cases hr
  | response r =>
    have hle := r.status_le
    rw [cibaAnswer, cibaAttempt] at h
    by_cases hsuccess : 200 ≤ r.status ∧ r.status ≤ 299
    · have hok : ¬ CibaMisreads C.platform (.response r) := by
        rintro ⟨r', heq, -, hne, -⟩
        cases heq
        exact hne hsuccess
      rw [if_pos hsuccess] at h
      cases hjson : r.json C.platform with
      | error e' =>
        rw [hjson] at h
        dsimp only at h
        by_cases hvalue : e'.isValueError = true
        · rw [if_pos hvalue] at h
          obtain rfl := Except.error.inj h
          exact Or.inl ⟨rfl, hok⟩
        · rw [if_neg hvalue] at h
          obtain rfl := Except.error.inj h
          exact Or.inl ⟨pollStep_decisive (decisive_of_loads hjson), hok⟩
      | ok wire =>
        rw [hjson] at h
        dsimp only at h
        cases hbuild : C.buildTokenSet wire with
        | error e' =>
          rw [hbuild] at h
          obtain rfl := Except.error.inj h
          exact Or.inl ⟨pollStep_decisive (C.decisive wire e' hbuild), hok⟩
        | ok v =>
          rw [hbuild] at h
          cases h
    rw [if_neg hsuccess] at h
    have hmis : statusIsRetryable r.status = true → ¬ CibaMisreads C.platform (.response r) := by
      rintro hr ⟨r', heq, hno, -⟩
      cases heq
      rw [hr] at hno
      cases hno
    have hunnamed : (Outcome.response r).oauthError C.platform = none →
        ¬ CibaMisreads C.platform (.response r) := by
      rintro hnone ⟨r', -, -, -, hcode⟩
      rw [hnone] at hcode
      cases hcode
    by_cases h500 : 500 ≤ r.status ∧ r.status ≤ 599
    · have hr : statusIsRetryable r.status = true := by
        rw [statusIsRetryable, decide_eq_true_eq]
        exact Or.inr (Or.inr h500)
      rw [cibaPollError, if_pos h500] at h
      obtain ⟨e', he, hdec, -⟩ | ⟨e', -, -, hstatus⟩ | ⟨e', he, hnet, hcode, hterm, hsec, -⟩ :=
        errorFromHttpStatus_cases C.platform
          (lit "ciba_poll failed with HTTP " ++ JsonDumps.decDigits r.status) r
      · rw [he] at h
        obtain rfl := Except.error.inj h
        exact Or.inl ⟨pollStep_decisive hdec, hmis hr⟩
      · omega
      · rw [he] at h
        dsimp only at h
        rw [hnet, hr] at h
        obtain rfl := Except.error.inj h
        have hstep : pollStep e' = .transient := by
          rw [pollStep_network hnet hcode, hterm]
          rfl
        refine Or.inr (Or.inl ⟨hstep, hsec, hr, ?_⟩)
        rintro ⟨r', heq, ⟨h408, -⟩ | ⟨h429, -⟩⟩
        · cases heq
          omega
        · cases heq
          omega
    rw [cibaPollError, if_neg h500, cibaError] at h
    obtain ⟨-, hnone, heq⟩ | ⟨-, ⟨e', heq, hdec, hwhy⟩ | ⟨error, description, ms, heq, hcode, hms⟩⟩ :=
      errorFromOauth2Response_cases C.platform
        (lit "ciba_poll" ++ lit " failed with HTTP " ++ JsonDumps.decDigits r.status) r
    · rw [heq] at h
      obtain ⟨e', he, hdec, -⟩ | ⟨e', he, hdec, -⟩ | ⟨e', he, hnet, hcode, hterm, hsec, -⟩ :=
        errorFromHttpStatus_cases C.platform
          (lit "ciba_poll" ++ lit " failed with HTTP " ++ JsonDumps.decDigits r.status) r
      · rw [he] at h
        obtain rfl := Except.error.inj h
        exact Or.inl ⟨pollStep_decisive hdec, hunnamed hnone⟩
      · rw [he, Except.map, typedPollError_decisive hdec] at h
        dsimp only at h
        rw [hdec.1] at h
        obtain rfl := Except.error.inj h
        have hstep : pollStep (markTerminal e') = .terminal := pollStep_decisive hdec
        exact Or.inl ⟨hstep, hunnamed hnone⟩
      · rw [he, Except.map, typedPollError_network hnet] at h
        dsimp only at h
        rw [hnet] at h
        cases hr : statusIsRetryable r.status with
        | true =>
          rw [hr] at h
          obtain rfl := Except.error.inj h
          have hstep : pollStep e' = .transient := by
            rw [pollStep_network hnet hcode, hterm]
            rfl
          refine Or.inr (Or.inl ⟨hstep, hsec, hr, ?_⟩)
          rintro ⟨r', -, ⟨-, code, -, hcode'⟩ | ⟨-, hcode'⟩⟩
          · rw [hnone] at hcode'
            cases hcode'
          · rw [hnone] at hcode'
            cases hcode'
        | false =>
          rw [hr] at h
          obtain rfl := Except.error.inj h
          have hstep : pollStep (markTerminal e') = .terminal := pollStep_network hnet hcode
          exact Or.inl ⟨hstep, hunnamed hnone⟩
    · rw [heq] at h
      obtain rfl := Except.error.inj h
      refine Or.inl ⟨pollStep_decisive hdec, ?_⟩
      obtain hnone | h429 := hwhy
      · exact hunnamed hnone
      · apply hmis
        rw [h429]
        rfl
    · obtain ⟨htyped, hkept⟩ := typedPollError_oauth error description ms
      rw [heq, Except.map] at h
      dsimp only at h
      have hnet : (typedPollError ⟨.oauthProtocolError error description, ms, false⟩).raised.isNetworkError =
          false := by
        unfold typedPollError
        dsimp only
        split <;> rfl
      rw [hnet] at h
      obtain rfl := Except.error.inj h
      refine Or.inr (Or.inr ⟨r, error, rfl, htyped, hcode, fun hmem => ?_, hsuccess, by omega⟩)
      rw [hkept hmem]
      exact hms

theorem cibaAnswer_ok {C : PollClient τ} {x : Outcome} {v : τ} (h : cibaAnswer C x = .ok v) :
    ¬ CibaMisreads C.platform x := by
  rintro ⟨r, rfl, hr, hsuccess, -⟩
  rw [cibaAnswer, cibaAttempt, if_neg hsuccess] at h
  cases hraise : cibaPollError C.platform r with
  | error e =>
    rw [hraise] at h
    cases h
  | ok e =>
    rw [hraise, hr] at h
    dsimp only at h
    rw [Bool.and_false] at h
    cases h

/-- A CIBA poll retries a `NetworkError` that may be retried. -/
theorem cibaAttempt_retried {C : PollClient τ} {x : Outcome} {e : PollError} (h : cibaAttempt C x = .error e)
    (hnet : e.raised.isNetworkError = true) : x.transient = true := by
  have hdecisive : ∀ {e'}, Decisive e' → (Except.error (PollError.of e') : Except PollError (Except PollError τ)) =
      .error e → False := by
    intro e' hdec heq
    obtain rfl := Except.error.inj heq
    rw [PollError.of, hdec.1] at hnet
    cases hnet
  cases x with
  | transport name text => rfl
  | response r =>
    rw [cibaAttempt] at h
    split at h
    · split at h
      · next e' hjson =>
        split at h
        · cases h
        · exact (hdecisive (decisive_of_loads hjson) h).elim
      · next wire _ =>
        split at h
        · next e' hbuild => exact (hdecisive (C.decisive wire e' hbuild) h).elim
        · cases h
    · split at h
      · next e' hraise => exact (hdecisive (cibaPollError_error hraise) h).elim
      · split at h
        · next hretry => exact (Bool.and_eq_true_iff.1 hretry).2
        · cases h

/-! ### What the loop makes of it -/

theorem cibaAfter_floor {s : CibaSchedule} {e : PollError} (h : pollStep e = .pending ∨ pollStep e = .transient)
    (hfloor : s.floor = 0) : cibaAfter s e = some { s with floor := e.seconds.getD 0 } := by
  have hfloor' : (match e.seconds with
      | none => some s
      | some seconds => some { s with floor := seconds }) = some { s with floor := e.seconds.getD 0 } := by
    cases e.seconds with
    | none => rw [Option.getD_none, ← hfloor]
    | some seconds => rfl
  unfold cibaAfter
  obtain h | h := h
  · rw [h]
    exact hfloor'
  · rw [h]
    exact hfloor'

/-- The floor after a refusal that names an OAuth error other than `slow_down`: the `Retry-After` of a 429 only. -/
theorem cibaForgets_or {P : Platform} {r : Response} {code : PyStr} (hlt : r.status < 500)
    (hnames : (Outcome.response r).oauthError P = some code) (hmem : code ∈ goesOnCodes)
    (seconds : Option ℚ) (hsec : seconds = if code = lit "slow_down" then none
      else if r.status = 429 then (Outcome.response r).retryAfter else none) :
    CibaForgets P (.response r) ∧ seconds.getD 0 = 0 ∨
      ¬ CibaForgets P (.response r) ∧ seconds.getD 0 = ((Outcome.response r).retryAfter).getD 0 := by
  rw [hsec]
  by_cases h408 : r.status = 408
  · refine Or.inl ⟨⟨r, rfl, Or.inl ⟨h408, code, hmem, hnames⟩⟩, ?_⟩
    rw [if_neg (show r.status ≠ 429 by omega)]
    split <;> rfl
  by_cases h429 : r.status = 429
  · by_cases hslow : code = lit "slow_down"
    · refine Or.inl ⟨⟨r, rfl, Or.inr ⟨h429, by rw [hnames, hslow]⟩⟩, ?_⟩
      rw [if_pos hslow]
      rfl
    · refine Or.inr ⟨?_, by rw [if_neg hslow, if_pos h429]⟩
      rintro ⟨r', heq, ⟨h408', -⟩ | ⟨-, hslow'⟩⟩
      · cases heq
        exact h408 h408'
      · rw [hnames] at hslow'
        exact hslow (Option.some.inj hslow')
  · have hr : statusIsRetryable r.status = false := by
      rw [statusIsRetryable, decide_eq_false_iff_not]
      omega
    refine Or.inr ⟨?_, ?_⟩
    · rintro ⟨r', heq, ⟨h408', -⟩ | ⟨h429', -⟩⟩
      · cases heq
        exact h408 h408'
      · cases heq
        exact h429 h429'
    · rw [retryAfter_of_not_retryable hr, if_neg h429]
      split <;> rfl

theorem cibaAfter_some {C : PollClient τ} {x : Outcome} {e : PollError} {s s' : CibaSchedule}
    (hx : cibaAnswer C x = .error e) (h : cibaAfter s e = some s') (hfloor : s.floor = 0) :
    (x.again C.platform = true ∨ CibaMisreads C.platform x) ∧ s'.deadline = s.deadline ∧
      Heeds C.platform x (CibaForgets C.platform x) s.interval s'.interval s'.floor := by
  obtain ⟨hterm, -⟩ | ⟨hstep, hsec, htr, hno⟩ | ⟨r, code, rfl, hcode, hnames, hsec, hsuccess, hlt⟩ :=
    cibaAnswer_error hx
  · rw [cibaAfter, hterm] at h
    cases h
  · rw [cibaAfter_floor (Or.inr hstep) hfloor] at h
    obtain rfl := Option.some.inj h
    exact ⟨Or.inl (again_of_transient htr), rfl,
      .keep _ (refuses_of_transient htr _) (Or.inr ⟨hno, by rw [hsec]⟩)⟩
  · have hout := pollStep_code hcode
    have h200 : r.status ≠ 200 := by omega
    have hmem : code ∈ goesOnCodes := by
      by_contra hmem
      simp only [goesOnCodes, List.mem_cons, List.not_mem_nil, or_false, not_or] at hmem
      rw [if_neg hmem.1, if_neg hmem.2.1, if_neg hmem.2.2] at hout
      rw [cibaAfter, hout] at h
      cases h
    have hforgotten := cibaForgets_or hlt hnames hmem
    have hagain : (Outcome.response r).again C.platform = true ∨ CibaMisreads C.platform (.response r) := by
      obtain hagain | ⟨hr, rfl⟩ := again_of_code h200 hnames hmem
      · exact Or.inl hagain
      · exact Or.inr ⟨r, rfl, hr, hsuccess, hnames⟩
    replace hsec := hsec hmem
    simp only [goesOnCodes, List.mem_cons, List.not_mem_nil, or_false] at hmem
    obtain rfl | rfl | rfl := hmem
    · rw [cibaAfter_floor (Or.inl hout) hfloor] at h
      obtain rfl := Option.some.inj h
      exact ⟨hagain, rfl, .keep _ (refuses_eq_false hnames (by decide)) (hforgotten _ hsec)⟩
    · rw [cibaAfter, hout] at h
      obtain rfl := Option.some.inj h
      have hinterval : ((s.interval + cibaSlowDownIncrementSeconds : ℤ) : ℚ) = s.interval + 5 := by
        simp [cibaSlowDownIncrementSeconds]
      refine ⟨hagain, rfl, ?_⟩
      show Heeds _ _ _ _ ((s.interval + cibaSlowDownIncrementSeconds : ℤ) : ℚ) s.floor
      rw [hinterval, hfloor]
      exact .raise _ hnames (hforgotten none rfl)
    · rw [cibaAfter_floor (Or.inr hout) hfloor] at h
      obtain rfl := Option.some.inj h
      exact ⟨hagain, rfl, .keep _ (refuses_eq_false hnames (by decide)) (hforgotten _ hsec)⟩

theorem cibaAfter_none {C : PollClient τ} {x : Outcome} {e : PollError} {s : CibaSchedule}
    (hx : cibaAnswer C x = .error e) (h : cibaAfter s e = none) : ¬ CibaMisreads C.platform x := by
  obtain ⟨-, hno⟩ | ⟨hstep, -⟩ | ⟨r, code, rfl, hcode, hnames, -, -⟩ := cibaAnswer_error hx
  · exact hno
  · rw [cibaAfter, hstep] at h
    dsimp only at h
    split at h <;> cases h
  · rintro ⟨r', -, -, -, hrate⟩
    rw [hnames] at hrate
    obtain rfl := Option.some.inj hrate
    have hstep : pollStep e = .transient := pollStep_code hcode
    rw [cibaAfter, hstep] at h
    dsimp only at h
    split at h <;> cases h

/-! ## The schedule -/

/-- So does `ciba_await`. -/
def cibaSchedules (C : PollClient τ) : Schedules C.platform (cibaLoop C) (cibaAnswer C)
    (CibaMisreads C.platform) (CibaForgets C.platform) where
  deadline s := s.deadline
  interval s := s.interval
  floor s := s.floor
  tick {s now wait s'} h := by
    simp only [cibaLoop] at h
    split at h
    · cases h
    next hbefore =>
      obtain ⟨rfl, rfl⟩ := Prod.mk.inj (Option.some.inj h)
      exact ⟨rfl, not_le.1 hbefore, rfl, rfl, rfl⟩
  poll s exchange now hnow := by
    obtain ⟨hacts, hretried, hresult⟩ := retrySync_spec C.retryEnabled (cibaAttempt C)
      (fun now => s.deadline - now) (fun now => le_rfl) exchange hnow
    refine ⟨hacts, fun x hx => ?_, ?_⟩
    · obtain ⟨e, he, hnet⟩ := hretried x hx
      exact again_of_transient (cibaAttempt_retried he hnet)
    · simp only [cibaLoop, cibaPoll]
      rw [hresult]
      unfold cibaAnswer
      cases cibaAttempt C (retrySync C.retryEnabled (cibaAttempt C) (fun now => s.deadline - now) exchange
        now).answer <;> rfl
  returns := cibaAnswer_ok
  givesUp := cibaAfter_none
  goesOn hx h hfloor := by
    obtain ⟨hagain, hdeadline, hheeds⟩ := cibaAfter_some hx h hfloor
    exact ⟨hagain, hdeadline, hheeds.lower, hheeds.upper, hheeds.floor⟩
  misread_not_again h := h.not_again

end AxiamSdk.Polling
