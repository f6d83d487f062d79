import Mathlib.Algebra.Order.Ring.Rat
import Mathlib.Data.NNRat.Defs
import Mathlib.Tactic.NormNum
import AxiamSdk.Errors

/-! # The answers to a poll (`_errors.py`, `_oidc.py`, `_ciba.py`)

What the token endpoint answers to one request of the device grant or of CIBA, and the exception that each
answer becomes. Times are exact rationals.

* `deviceAnswer`, `cibaAnswer`: how one answer is read; `devicePollOutcome`, `pollStep`: what it means.
* `Outcome.Again`: the answers after which a grant goes on. -/

namespace AxiamSdk.Polling
open PyLib
set_option autoImplicit false

/-! ## Responses and exceptions -/

/-- An `httpx.Response`, up to the last status of HTTP. `retryAfterMs` is what `retry_after_ms_of` makes of
its header: the outer `none` is a date out of range, whose `OverflowError` is not caught. -/
structure Response where
  status : ℕ
  status_le : status ≤ 599
  body : Bytes
  retryAfterMs : Option (Option ℚ≥0)

/-- What a request comes to: a response, or an `httpx.TransportError`. -/
inductive Outcome
  | response (r : Response)
  | transport (name text : PyStr)

/-- An exception, with its `retry_after_ms` in place of the one in the class, and the `_TERMINAL` mark. -/
structure PollError where
  raised : Exc
  retryAfterMs : Option ℚ≥0
  terminal : Bool

def PollError.of (e : Exc) : PollError := ⟨e, none, false⟩

/-- `getattr(exc, "error", None)` -/
def errorCode : Exc → Option PyStr
  | .oauthProtocolError error _ => some error
  | _ => none

/-- The exception that leaves `raise f(...)`: the one `f` returns, or the one it raises. -/
def propagated : Except Exc PollError → PollError
  | .ok e => e
  | .error e => .of e

/-- What the client is built with. `buildTokenSet` is `_build_token_set` on a parsed body: it validates the ID
token, and what it raises is no `NetworkError` and has no `error`. -/
structure PollClient (τ : Type) where
  platform : Platform
  retryEnabled : Bool
  buildTokenSet : Json → Except Exc τ
  decisive : ∀ v e, buildTokenSet v = .error e → e.isNetworkError = false ∧ errorCode e = none

variable {τ : Type}

/-- `response.json()` -/
def Response.json (P : Platform) (r : Response) : Except Exc Json := P.loads r.body

/-- `status_is_retryable` -/
def statusIsRetryable (status : ℕ) : Bool :=
  decide (status = 408 ∨ status = 429 ∨ 500 ≤ status ∧ status ≤ 599)

/-- `_oauth2_error_body`, with `description_optional` -/
def oauth2ErrorBody (P : Platform) (r : Response) : Except Exc (Option (PyStr × PyStr)) :=
  match r.json P with
  | .error e => if e.isValueError then .ok none else .error e
  | .ok body =>
    match body.asObj? with
    | none => .ok none
    | some members =>
      match (Json.get members (lit "error")).asStr?, (Json.get members (lit "error_description")).asStr? with
      | some error, some description => .ok (some (error, description))
      | some [], none => .ok none
      | some error, none => .ok (some (error, []))
      | none, _ => .ok none

/-- `retry_after_ms_of` -/
def retryAfterMsOf (r : Response) : Except Exc (Option ℚ≥0) :=
  match r.retryAfterMs with
  | none => .error .overflowError
  | some ms => .ok ms

/-- `error_from_http_status` -/
def errorFromHttpStatus (P : Platform) (message : PyStr) (r : Response) : Except Exc PollError :=
  if r.status = 401 then .ok (.of (.authError message none))
  else if r.status = 403 then
    match r.json P with
    | .ok _ => .ok (.of (.authzError message))
    | .error e => if e.isValueError then .ok (.of (.authzError message)) else .error e
  else if r.status = 409 then .ok (.of (.authzError message))
  else if r.status = 408 ∨ r.status = 429 ∨ 500 ≤ r.status then
    (retryAfterMsOf r).map (fun ms => ⟨.networkError message none, ms, false⟩)
  else .ok (.of (.networkError message none))

/-- `error_from_oauth2_response`, with `description_optional` -/
def errorFromOauth2Response (P : Platform) (message : PyStr) (r : Response) : Except Exc PollError :=
  if 300 ≤ r.status ∧ r.status ≤ 399 then errorFromHttpStatus P message r
  else
    match oauth2ErrorBody P r with
    | .error e => .error e
    | .ok none => errorFromHttpStatus P message r
    | .ok (some (error, description)) =>
      if r.status = 429 then
        (retryAfterMsOf r).map (fun ms => ⟨.oauthProtocolError error description, ms, false⟩)
      else .ok (.of (.oauthProtocolError error description))

/-- `network_error_from_transport` -/
def networkErrorFromTransport (operation name text : PyStr) : PollError :=
  .of (.networkError (operation ++ lit " request failed: " ++ name ++ lit ": " ++ text) none)

/-! ## A device poll -/

/-- `attempt` in `_device_poll` -/
def deviceAttempt (P : Platform) : Outcome → Except PollError Response
  | .transport name text => .error (networkErrorFromTransport (lit "device_poll") name text)
  | .response r =>
    if 500 ≤ r.status then .error (propagated (errorFromHttpStatus P (lit "token request failed") r))
    else .ok r

/-- `_handle_token_response`, without a nonce -/
def handleTokenResponse (C : PollClient τ) (r : Response) : Except PollError τ :=
  if r.status ≠ 200 then
    .error (propagated (errorFromOauth2Response C.platform (lit "token request failed") r))
  else
    match r.json C.platform with
    | .error e => .error (.of e)
    | .ok wire => (C.buildTokenSet wire).mapError .of

/-- The `rate_limit_exceeded` that any 429 becomes. -/
def rateLimitExceeded (P : Platform) (r : Response) : Except Exc PollError :=
  match errorFromOauth2Response P (lit "token request failed") r with
  | .error e => .error e
  | .ok mapped =>
    let description := match mapped.raised with
      | .oauthProtocolError _ (c :: cs) => c :: cs
      | _ => lit "too many requests"
    (retryAfterMsOf r).map
      (fun ms => ⟨.oauthProtocolError (lit "rate_limit_exceeded") description, ms, false⟩)

/-- `_handle_device_poll_response` -/
def handleDevicePollResponse (C : PollClient τ) (r : Response) : Except PollError τ :=
  if 500 ≤ r.status then
    .error (propagated (errorFromHttpStatus C.platform (lit "token request failed") r))
  else if r.status = 429 then .error (propagated (rateLimitExceeded C.platform r))
  else handleTokenResponse C r

inductive DeviceOutcome
  | pending | slowDown | rateLimited | retry | terminal
  deriving DecidableEq, Repr

/-- `_device_poll_outcome` -/
def devicePollOutcome (e : PollError) : DeviceOutcome :=
  match errorCode e.raised with
  | some code =>
    if code = lit "authorization_pending" then .pending
    else if code = lit "slow_down" then .slowDown
    else if code = lit "rate_limit_exceeded" then .rateLimited
    else .terminal
  | none => if e.raised.isNetworkError then .retry else .terminal

/-! ## A CIBA poll -/

/-- `typed_poll_error`: the two subtypes are built anew, without a `retry_after_ms`. -/
def typedPollError (e : PollError) : PollError :=
  match e.raised with
  | .oauthProtocolError error _ =>
    if error = lit "access_denied" ∨ error = lit "expired_token" then .of e.raised else e
  | _ => e

/-- `ciba_error` -/
def cibaError (P : Platform) (operation : PyStr) (r : Response) : Except Exc PollError :=
  (errorFromOauth2Response P
    (operation ++ lit " failed with HTTP " ++ JsonDumps.decDigits r.status) r).map typedPollError

/-- `ciba_poll_error` -/
def cibaPollError (P : Platform) (r : Response) : Except Exc PollError :=
  if 500 ≤ r.status ∧ r.status ≤ 599 then
    errorFromHttpStatus P (lit "ciba_poll failed with HTTP " ++ JsonDumps.decDigits r.status) r
  else cibaError P (lit "ciba_poll") r

/-- `mark_terminal` -/
def markTerminal (e : PollError) : PollError := { e with terminal := true }

/-- `attempt` in `_ciba_poll`: it raises what may be retried and returns what is decisive. -/
def cibaAttempt (C : PollClient τ) : Outcome → Except PollError (Except PollError τ)
  | .transport name text => .error (networkErrorFromTransport (lit "ciba_poll") name text)
  | .response r =>
    if 200 ≤ r.status ∧ r.status ≤ 299 then
      match r.json C.platform with
      | .error e =>
        if e.isValueError then
          .ok (.error (markTerminal (.of (.networkError (lit "ciba_poll: the response is not JSON") none))))
        else .error (.of e)
      | .ok wire =>
        match C.buildTokenSet wire with
        | .error e => .error (.of e)
        | .ok tokens => .ok (.ok tokens)
    else
      match cibaPollError C.platform r with
      | .error e => .error (.of e)
      | .ok error =>
        if error.raised.isNetworkError && statusIsRetryable r.status then .error error
        else .ok (.error (markTerminal error))

inductive CibaStep
  | pending | slowDown | transient | terminal
  deriving DecidableEq, Repr

/-- `poll_step` -/
def pollStep (e : PollError) : CibaStep :=
  match errorCode e.raised with
  | some code =>
    if code = lit "authorization_pending" then .pending
    else if code = lit "slow_down" then .slowDown
    else if code = lit "rate_limit_exceeded" then .transient
    else .terminal
  | none => if e.raised.isNetworkError && !e.terminal then .transient else .terminal

/-! ## What an answer is -/

/-- What a device poll makes of an answer. -/
def deviceAnswer (C : PollClient τ) (x : Outcome) : Except PollError τ :=
  match deviceAttempt C.platform x with
  | .error e => .error e
  | .ok r => handleDevicePollResponse C r

/-- What a CIBA poll makes of an answer. -/
def cibaAnswer (C : PollClient τ) (x : Outcome) : Except PollError τ :=
  match cibaAttempt C x with
  | .error e => .error e
  | .ok outcome => outcome

/-- The OAuth error that an answer's body names. The body of a redirect is not read. -/
def Outcome.oauthError (P : Platform) : Outcome → Option PyStr
  | .transport .. => none
  | .response r =>
    if 300 ≤ r.status ∧ r.status ≤ 399 then none
    else match oauth2ErrorBody P r with
      | .ok (some (error, _)) => some error
      | _ => none

/-- A transport failure, or a 408, a 429 or a 5xx, whatever its body. -/
def Outcome.transient : Outcome → Bool
  | .transport .. => true
  | .response r => statusIsRetryable r.status

def Outcome.isOk : Outcome → Bool
  | .transport .. => false
  | .response r => decide (r.status = 200)

/-- A refusal that names this OAuth error, and is neither transient nor a 200. -/
def Outcome.refuses (P : Platform) (x : Outcome) (error : PyStr) : Bool :=
  decide (x.transient = false ∧ x.isOk = false ∧ x.oauthError P = some error)

/-- The answers after which a grant polls again: `authorization_pending`, `slow_down`, 408, 429, 5xx and a
transport failure. -/
def Outcome.again (P : Platform) (x : Outcome) : Bool :=
  x.transient || x.refuses P (lit "authorization_pending") || x.refuses P (lit "slow_down")

/-- `ms / 1000.0` -/
def secondsOf (ms : ℚ≥0) : ℚ := (ms : ℚ) / 1000

/-- The `Retry-After` of a 408, a 429 or a 5xx, in seconds. -/
def Outcome.retryAfter : Outcome → Option ℚ
  | .transport .. => none
  | .response r =>
    if statusIsRetryable r.status then (r.retryAfterMs.getD none).map secondsOf else none

/-! ### The exceptions that answers become -/

/-- The body of the answer is not read, or names no OAuth error. -/
def Outcome.bare (P : Platform) : Outcome → Bool
  | .transport .. => false
  | .response r => decide (300 ≤ r.status ∧ r.status ≤ 399 ∨ oauth2ErrorBody P r = .ok none)

/-- The exception is no `NetworkError` and has no `error`. -/
def Decisive (e : Exc) : Prop := e.isNetworkError = false ∧ errorCode e = none

theorem decisive_of_loads {P : Platform} {body : Bytes} {e : Exc} (h : P.loads body = .error e) :
    Decisive e := by
  obtain hv | rfl := loads_error h
  · cases e <;> first | exact ⟨rfl, rfl⟩ | cases hv
  · exact ⟨rfl, rfl⟩

/-- The seconds of a `retry_after_ms`. -/
def PollError.seconds (e : PollError) : Option ℚ := e.retryAfterMs.map secondsOf

theorem retryAfterMsOf_cases (r : Response) : retryAfterMsOf r = .error .overflowError ∨
    ∃ ms, retryAfterMsOf r = .ok ms ∧ (statusIsRetryable r.status = true →
      ms.map secondsOf = (Outcome.response r).retryAfter) := by
  unfold retryAfterMsOf
  cases h : r.retryAfterMs with
  | none => exact Or.inl rfl
  | some ms =>
    refine Or.inr ⟨ms, rfl, fun hretryable => ?_⟩
    rw [Outcome.retryAfter, if_pos hretryable, h]
    rfl

theorem retryAfter_of_not_retryable {r : Response} (h : statusIsRetryable r.status = false) :
    (Outcome.response r).retryAfter = none := by
  rw [Outcome.retryAfter, h]
  rfl

/-- What a status alone becomes: an exception raised on the way, an `AuthError` or `AuthzError`, or a
`NetworkError` with the `Retry-After`. -/
theorem errorFromHttpStatus_cases (P : Platform) (message : PyStr) (r : Response) :
    (∃ e, errorFromHttpStatus P message r = .error e ∧ Decisive e ∧
      (statusIsRetryable r.status = true ∨ r.status = 403)) ∨
    (∃ e, errorFromHttpStatus P message r = .ok e ∧ Decisive e.raised ∧
      (r.status = 401 ∨ r.status = 403 ∨ r.status = 409)) ∨
    ∃ e, errorFromHttpStatus P message r = .ok e ∧ e.raised.isNetworkError = true ∧
      errorCode e.raised = none ∧ e.terminal = false ∧ e.seconds = (Outcome.response r).retryAfter ∧
      ¬ (r.status = 401 ∨ r.status = 403 ∨ r.status = 409) := by
  unfold errorFromHttpStatus
  by_cases h401 : r.status = 401
  · rw [if_pos h401]
    exact Or.inr (Or.inl ⟨_, rfl, ⟨rfl, rfl⟩, Or.inl h401⟩)
  rw [if_neg h401]
  by_cases h403 : r.status = 403
  · rw [if_pos h403]
    have hauthz : Decisive (.authzError message) := ⟨rfl, rfl⟩
    cases hjson : r.json P with
    | ok body => exact Or.inr (Or.inl ⟨_, rfl, hauthz, Or.inr (Or.inl h403)⟩)
    | error e =>
      dsimp only
      split
      · exact Or.inr (Or.inl ⟨_, rfl, hauthz, Or.inr (Or.inl h403)⟩)
      · exact Or.inl ⟨e, rfl, decisive_of_loads hjson, Or.inr h403⟩
  rw [if_neg h403]
  by_cases h409 : r.status = 409
  · rw [if_pos h409]
    exact Or.inr (Or.inl ⟨_, rfl, ⟨rfl, rfl⟩, Or.inr (Or.inr h409)⟩)
  rw [if_neg h409]
  have hnot : ¬ (r.status = 401 ∨ r.status = 403 ∨ r.status = 409) := by omega
  have hle := r.status_le
  split
  · next hstatus =>
    have hretryable : statusIsRetryable r.status = true := by
      rw [statusIsRetryable, decide_eq_true_eq]
      omega
    obtain hraise | ⟨ms, hms, hseconds⟩ := retryAfterMsOf_cases r
    · rw [hraise]
      exact Or.inl ⟨_, rfl, ⟨rfl, rfl⟩, Or.inl hretryable⟩
    · rw [hms]
      exact Or.inr (Or.inr ⟨_, rfl, rfl, rfl, rfl, hseconds hretryable, hnot⟩)
  · next hstatus =>
    have hretryable : statusIsRetryable r.status = false := by
      rw [statusIsRetryable, decide_eq_false_iff_not]
      omega
    exact Or.inr (Or.inr ⟨_, rfl, rfl, rfl, rfl, (retryAfter_of_not_retryable hretryable).symm, hnot⟩)

/-- What a status and a body become: as the status alone if the body is not read or names no error, an
exception raised on the way, or the OAuth error, which keeps the `Retry-After` of a 429 only. -/
theorem errorFromOauth2Response_cases (P : Platform) (message : PyStr) (r : Response) :
    ((Outcome.response r).bare P = true ∧ (Outcome.response r).oauthError P = none ∧
      errorFromOauth2Response P message r = errorFromHttpStatus P message r) ∨
    ((Outcome.response r).bare P = false ∧
      ((∃ e, errorFromOauth2Response P message r = .error e ∧ Decisive e ∧
        ((Outcome.response r).oauthError P = none ∨ r.status = 429)) ∨
      ∃ error description ms, errorFromOauth2Response P message r =
          .ok ⟨.oauthProtocolError error description, ms, false⟩ ∧
        (Outcome.response r).oauthError P = some error ∧
        ms.map secondsOf =
          if r.status = 429 then (Outcome.response r).retryAfter else none)) := by
  unfold errorFromOauth2Response
  by_cases hredirect : 300 ≤ r.status ∧ r.status ≤ 399
  · refine Or.inl ⟨?_, ?_, if_pos hredirect⟩
    · simp [Outcome.bare, hredirect]
    · rw [Outcome.oauthError, if_pos hredirect]
  rw [if_neg hredirect]
  have hbare : (Outcome.response r).bare P = decide (oauth2ErrorBody P r = .ok none) := by
    simp only [Outcome.bare, hredirect, false_or]
  rw [hbare, Outcome.oauthError, if_neg hredirect]
  cases hbody : oauth2ErrorBody P r with
  | error e =>
    refine Or.inr ⟨by simp, Or.inl ⟨e, rfl, ?_, Or.inl rfl⟩⟩
    unfold oauth2ErrorBody at hbody
    cases hjson : r.json P with
    | ok v =>
      rw [hjson] at hbody
      dsimp only at hbody
      split at hbody
      · cases hbody
      · split at hbody <;> cases hbody
    | error e' =>
      rw [hjson] at hbody
      dsimp only at hbody
      split at hbody
      · cases hbody
      · obtain rfl := Except.error.inj hbody
        exact decisive_of_loads hjson
  | ok named =>
    cases named with
    | none => exact Or.inl ⟨by simp, rfl, rfl⟩
    | some named =>
      obtain ⟨error, description⟩ := named
      refine Or.inr ⟨by simp, ?_⟩
      dsimp only
      split
      · next h429 =>
        obtain hraise | ⟨ms, hms, hseconds⟩ := retryAfterMsOf_cases r
        · rw [hraise]
          exact Or.inl ⟨_, rfl, ⟨rfl, rfl⟩, Or.inr h429⟩
        · rw [hms]
          have hretryable : statusIsRetryable r.status = true := by
            rw [statusIsRetryable, decide_eq_true_eq]
            omega
          exact Or.inr ⟨error, description, ms, rfl, rfl, hseconds hretryable⟩
      · exact Or.inr ⟨error, description, none, rfl, rfl, rfl⟩

theorem errorFromHttpStatus_error {P : Platform} {message : PyStr} {r : Response} {e : Exc}
    (h : errorFromHttpStatus P message r = .error e) : Decisive e := by
  obtain ⟨e', heq, hdec, -⟩ | ⟨e', heq, -⟩ | ⟨e', heq, -⟩ := errorFromHttpStatus_cases P message r
  · rw [heq] at h
    obtain rfl := Except.error.inj h
    exact hdec
  · rw [heq] at h
    cases h
  · rw [heq] at h
    cases h

theorem errorFromOauth2Response_error {P : Platform} {message : PyStr} {r : Response} {e : Exc}
    (h : errorFromOauth2Response P message r = .error e) : Decisive e := by
  obtain ⟨-, -, heq⟩ | ⟨-, ⟨e', heq, hdec, -⟩ | ⟨error, description, ms, heq, -⟩⟩ :=
    errorFromOauth2Response_cases P message r
  · rw [heq] at h
    exact errorFromHttpStatus_error h
  · rw [heq] at h
    obtain rfl := Except.error.inj h
    exact hdec
  · rw [heq] at h
    cases h

theorem oauthError_of_bare {P : Platform} {x : Outcome} (h : x.bare P = true) : x.oauthError P = none := by
  cases x with
  | transport name text => rfl
  | response r =>
    rw [Outcome.bare, decide_eq_true_eq] at h
    rw [Outcome.oauthError]
    split
    · rfl
    · next hredirect =>
      obtain hr | hnone := h
      · exact absurd hr hredirect
      · rw [hnone]

theorem seconds_nonneg (e : PollError) : ∀ seconds, e.seconds = some seconds → 0 ≤ seconds := by
  intro seconds h
  obtain ⟨ms, -, rfl⟩ := Option.map_eq_some_iff.1 h
  exact div_nonneg (NNRat.cast_nonneg ms) (by norm_num)

/-! ### The answers to go on after -/

theorem refuses_of_code {P : Platform} {r : Response} {code : PyStr} (h200 : r.status ≠ 200)
    (hr : statusIsRetryable r.status = false) (hcode : (Outcome.response r).oauthError P = some code) :
    (Outcome.response r).refuses P code = true := by
  rw [Outcome.refuses, decide_eq_true_eq]
  exact ⟨hr, decide_eq_false h200, hcode⟩

theorem refuses_eq_false {P : Platform} {x : Outcome} {code code' : PyStr} (hcode : x.oauthError P = some code)
    (hne : code ≠ code') : x.refuses P code' = false := by
  rw [Outcome.refuses, decide_eq_false_iff_not]
  rintro ⟨-, -, h⟩
  rw [hcode] at h
  exact hne (Option.some.inj h)

theorem refuses_of_transient {P : Platform} {x : Outcome} (h : x.transient = true) (code : PyStr) :
    x.refuses P code = false := by
  rw [Outcome.refuses, h]
  simp

theorem again_of_transient {P : Platform} {x : Outcome} (h : x.transient = true) : x.again P = true := by
  rw [Outcome.again, h]
  rfl

theorem again_eq_false {P : Platform} {x : Outcome} (htr : x.transient = false)
    (hcode : x.oauthError P = some (lit "rate_limit_exceeded") ∨ x.oauthError P = none) : x.again P = false := by
  have hno : ∀ code, lit "rate_limit_exceeded" ≠ code → x.refuses P code = false := by
    intro code hne
    obtain hrate | hnone := hcode
    · exact refuses_eq_false hrate hne
    · rw [Outcome.refuses, hnone]
      simp
  rw [Outcome.again, htr, hno _ (by decide), hno _ (by decide)]
  rfl

theorem not_slow_of_not_again {P : Platform} {x : Outcome} (h : x.again P = false) :
    x.refuses P (lit "slow_down") = false := by
  rw [Outcome.again, Bool.or_eq_false_iff] at h
  exact h.2

/-- The codes after which either loop goes on. -/
def goesOnCodes : List PyStr := [lit "authorization_pending", lit "slow_down", lit "rate_limit_exceeded"]

/-- A refusal with one of the codes is an answer to go on after, or a `rate_limit_exceeded` that is none. -/
theorem again_of_code {P : Platform} {r : Response} {code : PyStr} (h200 : r.status ≠ 200)
    (hnames : (Outcome.response r).oauthError P = some code) (hmem : code ∈ goesOnCodes) :
    (Outcome.response r).again P = true ∨
      statusIsRetryable r.status = false ∧ code = lit "rate_limit_exceeded" := by
  cases hr : statusIsRetryable r.status with
  | true => exact Or.inl (again_of_transient hr)
  | false =>
    have href := refuses_of_code h200 hr hnames
    rw [Outcome.again, Bool.or_eq_true, Bool.or_eq_true]
    simp only [goesOnCodes, List.mem_cons, List.not_mem_nil, or_false] at hmem
    obtain rfl | rfl | rfl := hmem
    · exact Or.inl (Or.inl (Or.inr href))
    · exact Or.inl (Or.inr href)
    · exact Or.inr ⟨rfl, rfl⟩

end AxiamSdk.Polling
