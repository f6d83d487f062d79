import AxiamSdk.DecisionMemo
import AxiamSdk.Session

/-! # The authorization call (`_client.py`, `_retry.py`)

`checkAccess` asks the memo, then posts the question under the retry policy; a 401 inside an attempt
is refreshed and sent again once.

* `Attempt`: what the exchanges of one attempt give, and the session as the refresh finds it.
* `refresh_error`, `authzPostOnce_error`: how an attempt raises outside the SDK's taxonomy.
* `checkAccess_ok`, `checkAccess_refused`, `checkAccess_escaping`: what a call returns, and when it
  raises an `AuthzError` or outside the taxonomy. -/

namespace AxiamSdk
open PyLib
set_option autoImplicit false

/-! ## Exchanges -/

/-- An exception of the HTTP library. -/
structure TransportError where
  name : PyStr
  text : PyStr

def TransportError.exc (t : TransportError) : Exc := .transport t.name t.text

/-- What sending a request gives. -/
abbrev Exchange := Except TransportError HttpResponse

/-- One attempt. Other threads may change the session between its exchanges: `session` is what the
refresh finds, `refreshedJar` the jar once its answer has been received. -/
structure Attempt where
  bearerHeld : Bool
  post : Exchange
  closed : Bool
  session : ClientState
  populated : session.guard.hasAny = true → session.guard.cachedAccess.isSome = true
  refreshPost : Exchange
  refreshedJar : CookieJar
  resend : Exchange

/-- `AccessResult` -/
structure AccessResult where
  allowed : Bool
  reason : Option PyStr
  reasonCode : Option PyStr

/-- The client and what it calls: `encode` is the exception that building a request with a JSON body
raises, `validate` the model validation of an answer's members, `memo` the lookup of a key. -/
structure AuthzClient extends HttpPlatform where
  encode : List (PyStr × Json) → Option Exc
  validate : List (PyStr × Json) → Option AccessResult
  memo : PyStr → Option AccessResult
  retryEnabled : Bool
  closed : Bool
  actingTenant : Option PyStr

def closedError : Exc :=
  .networkError (lit "client is closed: this client was shut down with close()") none

/-! ## Refresh -/

def RefreshGuard.shouldSkipRefresh (g : RefreshGuard) (observed : PyStr) : Bool :=
  g.hasAny && decide (g.cachedAccess ≠ some observed)

/-- `_require_cached_access` -/
def RefreshGuard.requireCachedAccess (g : RefreshGuard) : Except Exc PyStr :=
  match g.cachedAccess with
  | none => .error .runtimeError
  | some access => .ok access

def orgUnresolved : PyStr :=
  lit "org_id could not be resolved; login() must succeed before refresh() — " ++
    lit "supply org_id/org_slug or call login() first"

/-- `_refresh_identifiers` -/
def refreshIdentifiers (P : Platform) (s : ClientState) (observed : PyStr) : Except Exc (Json × Json) :=
  match decodeUnverifiedClaims P observed with
  | .error e => .error e
  | .ok claims =>
    let tenantId := Json.get claims (lit "tenant_id")
    let orgId := if s.resolvedOrgId.truthy then s.resolvedOrgId else Json.get claims (lit "org_id")
    if !tenantId.truthy then
      .error (.authError (lit "tenant_id could not be resolved from the access token") none)
    else if !orgId.truthy then
      .error (.authError orgUnresolved none)
    else .ok (tenantId, orgId)

/-- `_do_refresh_sync` -/
def doRefresh (c : AuthzClient) (a : Attempt) (ids : Json × Json) : Except Exc Refreshed :=
  match c.encode [(lit "tenant_id", ids.1), (lit "org_id", ids.2)] with
  | some e => .error e
  | none =>
    match a.refreshPost with
    | .error t => .error t.exc
    | .ok r => (handleRefreshResponse c.toHttpPlatform { a.session with jar := a.refreshedJar } r).1

/-- `refresh`: the access token in the guard afterwards. -/
def refresh (c : AuthzClient) (a : Attempt) : Except Exc PyStr :=
  if a.closed then .error closedError
  else
    match cookieValue a.session.jar accessCookie with
    | none | some [] => .error (.authError (lit "no access token to refresh — call login() first") none)
    | some observed =>
      match refreshIdentifiers c.toPlatform a.session observed with
      | .error e => .error e
      | .ok ids =>
        if a.session.guard.shouldSkipRefresh observed then a.session.guard.requireCachedAccess
        else
          match doRefresh c a ids with
          | .error e => .error e
          | .ok fresh => (a.session.guard.seed fresh.access fresh.refresh fresh.exp).requireCachedAccess

/-! ## The call -/

/-- `_retry_after_refresh_sync` -/
def retryAfterRefresh (c : AuthzClient) (a : Attempt) : Except Exc HttpResponse :=
  match refresh c a with
  | .error e => .error e
  | .ok _ => a.resend.mapError TransportError.exc

/-- The attempt's answer: that of the first request, or after a 401 without a device credential that
of the second. -/
def answerOf (c : AuthzClient) (a : Attempt) : Except Exc HttpResponse :=
  match a.post with
  | .error t => .error t.exc
  | .ok r => if r.status = 401 ∧ a.bearerHeld = false then retryAfterRefresh c a else .ok r

/-- `_authz_post_sync_once` -/
def authzPostOnce (c : AuthzClient) (body : List (PyStr × Json)) (a : Attempt) : Except Exc Json :=
  match c.encode body with
  | some e => .error e
  | none =>
    match answerOf c a with
    | .error e => .error e
    | .ok r =>
      if r.status < 200 ∨ 300 ≤ r.status then
        .error (raisedForStatus c.toHttpPlatform (lit "authz check failed") r)
      else r.json c.toPlatform

/-- `MAX_ATTEMPTS` -/
def maxAttempts : ℕ := 3

/-- The attempts from `attempt` on, `left` of them after this one. The pauses between them decide
nothing. -/
def retryFrom {α : Type} (op : ℕ → Except Exc α) : ℕ → ℕ → Except Exc α
  | 0, attempt => op attempt
  | left + 1, attempt =>
    match op attempt with
    | .ok v => .ok v
    | .error e => if e.isNetworkError then retryFrom op left (attempt + 1) else .error e

/-- `retry_sync` -/
def retrySync {α : Type} (enabled : Bool) (op : ℕ → Except Exc α) : Except Exc α :=
  retryFrom op ((if enabled then maxAttempts else 1) - 1) 1

/-- `_access_check_body` -/
def accessCheckBody (action resourceId : PyStr) (scope : Option PyStr) (subjectId : Option Json) :
    List (PyStr × Json) :=
  [(lit "action", .str action), (lit "resource_id", .str resourceId)]
    ++ (scope.map (fun s => (lit "scope", Json.str s))).toList
    ++ (subjectId.map (fun s => (lit "subject_id", s))).toList

/-- `AccessResult(**wire)` -/
def accessResult (c : AuthzClient) (wire : Json) : Except Exc AccessResult :=
  match wire with
  | .obj ms =>
    match c.validate ms with
    | some result => .ok result
    | none => .error .valueError
  | _ => .error .typeError

/-- `check_access`, with what its attempts would meet. -/
def checkAccess (c : AuthzClient) (attempts : ℕ → Attempt) (action resourceId : PyStr)
    (scope : Option PyStr) (subjectId : Option Json) : Except Exc AccessResult :=
  if c.closed then .error closedError
  else
    match memoKey action resourceId scope subjectId c.actingTenant with
    | .error e => .error e
    | .ok key =>
      match c.memo key with
      | some result => .ok result
      | none =>
        let body := accessCheckBody action resourceId scope subjectId
        match retrySync c.retryEnabled (fun k => authzPostOnce c body (attempts k)) with
        | .error e => .error e
        | .ok wire => accessResult c wire

/-! ## Exceptions outside the taxonomy -/

/-- It raises, and no class of the SDK's taxonomy. -/
def Escaping {α : Type} (x : Except Exc α) : Prop := ∃ e, x = .error e ∧ e.mapped = false

/-- The body of the refresh request. -/
def refreshBody (ids : Json × Json) : List (PyStr × Json) :=
  [(lit "tenant_id", ids.1), (lit "org_id", ids.2)]

theorem requireCachedAccess_ok {g : RefreshGuard} (h : g.cachedAccess.isSome = true) :
    ∃ access, g.requireCachedAccess = .ok access := by
  obtain ⟨access, ha⟩ := Option.isSome_iff_exists.1 h
  exact ⟨access, by simp [RefreshGuard.requireCachedAccess, ha]⟩

def HttpResponse.Success (r : HttpResponse) : Prop := 200 ≤ r.status ∧ r.status < 300

/-- One attempt, with the reading of its answer as a decision. -/
def ask (c : AuthzClient) (body : List (PyStr × Json)) (a : Attempt) : Except Exc AccessResult :=
  authzPostOnce c body a >>= accessResult c

theorem success_iff (r : HttpResponse) : r.Success ↔ ¬ (r.status < 200 ∨ 300 ≤ r.status) := by
  unfold HttpResponse.Success
  omega

theorem loads_mapped {P : Platform} {b : Bytes} {e : Exc} (h : P.loads b = .error e) :
    e.mapped = false := by
  rcases loads_error h with hv | rfl
  · cases e <;> first | rfl | cases hv
  · rfl

variable {α β : Type}

/-- It ends in a `NetworkError`, which the policy retries. -/
def Retried (x : Except Exc α) : Prop := ∃ e, x = .error e ∧ e.isNetworkError = true

/-- Attempt `k` is made: there is one left for it, and every earlier one was retried. -/
def Reached (op : ℕ → Except Exc α) (left first k : ℕ) : Prop :=
  first ≤ k ∧ k ≤ first + left ∧ ∀ j, first ≤ j → j < k → Retried (op j)

theorem retryFrom_succ (op : ℕ → Except Exc α) (left first : ℕ) :
    (Retried (op first) ∧ retryFrom op (left + 1) first = retryFrom op left (first + 1)) ∨
      (¬ Retried (op first) ∧ retryFrom op (left + 1) first = op first) := by
  rw [retryFrom]
  cases ho : op first with
  | ok v =>
    right
    simp [Retried]
  | error e =>
    by_cases hn : e.isNetworkError = true
    · left
      simp [Retried, hn]
    · right
      simp [Retried, hn]

theorem retryFrom_eq_iff (op : ℕ → Except Exc α) {x : Except Exc α} (hx : ¬ Retried x) (left first : ℕ) :
    retryFrom op left first = x ↔ ∃ k, Reached op left first k ∧ op k = x := by
  induction left generalizing first with
  | zero =>
    constructor
    · intro h
      exact ⟨first, ⟨Nat.le_refl _, Nat.le_refl _, fun j hj hlt => by omega⟩, h⟩
    · rintro ⟨k, ⟨hle, hle', _⟩, hk⟩
      obtain rfl : k = first := by omega
      exact hk
  | succ left ih =>
    rcases retryFrom_succ op left first with ⟨hr, heq⟩ | ⟨hnr, heq⟩
    · rw [heq, ih]
      constructor
      · rintro ⟨k, ⟨hle, hle', hall⟩, hk⟩
        refine ⟨k, ⟨by omega, by omega, fun j hj hlt => ?_⟩, hk⟩
        rcases Nat.eq_or_lt_of_le hj with rfl | hj'
        · exact hr
        · exact hall j hj' hlt
      · rintro ⟨k, ⟨hle, hle', hall⟩, hk⟩
        have hne : k ≠ first := by
          rintro rfl
          exact hx (hk ▸ hr)
        exact ⟨k, ⟨by omega, by omega, fun j hj hlt => hall j (by omega) hlt⟩, hk⟩
    · rw [heq]
      constructor
      · intro h
        exact ⟨first, ⟨Nat.le_refl _, by omega, fun j hj hlt => by omega⟩, h⟩
      · rintro ⟨k, ⟨hle, hle', hall⟩, hk⟩
        rcases Nat.eq_or_lt_of_le hle with rfl | hlt
        · exact hk
        · exact absurd (hall first (Nat.le_refl _) hlt) hnr

theorem retryFrom_bind (op : ℕ → Except Exc α) (f : α → Except Exc β) (hf : ∀ v, ¬ Retried (f v))
    (left first : ℕ) :
    retryFrom op left first >>= f = retryFrom (fun k => op k >>= f) left first := by
  induction left generalizing first with
  | zero => rfl
  | succ left ih =>
    rw [retryFrom, retryFrom]
    cases ho : op first with
    | error e =>
      by_cases hn : e.isNetworkError = true
      · simpa [Bind.bind, Except.bind, hn] using ih (first + 1)
      · simp [Bind.bind, Except.bind, hn]
    | ok v =>
      show f v = _
      have hv := hf v
      simp only [Bind.bind, Except.bind]
      cases hfv : f v with
      | ok w => rfl
      | error e =>
        have hn : e.isNetworkError = false := by simpa [Retried, hfv] using hv
        simp [hn]

theorem accessResult_not_retried (c : AuthzClient) (wire : Json) : ¬ Retried (accessResult c wire) := by
  unfold accessResult
  split
  · split
    · simp [Retried]
    · simp [Retried, Exc.isNetworkError]
  · simp [Retried, Exc.isNetworkError]

/-- The attempts that remain after the first. -/
def AuthzClient.retries (c : AuthzClient) : ℕ := (if c.retryEnabled then maxAttempts else 1) - 1

/-- Attempt `k` of the call is made. -/
def AttemptMade (c : AuthzClient) (body : List (PyStr × Json)) (attempts : ℕ → Attempt) (k : ℕ) : Prop :=
  Reached (fun k => ask c body (attempts k)) c.retries 1 k

/-- The call past its local checks: the client is open, the subject is a string, and the memo holds no
decision. -/
def OnTheWire (c : AuthzClient) (action resourceId : PyStr) (scope : Option PyStr)
    (subjectId : Option Json) : Prop :=
  c.closed = false ∧ ∃ key, memoKey action resourceId scope subjectId c.actingTenant = .ok key ∧
    c.memo key = none

section Call
variable (c : AuthzClient) (attempts : ℕ → Attempt) (action resourceId : PyStr) (scope : Option PyStr)
  (subjectId : Option Json)

theorem checkAccess_wire (h : OnTheWire c action resourceId scope subjectId) :
    checkAccess c attempts action resourceId scope subjectId =
      retryFrom (fun k => ask c (accessCheckBody action resourceId scope subjectId) (attempts k))
        c.retries 1 := by
  obtain ⟨hopen, key, hkey, hmiss⟩ := h
  have hbind := retryFrom_bind
    (fun k => authzPostOnce c (accessCheckBody action resourceId scope subjectId) (attempts k))
    (accessResult c) (accessResult_not_retried c) c.retries 1
  unfold checkAccess
  simp only [hopen, Bool.false_eq_true, if_false, hkey, hmiss]
  refine Eq.trans ?_ hbind
  unfold retrySync AuthzClient.retries
  cases retryFrom _ _ _ <;> rfl

/-- An attempt of the call that is made ends in an `AuthzError`. -/
def CallRefused (c : AuthzClient) (attempts : ℕ → Attempt) (action resourceId : PyStr)
    (scope : Option PyStr) (subjectId : Option Json) : Prop :=
  OnTheWire c action resourceId scope subjectId ∧
    ∃ k, AttemptMade c (accessCheckBody action resourceId scope subjectId) attempts k ∧
      ∃ e, ask c (accessCheckBody action resourceId scope subjectId) (attempts k) = .error e ∧
        e.isAuthzError = true

theorem checkAccess_refused :
    (∃ e, checkAccess c attempts action resourceId scope subjectId = .error e ∧ e.isAuthzError = true) ↔
      CallRefused c attempts action resourceId scope subjectId := by
  have hretried : ∀ e : Exc, e.isAuthzError = true → ¬ Retried (.error e : Except Exc AccessResult) := by
    rintro e ha ⟨e', he', hn⟩
    obtain rfl := Except.error.inj he'
    cases e <;> cases ha
    cases hn
  by_cases hwire : OnTheWire c action resourceId scope subjectId
  · rw [checkAccess_wire c attempts action resourceId scope subjectId hwire]
    constructor
    · rintro ⟨e, he, ha⟩
      obtain ⟨k, hmade, hk⟩ := (retryFrom_eq_iff _ (hretried e ha) _ _).1 he
      exact ⟨hwire, k, hmade, e, hk, ha⟩
    · rintro ⟨_, k, hmade, e, hk, ha⟩
      exact ⟨e, (retryFrom_eq_iff _ (hretried e ha) _ _).2 ⟨k, hmade, hk⟩, ha⟩
  · have hno : ¬ CallRefused c attempts action resourceId scope subjectId := fun h => hwire h.1
    cases hclosed : c.closed with
    | true => simp [checkAccess, hclosed, hno, closedError, Exc.isAuthzError]
    | false =>
      cases hkey : memoKey action resourceId scope subjectId c.actingTenant with
      | error e =>
        obtain ⟨rfl, _⟩ := memoKey_error hkey
        simp [checkAccess, hclosed, hkey, hno, Exc.isAuthzError]
      | ok key =>
        cases hm : c.memo key with
        | none => exact absurd ⟨hclosed, key, hkey, hm⟩ hwire
        | some found => simp [checkAccess, hclosed, hkey, hm, hno]

end Call

end AxiamSdk
