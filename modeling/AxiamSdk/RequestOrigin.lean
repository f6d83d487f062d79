import AxiamSdk.Lib.Runs
import AxiamSdk.Lib.Text

/-! # What the session adds to a request (`_session.py`, `_client.py`)

Three decorators add the tenant, the acting tenant, the adopted credential and the captured CSRF
token to a request; each compares the host of the request with the session's own.

* `applyActingTenant`, `applyBearerCredential`, `prepareRequest`, `captureCsrf`: the code.
* `step`: requests and their answers in order, with the retry that is rebuilt from a sent request.
* `contained_iff`: the session keeps to its origin exactly when no request goes to the own host under
  another scheme or port, and no CSRF token of another origin is there to be echoed. -/

namespace AxiamSdk.RequestOrigin
open PyLib
set_option autoImplicit false

/-! ## URLs -/

/-- A URL as the HTTP library normalizes it. -/
structure Url where
  scheme : PyStr
  host : PyStr
  port : Option ℕ
  path : PyStr
  deriving DecidableEq

/-- The port of a scheme when the URL names none. -/
def defaultPort (scheme : PyStr) : Option ℕ :=
  if scheme = lit "https" then some 443
  else if scheme = lit "http" then some 80
  else if scheme = lit "wss" then some 443
  else if scheme = lit "ws" then some 80
  else if scheme = lit "ftp" then some 21
  else none

def Url.effectivePort (u : Url) : Option ℕ := u.port.or (defaultPort u.scheme)

def SameOrigin (u v : Url) : Prop :=
  u.scheme = v.scheme ∧ u.host = v.host ∧ u.effectivePort = v.effectivePort

instance (u v : Url) : Decidable (SameOrigin u v) := inferInstanceAs (Decidable (_ ∧ _))

def Url.isAbsolute (u : Url) : Bool := !u.scheme.isEmpty && !u.host.isEmpty

/-- A path that ends with a slash. -/
def trailingSlash (path : PyStr) : PyStr :=
  if path.getLast? = some (ch '/') then path else path ++ [ch '/']

/-- The HTTP library's merge of a request URL with the client's base URL. -/
def mergeUrl (base u : Url) : Url :=
  if u.isAbsolute then u
  else { base with path := trailingSlash base.path ++ u.path.dropWhile (· = ch '/') }

/-! ## Requests -/

/-- The headers that the decorators read or write. -/
structure Headers where
  tenantId : Option PyStr
  actingTenant : Option PyStr
  csrf : Option PyStr
  authorization : Option PyStr
  cookie : Option PyStr

structure Request where
  method : PyStr
  url : Url
  headers : Headers

/-- What the session is configured with, and Python's `str.upper`. -/
structure Setting where
  baseUrl : Url
  tenantSlug : PyStr
  upper : PyStr → PyStr

/-- `_STATE_CHANGING_METHODS` -/
def stateChangingMethods : List PyStr := [lit "POST", lit "PUT", lit "PATCH", lit "DELETE"]

section Decorators
variable (S : Setting)

/-- `request.url.path.startswith("/oauth2/")` -/
def isOauth2 (r : Request) : Bool := (lit "/oauth2/").isPrefixOf r.url.path

/-- `req_host and req_host != self._base_host` -/
def otherHost (r : Request) : Bool := !r.url.host.isEmpty && decide (r.url.host ≠ S.baseUrl.host)

/-- `_apply_acting_tenant` -/
def applyActingTenant (acting : Option PyStr) (r : Request) : Request :=
  match acting with
  | none => r
  | some tenant =>
    if otherHost S r then r else { r with headers := { r.headers with actingTenant := some tenant } }

/-- `_apply_bearer_credential` -/
def applyBearerCredential (bearer : Option PyStr) (r : Request) : Request :=
  if bearer = none ∧ r.headers.authorization = none then r
  else if isOauth2 r then r
  else if otherHost S r then r
  else { r with headers := { r.headers with
    authorization := r.headers.authorization.or (bearer.map (fun token => lit "Bearer " ++ token))
    cookie := some [] } }

/-- `_prepare_request` -/
def prepareRequest (csrfToken : Option PyStr) (r : Request) : Request :=
  if isOauth2 r then
    let headers := { r.headers with cookie := none, csrf := none }
    { r with headers :=
      if otherHost S r then headers else { headers with tenantId := some S.tenantSlug } }
  else if otherHost S r then r
  else
    let headers := { r.headers with tenantId := some S.tenantSlug }
    if headers.cookie = some [] then { r with headers := headers }
    else if S.upper r.method ∈ stateChangingMethods then
      match csrfToken with
      | none | some [] => { r with headers := headers }
      | some token => { r with headers := { headers with csrf := some token } }
    else { r with headers := headers }

/-- `_capture_csrf`: the token afterwards, given the answer's `X-CSRF-Token`. -/
def captureCsrf (csrfToken header : Option PyStr) : Option PyStr :=
  match header with
  | none | some [] => csrfToken
  | some token => some token

/-- Through `_rest_send_sync` of a handle with its acting tenant, or `_send_sync` alone. -/
inductive Route
  | rest (acting : Option PyStr)
  | session

/-- The request as it is sent. -/
def decorate (bearer csrfToken : Option PyStr) (route : Route) (r : Request) : Request :=
  match route with
  | .rest acting =>
    prepareRequest S csrfToken (applyBearerCredential S bearer (applyActingTenant S acting r))
  | .session => prepareRequest S csrfToken r

end Decorators

/-! ## The session -/

/-- A sent request, with the `Authorization` header its caller built it with. -/
structure Sent where
  request : Request
  callerAuthorization : Option PyStr

/-- The adopted credential, the captured token, the last token a response of the own origin carried,
and the requests sent so far. -/
structure State where
  bearer : Option PyStr
  csrfToken : Option PyStr
  ownToken : Option PyStr
  log : List Sent

def start : State := ⟨none, none, none, []⟩

/-- A request comes with the `X-CSRF-Token` of its answer, `none` for an answer without one or no
answer at all. A retry is rebuilt from a sent request with the cookies of the moment. -/
inductive Event
  | adopt (token : PyStr)
  | clear
  | send (route : Route) (r : Request) (answer : Option PyStr)
  | retry (k : ℕ) (acting cookie : Option PyStr) (answer : Option PyStr)

/-- A request as the SDK builds it: none of the session's headers is there yet. -/
def Headers.unmarked (h : Headers) : Bool :=
  h.tenantId.isNone && h.actingTenant.isNone && h.csrf.isNone

/-- The request an event sends, before it is decorated, its route, and its caller's `Authorization`. -/
def outgoing (S : Setting) (s : State) : Event → Option (Route × Request × Option PyStr)
  | .send route r _ =>
    if r.headers.unmarked then
      some (route, { r with url := mergeUrl S.baseUrl r.url }, r.headers.authorization)
    else none
  | .retry k acting cookie _ =>
    (s.log[k]?).map (fun p => (.rest acting,
      { method := p.request.method
        url := mergeUrl S.baseUrl p.request.url
        headers := { p.request.headers with csrf := none, cookie := cookie } }, p.callerAuthorization))
  | _ => none

def Event.answer : Event → Option PyStr
  | .send _ _ answer | .retry _ _ _ answer => answer
  | _ => none

def step (S : Setting) (s : State) (e : Event) : Option State :=
  match e with
  | .adopt token => some { s with bearer := some token }
  | .clear => some { s with bearer := none }
  | _ =>
    match outgoing S s e with
    | none => none
    | some (route, r, caller) =>
      some { s with
        csrfToken := captureCsrf s.csrfToken e.answer
        ownToken := if SameOrigin r.url S.baseUrl then captureCsrf s.ownToken e.answer else s.ownToken
        log := s.log ++ [⟨decorate S s.bearer s.csrfToken route r, caller⟩] }

/-! ## Keeping to the origin -/

/-- None of the session's headers, and no `Authorization` but the caller's. -/
def Clean (h : Headers) (callerAuthorization : Option PyStr) : Prop :=
  h.tenantId = none ∧ h.actingTenant = none ∧ h.csrf = none ∧ h.authorization = callerAuthorization

/-- A request to another origin carries nothing of the session; a CSRF token echoed to the own origin
is the last one the own origin sent. -/
def Contained (S : Setting) (s : State) (e : Event) : Prop :=
  ∀ route r caller, outgoing S s e = some (route, r, caller) →
    (¬ SameOrigin r.url S.baseUrl → Clean (decorate S s.bearer s.csrfToken route r).headers caller) ∧
    (SameOrigin r.url S.baseUrl → ∀ token,
      (decorate S s.bearer s.csrfToken route r).headers.csrf = some token → s.ownToken = some token)

/-- The own host under another scheme or port. -/
def Lookalike (S : Setting) (u : Url) : Prop := ¬ SameOrigin u S.baseUrl ∧ u.host = S.baseUrl.host

/-- The request's cookie is withheld: it is empty already, or an `Authorization` takes its place. -/
def withheld (bearer : Option PyStr) (route : Route) (r : Request) : Bool :=
  decide (r.headers.cookie = some []) ||
    match route with
    | .rest _ => bearer.isSome || r.headers.authorization.isSome
    | .session => false

/-- A state-changing request outside `/oauth2/` with its cookie. -/
def echoes (S : Setting) (bearer : Option PyStr) (route : Route) (r : Request) : Bool :=
  !isOauth2 r && !withheld bearer route r && decide (S.upper r.method ∈ stateChangingMethods)

/-- The request does not go to the own host under another scheme or port; and if it echoes a CSRF
token to the own origin, the last token that any response carried is the own origin's last. -/
def Safe (S : Setting) (s : State) (e : Event) : Prop :=
  ∀ route r caller, outgoing S s e = some (route, r, caller) →
    ¬ Lookalike S r.url ∧
    (SameOrigin r.url S.baseUrl → echoes S s.bearer route r = true → s.csrfToken = s.ownToken)

/-! ### What the decorators do -/

section Laws
variable {S : Setting}

theorem mergeUrl_of_not_absolute (base : Url) {u : Url} (h : u.isAbsolute = false) :
    SameOrigin (mergeUrl base u) base := by
  rw [mergeUrl, h]
  exact ⟨rfl, rfl, rfl⟩

theorem mergeUrl_of_absolute (base : Url) {u : Url} (h : u.isAbsolute = true) : mergeUrl base u = u := by
  rw [mergeUrl, if_pos h]

theorem host_ne_nil {u : Url} (h : ¬ SameOrigin (mergeUrl S.baseUrl u) S.baseUrl) :
    (mergeUrl S.baseUrl u).host.isEmpty = false := by
  cases ha : u.isAbsolute with
  | false => exact absurd (mergeUrl_of_not_absolute S.baseUrl ha) h
  | true =>
    rw [mergeUrl_of_absolute S.baseUrl ha]
    simp only [Url.isAbsolute, Bool.and_eq_true] at ha
    simpa using ha.2

theorem otherHost_of_same_host {r : Request} (h : r.url.host = S.baseUrl.host) :
    otherHost S r = false := by
  simp [otherHost, h]

theorem decorate_url (bearer csrfToken : Option PyStr) (route : Route) (r : Request) :
    (decorate S bearer csrfToken route r).url = r.url := by
  have hprepare : ∀ q, (prepareRequest S csrfToken q).url = q.url := by
    intro q
    unfold prepareRequest
    split
    · rfl
    split
    · rfl
    dsimp only
    split
    · rfl
    split
    · split <;> rfl
    · rfl
  have hbearer : ∀ q, (applyBearerCredential S bearer q).url = q.url := by
    intro q
    unfold applyBearerCredential
    split
    · rfl
    split
    · rfl
    split <;> rfl
  have hacting : ∀ acting q, (applyActingTenant S acting q).url = q.url := by
    intro acting q
    unfold applyActingTenant
    split
    · rfl
    split <;> rfl
  cases route with
  | session => exact hprepare r
  | rest acting => rw [decorate, hprepare, hbearer, hacting]

/-- A request to another host is sent with the headers it was built with, but for what `/oauth2/`
takes from it. -/
theorem decorate_other {r : Request} (h : otherHost S r = true) (bearer csrfToken : Option PyStr)
    (route : Route) :
    (decorate S bearer csrfToken route r).headers.tenantId = r.headers.tenantId ∧
      (decorate S bearer csrfToken route r).headers.actingTenant = r.headers.actingTenant ∧
      (decorate S bearer csrfToken route r).headers.authorization = r.headers.authorization ∧
      (r.headers.csrf = none → (decorate S bearer csrfToken route r).headers.csrf = none) := by
  have hprepare : ∀ q : Request, q.url = r.url → q.headers = r.headers →
      (prepareRequest S csrfToken q).headers.tenantId = r.headers.tenantId ∧
      (prepareRequest S csrfToken q).headers.actingTenant = r.headers.actingTenant ∧
      (prepareRequest S csrfToken q).headers.authorization = r.headers.authorization ∧
      (r.headers.csrf = none → (prepareRequest S csrfToken q).headers.csrf = none) := by
    intro q hurl hheaders
    have hq : otherHost S q = true := by
      rw [otherHost, hurl]
      exact h
    unfold prepareRequest
    rw [hq]
    split
    · simp [hheaders]
    · simp [hheaders]
  cases route with
  | session => exact hprepare r rfl rfl
  | rest acting =>
    have hacting : applyActingTenant S acting r = r := by
      unfold applyActingTenant
      split
      · rfl
      · rw [if_pos h]
    have hbearer : applyBearerCredential S bearer r = r := by
      unfold applyBearerCredential
      split
      · rfl
      split
      · rfl
      · rfl
    unfold decorate
    simp only [hacting, hbearer]
    exact hprepare r rfl rfl

/-- The token that a session echoes. -/
def usableToken : Option PyStr → Option PyStr
  | none | some [] => none
  | some token => some token

/-- `_prepare_request` on the own host. -/
theorem prepareRequest_here {r : Request} (h : otherHost S r = false) (csrfToken : Option PyStr) :
    (prepareRequest S csrfToken r).headers.tenantId = some S.tenantSlug ∧
      (r.headers.csrf = none → (prepareRequest S csrfToken r).headers.csrf =
        if !isOauth2 r && !decide (r.headers.cookie = some []) &&
          decide (S.upper r.method ∈ stateChangingMethods) then usableToken csrfToken else none) := by
  unfold prepareRequest
  rw [h]
  cases ho : isOauth2 r with
  | true => simp
  | false =>
    by_cases hc : r.headers.cookie = some []
    · simp [hc]
    · by_cases hm : S.upper r.method ∈ stateChangingMethods
      · rcases csrfToken with _ | _ | ⟨c, cs⟩
        · simp [hc, usableToken]
        · simp [hc, usableToken]
        · simp [hc, hm, usableToken]
      · simp [hc, hm]

/-- On the own host the tenant is always sent, and the CSRF token where the request echoes it. -/
theorem decorate_here {r : Request} (h : otherHost S r = false) (bearer csrfToken : Option PyStr)
    (route : Route) :
    (decorate S bearer csrfToken route r).headers.tenantId = some S.tenantSlug ∧
      (r.headers.csrf = none → (decorate S bearer csrfToken route r).headers.csrf =
        if echoes S bearer route r then usableToken csrfToken else none) := by
  have hprepare : ∀ q : Request, q.url = r.url → q.method = r.method →
      q.headers.csrf = r.headers.csrf →
      (isOauth2 r = false → (q.headers.cookie = some [] ↔ withheld bearer route r = true)) →
      (prepareRequest S csrfToken q).headers.tenantId = some S.tenantSlug ∧
      (r.headers.csrf = none → (prepareRequest S csrfToken q).headers.csrf =
        if echoes S bearer route r then usableToken csrfToken else none) := by
    intro q hurl hmethod hcsrf hcookie
    have hq : otherHost S q = false := by
      rw [otherHost, hurl]
      exact h
    have ho : isOauth2 q = isOauth2 r := by rw [isOauth2, hurl, isOauth2]
    obtain ⟨htenant, hecho⟩ := prepareRequest_here hq csrfToken
    refine ⟨htenant, fun hr => ?_⟩
    rw [hecho (hcsrf.trans hr), ho, hmethod]
    cases hoauth : isOauth2 r with
    | true => simp [echoes, hoauth]
    | false =>
      have hdecide : decide (q.headers.cookie = some []) = withheld bearer route r := by
        rw [Bool.eq_iff_iff, decide_eq_true_iff]
        exact hcookie hoauth
      rw [hdecide]
      simp [echoes, hoauth]
  cases route with
  | session => exact hprepare r rfl rfl rfl (fun _ => by simp [withheld])
  | rest acting =>
    have hacting : ∃ a, applyActingTenant S acting r =
        { r with headers := { r.headers with actingTenant := a } } := by
      unfold applyActingTenant
      split
      · exact ⟨_, rfl⟩
      · rw [h]
        exact ⟨_, rfl⟩
    obtain ⟨a, ha⟩ := hacting
    simp only [decorate, ha]
    unfold applyBearerCredential
    split
    · next hnone =>
      refine hprepare _ rfl rfl rfl (fun _ => ?_)
      have hauth : r.headers.authorization = none := hnone.2
      simp [withheld, hnone.1, hauth]
    · next hsome =>
      have hwithheld : withheld bearer (.rest acting) r = true := by
        cases hb : bearer with
        | some token => simp [withheld]
        | none =>
          cases hauth : r.headers.authorization with
          | some value => simp [withheld, hauth]
          | none => exact absurd ⟨hb, hauth⟩ hsome
      split
      · next hoauth =>
        refine hprepare _ rfl rfl rfl (fun hnot => ?_)
        exact absurd (hoauth.symm.trans hnot) (by simp)
      · split
        · next hother => exact absurd (hother.symm.trans h) (by simp)
        · exact hprepare _ rfl rfl rfl (fun _ => by simp [hwithheld])

end Laws

/-! ## Runs -/

/-- What was sent to another host carries nothing of the session; no captured token is empty, and the
own origin's last token is none as long as no token was captured. -/
structure Inv (S : Setting) (s : State) : Prop where
  log : ∀ p ∈ s.log, otherHost S p.request = true → Clean p.request.headers p.callerAuthorization
  csrfToken : s.csrfToken ≠ some []
  ownToken : s.csrfToken = none → s.ownToken = none

theorem inv_start (S : Setting) : Inv S start where
  log := by
    intro p hp
    cases hp
  csrfToken := by simp [start]
  ownToken := fun _ => rfl

section Steps
variable {S : Setting} {s t : State} {e : Event}

/-- A request before it is decorated: its URL is merged, it carries no CSRF token, and to another host
nothing of the session. -/
theorem outgoing_spec (h : Inv S s) {route : Route} {r : Request} {caller : Option PyStr}
    (ho : outgoing S s e = some (route, r, caller)) :
    (∃ u, r.url = mergeUrl S.baseUrl u) ∧ r.headers.csrf = none ∧
      (otherHost S r = true → Clean r.headers caller) := by
  cases e with
  | adopt token => cases ho
  | clear => cases ho
  | send route' r' answer =>
    simp only [outgoing] at ho
    split at ho
    · next hun =>
      cases ho
      simp only [Headers.unmarked, Bool.and_eq_true, Option.isNone_iff_eq_none] at hun
      exact ⟨⟨r'.url, rfl⟩, hun.2, fun _ => ⟨hun.1.1, hun.1.2, hun.2, rfl⟩⟩
    · cases ho
  | retry k acting cookie answer =>
    simp only [outgoing] at ho
    obtain ⟨p, hp, hr⟩ := Option.map_eq_some_iff.1 ho
    cases hr
    refine ⟨⟨p.request.url, rfl⟩, rfl, fun hother => ?_⟩
    cases ha : p.request.url.isAbsolute with
    | false =>
      have hsame := mergeUrl_of_not_absolute S.baseUrl ha
      rw [otherHost_of_same_host hsame.2.1] at hother
      cases hother
    | true =>
      have hurl := mergeUrl_of_absolute S.baseUrl ha
      have hsent : otherHost S p.request = true := by
        rw [otherHost] at hother
        rw [otherHost]
        simpa only [hurl] using hother
      obtain ⟨h1, h2, _, h4⟩ := h.log p (List.mem_of_getElem? hp) hsent
      exact ⟨h1, h2, rfl, h4⟩

theorem sent_clean (h : Inv S s) {route : Route} {r : Request} {caller : Option PyStr}
    (ho : outgoing S s e = some (route, r, caller)) (hother : otherHost S r = true) :
    Clean (decorate S s.bearer s.csrfToken route r).headers caller := by
  obtain ⟨_, _, hclean⟩ := outgoing_spec h ho
  obtain ⟨h1, h2, h3, h4⟩ := decorate_other hother s.bearer s.csrfToken route
  obtain ⟨c1, c2, c3, c4⟩ := hclean hother
  exact ⟨h1.trans c1, h2.trans c2, h4 c3, h3.trans c4⟩

/-- **One request** keeps to its origin exactly when it is safe. -/
theorem contained_iff_safe (h : Inv S s) (e : Event) : Contained S s e ↔ Safe S s e := by
  have hone : ∀ route r caller, outgoing S s e = some (route, r, caller) →
      (((¬ SameOrigin r.url S.baseUrl →
          Clean (decorate S s.bearer s.csrfToken route r).headers caller) ∧
        (SameOrigin r.url S.baseUrl → ∀ token,
          (decorate S s.bearer s.csrfToken route r).headers.csrf = some token →
            s.ownToken = some token)) ↔
        (¬ Lookalike S r.url ∧ (SameOrigin r.url S.baseUrl →
          echoes S s.bearer route r = true → s.csrfToken = s.ownToken))) := by
    intro route r caller ho
    obtain ⟨⟨u, hu⟩, hcsrf, _⟩ := outgoing_spec h ho
    by_cases hsame : SameOrigin r.url S.baseUrl
    · -- the own origin: only the echoed token matters
      have hhere : otherHost S r = false := otherHost_of_same_host hsame.2.1
      obtain ⟨_, hecho⟩ := decorate_here hhere s.bearer s.csrfToken route
      have hnot : ¬ Lookalike S r.url := fun hl => hl.1 hsame
      simp only [hsame, not_true, false_imp_iff, true_and, true_imp_iff, hnot, not_false_iff,
        hecho hcsrf]
      cases echoes S s.bearer route r with
      | false => simp
      | true =>
        simp only [if_true, true_imp_iff]
        cases hc : s.csrfToken with
        | none => simp [usableToken, h.ownToken hc]
        | some token =>
          cases token with
          | nil => exact absurd hc h.csrfToken
          | cons c cs =>
            simp only [usableToken, Option.some.injEq]
            constructor
            · exact fun hall => (hall _ rfl).symm
            · rintro heq _ rfl
              exact heq.symm
    · simp only [hsame, not_false_iff, true_imp_iff, false_imp_iff, and_true]
      cases hother : otherHost S r with
      | true =>
        have hnot : ¬ Lookalike S r.url := by
          intro hl
          rw [otherHost_of_same_host hl.2] at hother
          cases hother
        simp only [hnot, not_false_iff, iff_true]
        exact sent_clean h ho hother
      | false =>
        have hlook : Lookalike S r.url := by
          refine ⟨hsame, ?_⟩
          have hne : r.url.host.isEmpty = false := by
            rw [hu]
            exact host_ne_nil (by rwa [← hu])
          simpa [otherHost, hne] using hother
        obtain ⟨htenant, _⟩ := decorate_here hother s.bearer s.csrfToken route
        simp only [hlook, not_true, iff_false]
        rintro ⟨hnone, _⟩
        rw [htenant] at hnone
        cases hnone
  constructor
  · exact fun hc route r caller ho => (hone route r caller ho).1 (hc route r caller ho)
  · exact fun hs route r caller ho => (hone route r caller ho).2 (hs route r caller ho)

theorem captureCsrf_ne_nil {csrfToken : Option PyStr} (h : csrfToken ≠ some []) (header : Option PyStr) :
    captureCsrf csrfToken header ≠ some [] := by
  rcases header with _ | _ | ⟨c, cs⟩
  · exact h
  · exact h
  · simp [captureCsrf]

theorem captureCsrf_none {csrfToken header : Option PyStr} (h : captureCsrf csrfToken header = none) :
    csrfToken = none ∧ ∀ token, captureCsrf token header = token := by
  rcases header with _ | _ | ⟨c, cs⟩
  · exact ⟨h, fun _ => rfl⟩
  · exact ⟨h, fun _ => rfl⟩
  · cases h

theorem inv_step (h : Inv S s) (hs : step S s e = some t) : Inv S t := by
  unfold step at hs
  split at hs
  · cases hs
    exact ⟨h.log, h.csrfToken, h.ownToken⟩
  · cases hs
    exact ⟨h.log, h.csrfToken, h.ownToken⟩
  split at hs
  · cases hs
  next route r caller ho =>
    cases hs
    refine ⟨?_, captureCsrf_ne_nil h.csrfToken _, ?_⟩
    · intro p hp hother
      rcases List.mem_append.1 hp with hp | hp
      · exact h.log p hp hother
      · obtain rfl := List.mem_singleton.1 hp
        refine sent_clean h ho ?_
        rwa [otherHost, decorate_url] at hother
    · intro hnone
      obtain ⟨hold, hkeep⟩ := captureCsrf_none hnone
      show (if SameOrigin r.url S.baseUrl then _ else _) = none
      rw [hkeep, ite_self]
      exact h.ownToken hold

end Steps

/-- **The session keeps to its origin.** In every run each request keeps to its origin if and only if
no request goes to the own host under another scheme or port, and none echoes a CSRF token while the
last token that a response carried is not the own origin's last. -/
theorem contained_iff (S : Setting) (es : List Event) :
    Run.Always (fnStep (step S)) start es (Contained S) ↔
      Run.Always (fnStep (step S)) start es (Safe S) :=
  Run.Always.congr (inv_start S) (fun _ _ _ h hs => inv_step h hs)
    (fun _ e _ h _ => contained_iff_safe h e)

/-! ## A request that takes the tenant along -/

namespace OtherPort

def setting : Setting :=
  ⟨⟨lit "https", lit "iam.example.com", none, lit "/"⟩, lit "acme", fun m => m⟩

/-- A discovered token endpoint on the own host, at another port. -/
def request : Request :=
  ⟨lit "POST", ⟨lit "https", lit "iam.example.com", some 8443, lit "/oauth2/token"⟩,
    ⟨none, none, none, none, none⟩⟩

def event : Event := .send .session request none

theorem step_isSome : (step setting start event).isSome = true := by decide +kernel

theorem outgoing_eq : outgoing setting start event = some (.session, request, none) := rfl

theorem not_same : ¬ SameOrigin request.url setting.baseUrl := by decide +kernel

theorem tenant : (decorate setting none none .session request).headers.tenantId = some (lit "acme") := by
  decide +kernel

end OtherPort

open OtherPort in
/-- The tenant goes to the own host's other port. -/
theorem not_contained : ¬ ∀ (S : Setting) (es : List Event),
    Run.Always (fnStep (step S)) start es (Contained S) := by
  intro h
  have hstep : fnStep (step setting) start event ((step setting start event).get step_isSome) :=
    (Option.some_get step_isSome).symm
  have hclean := (h setting [event] [] event [] start _ rfl (Run.nil _) hstep _ _ _ outgoing_eq).1 not_same
  exact absurd (hclean.1.symm.trans tenant) (by simp)

end AxiamSdk.RequestOrigin
