import AxiamSdk.Http
import AxiamSdk.Lib.Dict
import AxiamSdk.Lib.Runs

/-! # Adopting a session (`_session.py`, `_client.py`, `token/refresh_guard.py`)

* `cookieValue`: the value of a cookie, from the entry with the longest path.
* `absorbSessionCookies`, `handleRefreshResponse`: what a 200 answer makes the client cache.
* `adoption_is_own`: along a history of answers, when the adopted token is the one the answer set. -/

namespace AxiamSdk
open PyLib
set_option autoImplicit false

/-! ## The jar and the guard -/

/-- The cookie jar: name and path to value. -/
abbrev CookieJar := Dict (PyStr × PyStr) PyStr

/-- `ACCESS_COOKIE` -/
def accessCookie : PyStr := lit "axiam_access"

/-- `REFRESH_COOKIE` -/
def refreshCookie : PyStr := lit "axiam_refresh"

def rootPath : PyStr := lit "/"

def refreshPath : PyStr := lit "/api/v1/auth/refresh"

/-- The first of the entries whose path is longest. -/
def longest (m : (PyStr × PyStr) × PyStr) (ms : List ((PyStr × PyStr) × PyStr)) :
    (PyStr × PyStr) × PyStr :=
  ms.foldl (fun best c => if best.1.2.length < c.1.2.length then c else best) m

/-- `cookie_value` -/
def cookieValue (jar : CookieJar) (name : PyStr) : Option PyStr :=
  match jar.items.filter (fun c => c.1.1 = name) with
  | [] => none
  | m :: ms => some (longest m ms).2

/-- `RefreshGuard`, without its lock. -/
structure RefreshGuard where
  cachedAccess : Option PyStr
  cachedRefresh : Option PyStr
  cachedExp : Json
  hasAny : Bool

def RefreshGuard.new : RefreshGuard := ⟨none, none, .null, false⟩

theorem RefreshGuard.new_populated :
    RefreshGuard.new.hasAny = true → RefreshGuard.new.cachedAccess.isSome = true :=
  nofun

/-- `seed`, and `_store_refreshed` of the same triple. -/
def RefreshGuard.seed (g : RefreshGuard) (access : PyStr) (refresh : Option PyStr) (exp : Json) :
    RefreshGuard where
  cachedAccess := some access
  cachedRefresh := if refresh.any (!·.isEmpty) then refresh else g.cachedRefresh
  cachedExp := exp
  hasAny := true

/-- What the client holds of its session. -/
structure ClientState where
  jar : CookieJar
  guard : RefreshGuard
  resolvedOrgId : Json
  resolvedTenantId : Json
  bearerToken : Option PyStr

/-! ## The handlers -/

/-- `_decode_unverified_claims` -/
def decodeUnverifiedClaims (P : Platform) (token : PyStr) : Except Exc (List (PyStr × Json)) :=
  match splitOn (ch '.') token with
  | [_, payload, _] =>
    match decodeSegment P payload with
    | .ok (.obj claims) => .ok claims
    | .ok _ => .error (.authError (lit "access token payload is not a JSON object") none)
    | .error e =>
      if e.isValueError then .error (.authError (lit "failed to decode access token claims") none)
      else .error e
  | parts =>
    .error (.authError (lit "malformed access token: expected 3 segments, got " ++
      JsonDumps.decDigits parts.length) none)

/-- A claim that is cached if it is truthy. -/
def cached (claim old : Json) : Json := if claim.truthy then claim else old

/-- `_absorb_session_cookies` -/
def absorbSessionCookies (P : Platform) (s : ClientState) : Except Exc Unit × ClientState :=
  match cookieValue s.jar accessCookie with
  | none | some [] =>
    (.error (.authError (lit "server response did not set the axiam_access cookie") none), s)
  | some access =>
    match decodeUnverifiedClaims P access with
    | .error e => (.error e, s)
    | .ok claims =>
      (.ok (), { s with
        resolvedOrgId := cached (Json.get claims (lit "org_id")) s.resolvedOrgId
        resolvedTenantId := cached (Json.get claims (lit "tenant_id")) s.resolvedTenantId
        guard := s.guard.seed access (cookieValue s.jar refreshCookie) (Json.get claims (lit "exp"))
        bearerToken := none })

/-- The mapping that `_handle_refresh_response` returns. -/
structure Refreshed where
  access : PyStr
  refresh : Option PyStr
  exp : Json

/-- `_handle_refresh_response` -/
def handleRefreshResponse (H : HttpPlatform) (s : ClientState) (r : HttpResponse) :
    Except Exc Refreshed × ClientState :=
  if r.status = 200 then
    match cookieValue s.jar accessCookie with
    | none | some [] =>
      (.error (.authError (lit "refresh response did not set axiam_access") none), s)
    | some access =>
      match decodeUnverifiedClaims H.toPlatform access with
      | .error e => (.error e, s)
      | .ok claims =>
        (.ok ⟨access, cookieValue s.jar refreshCookie, Json.get claims (lit "exp")⟩,
          { s with resolvedTenantId := cached (Json.get claims (lit "tenant_id")) s.resolvedTenantId })
  else (.error (raisedForStatus H (lit "refresh failed") r), s)

/-! ## A history of answers -/

/-- What an answer is to. -/
inductive ResponseKind
  | login | verifyMfa | refresh | ssoComplete
  deriving DecidableEq

/-- The path at which the server sets `axiam_access`. -/
def ResponseKind.accessPath : ResponseKind → PyStr
  | .refresh => refreshPath
  | _ => rootPath

/-- An answer: the cookies it sets, and whether a login result can be read from its body. -/
structure SessionResponse where
  kind : ResponseKind
  http : HttpResponse
  setAccess : Option PyStr
  setRefresh : Option PyStr
  readable : Bool

/-- The jar once the answer has been received. -/
def capture (jar : CookieJar) (r : SessionResponse) : CookieJar :=
  let jar := match r.setAccess with
    | none => jar
    | some v => jar.set (accessCookie, r.kind.accessPath) v
  match r.setRefresh with
  | none => jar
  | some v => jar.set (refreshCookie, refreshPath) v

/-- The answer gets to its handler: a refresh always does, a login, a second factor or an SSO
completion with status 200, the first two once their result has been read. -/
def SessionResponse.handled (r : SessionResponse) : Bool :=
  match r.kind with
  | .refresh => true
  | .ssoComplete => decide (r.http.status = 200)
  | .login | .verifyMfa => decide (r.http.status = 200) && r.readable

/-- One answer: the handler's outcome, if it is called, and the client afterwards. -/
def respond (H : HttpPlatform) (s : ClientState) (r : SessionResponse) :
    Option (Except Exc Unit) × ClientState :=
  let s := { s with jar := capture s.jar r }
  if r.handled then
    if r.kind = .refresh then
      match handleRefreshResponse H s r.http with
      | (.error e, s) => (some (.error e), s)
      | (.ok fresh, s) =>
        (some (.ok ()), { s with guard := s.guard.seed fresh.access fresh.refresh fresh.exp })
    else
      let (outcome, s) := absorbSessionCookies H.toPlatform s
      (some outcome, s)
  else (none, s)

/-- The client starts with an empty jar. -/
def ClientState.start (orgId : Json) : ClientState := ⟨Dict.empty, RefreshGuard.new, orgId, .null, none⟩

def sessionStep (H : HttpPlatform) (s : ClientState) (r : SessionResponse) : Option ClientState :=
  some (respond H s r).2

/-- A handler that returns cached the token that the answer set, and the tenant and organization of
its claims; a 200 answer that set none made the handler raise `AuthError`. -/
def AdoptsOwn (H : HttpPlatform) (s : ClientState) (r : SessionResponse) : Prop :=
  match r.setAccess with
  | some v => (respond H s r).1 = some (.ok ()) →
      ∃ claims, decodeUnverifiedClaims H.toPlatform v = .ok claims ∧
        (respond H s r).2.guard.cachedAccess = some v ∧
        (respond H s r).2.resolvedTenantId = cached (Json.get claims (lit "tenant_id")) s.resolvedTenantId ∧
        (respond H s r).2.resolvedOrgId =
          if r.kind = .refresh then s.resolvedOrgId
          else cached (Json.get claims (lit "org_id")) s.resolvedOrgId
  | none => r.handled → r.http.status = 200 → ∃ message, (respond H s r).1 = some (.error (.authError message none))

/-- A cookie value that is adopted: not empty, and a token with an object of claims. -/
def Adoptable (P : Platform) (access : PyStr) : Prop :=
  access ≠ [] ∧ ∃ claims, decodeUnverifiedClaims P access = .ok claims

/-- An `axiam_access` that cannot be adopted: absent, empty, or one whose claims raise `AuthError`. -/
def Refused (P : Platform) (access : Option PyStr) : Prop :=
  ∀ v, access = some v → v ≠ [] →
    ∃ message, decodeUnverifiedClaims P v = .error (.authError message none)

/-- The jar holds no older token that would be adopted in place of the answer's own: at the refresh
path when a login, second factor or SSO completion sets another one, anywhere when the answer sets
none. -/
def NoOlderToken (H : HttpPlatform) (s : ClientState) (r : SessionResponse) : Prop :=
  r.handled → r.http.status = 200 →
    match r.setAccess with
    | some v => r.kind ≠ .refresh → ∀ w, s.jar.get? (accessCookie, refreshPath) = some w →
        Adoptable H.toPlatform w → w = v
    | none => Refused H.toPlatform (cookieValue s.jar accessCookie)

/-! ### What the jar holds -/

theorem longest_spec (m : (PyStr × PyStr) × PyStr) (ms : List ((PyStr × PyStr) × PyStr)) :
    longest m ms ∈ m :: ms ∧ ∀ c ∈ m :: ms, c.1.2.length ≤ (longest m ms).1.2.length := by
  induction ms generalizing m with
  | nil =>
    refine ⟨List.mem_cons_self, ?_⟩
    intro c hc
    rw [List.mem_singleton.1 hc]
    exact Nat.le_refl _
  | cons n ms ih =>
    have hstep : longest m (n :: ms) =
        longest (if m.1.2.length < n.1.2.length then n else m) ms := rfl
    obtain ⟨hmem, hmax⟩ := ih (if m.1.2.length < n.1.2.length then n else m)
    rw [hstep]
    constructor
    · rcases List.mem_cons.1 hmem with heq | htail
      · rw [heq]
        split <;> simp
      · exact List.mem_cons_of_mem _ (List.mem_cons_of_mem _ htail)
    · intro c hc
      have hhead := hmax _ List.mem_cons_self
      rcases List.mem_cons.1 hc with rfl | hc
      · refine Nat.le_trans ?_ hhead
        split <;> omega
      · rcases List.mem_cons.1 hc with rfl | hc
        · refine Nat.le_trans ?_ hhead
          split <;> omega
        · exact hmax c (List.mem_cons_of_mem _ hc)

/-- The value of a cookie is that of an entry with this name whose path no other exceeds. -/
theorem cookieValue_some {jar : CookieJar} {name v : PyStr} (h : cookieValue jar name = some v) :
    ∃ path, jar.get? (name, path) = some v ∧
      ∀ path' w, jar.get? (name, path') = some w → path'.length ≤ path.length := by
  unfold cookieValue at h
  split at h
  · cases h
  · next m ms hm =>
    obtain ⟨hmem, hmax⟩ := longest_spec m ms
    rw [← hm] at hmem hmax
    obtain ⟨hin, hname⟩ := List.mem_filter.1 hmem
    have hkey : (name, (longest m ms).1.2) = (longest m ms).1 := by
      rw [← of_decide_eq_true hname]
    refine ⟨(longest m ms).1.2, ?_, ?_⟩
    · rw [← Dict.mem_iff_get?, hkey, ← Option.some.inj h]
      exact hin
    · intro path' w hw
      exact hmax ((name, path'), w) (List.mem_filter.2 ⟨(Dict.mem_iff_get? _ _ _).2 hw, by simp⟩)

theorem cookieValue_none {jar : CookieJar} {name : PyStr} (h : cookieValue jar name = none)
    (path : PyStr) : jar.get? (name, path) = none := by
  unfold cookieValue at h
  split at h
  · next hm =>
    cases hg : jar.get? (name, path) with
    | none => rfl
    | some w =>
      have hin := (Dict.mem_iff_get? jar (name, path) w).2 hg
      have hmem : ((name, path), w) ∈ jar.items.filter (fun c => c.1.1 = name) :=
        List.mem_filter.2 ⟨hin, decide_eq_true rfl⟩
      rw [hm] at hmem
      cases hmem
  · cases h

/-- The access cookie is held at the root and at the refresh path only. -/
def TwoPaths (jar : CookieJar) : Prop :=
  ∀ path v, jar.get? (accessCookie, path) = some v → path = rootPath ∨ path = refreshPath

theorem paths_length : rootPath.length < refreshPath.length := by decide

theorem cookieValue_access {jar : CookieJar} (h : TwoPaths jar) :
    cookieValue jar accessCookie =
      (jar.get? (accessCookie, refreshPath)).or (jar.get? (accessCookie, rootPath)) := by
  cases hv : cookieValue jar accessCookie with
  | none => rw [cookieValue_none hv, cookieValue_none hv, Option.or_none]
  | some v =>
    obtain ⟨path, hp, hmax⟩ := cookieValue_some hv
    rcases h path v hp with rfl | rfl
    · have hnone : jar.get? (accessCookie, refreshPath) = none := by
        cases hg : jar.get? (accessCookie, refreshPath) with
        | none => rfl
        | some w =>
          have hle := hmax refreshPath w hg
          have hlt := paths_length
          omega
      rw [hnone, hp, Option.none_or]
    · rw [hp, Option.some_or]

theorem refresh_ne_access (p q : PyStr) : (refreshCookie, p) ≠ (accessCookie, q) := by
  intro h
  have hne : refreshCookie ≠ accessCookie := by decide
  exact hne (Prod.mk.inj h).1

theorem get?_capture (jar : CookieJar) (r : SessionResponse) (path : PyStr) :
    (capture jar r).get? (accessCookie, path) =
      if path = r.kind.accessPath then r.setAccess.or (jar.get? (accessCookie, path))
      else jar.get? (accessCookie, path) := by
  have hrefresh : ∀ (d : CookieJar) (v : PyStr),
      (d.set (refreshCookie, refreshPath) v).get? (accessCookie, path) = d.get? (accessCookie, path) :=
    fun d v => Dict.get?_set_ne d v (refresh_ne_access _ _)
  have haccess : ∀ v, (jar.set (accessCookie, r.kind.accessPath) v).get? (accessCookie, path) =
      if path = r.kind.accessPath then some v else jar.get? (accessCookie, path) := by
    intro v
    rw [Dict.get?_set]
    by_cases hpath : path = r.kind.accessPath
    · simp [hpath]
    · have hne : (accessCookie, r.kind.accessPath) ≠ (accessCookie, path) := by
        intro h
        exact hpath (Prod.mk.inj h).2.symm
      rw [if_neg hne, if_neg hpath]
  unfold capture
  cases r.setAccess with
  | none => cases r.setRefresh <;> simp [hrefresh]
  | some v => cases r.setRefresh <;> simp [hrefresh, haccess]

theorem accessPath_cases (k : ResponseKind) : k.accessPath = rootPath ∨ k.accessPath = refreshPath := by
  cases k with
  | refresh => exact Or.inr rfl
  | login | verifyMfa | ssoComplete => exact Or.inl rfl

theorem twoPaths_capture {jar : CookieJar} (h : TwoPaths jar) (r : SessionResponse) :
    TwoPaths (capture jar r) := by
  intro path v hv
  rw [get?_capture] at hv
  split at hv
  · next hpath =>
    rw [hpath]
    exact accessPath_cases r.kind
  · exact h path v hv

/-! ### One answer -/

variable {H : HttpPlatform} {s : ClientState} {r : SessionResponse} {w : PyStr}
  {claims : List (PyStr × Json)}

theorem handled_status (h : r.handled = true) (hk : r.kind ≠ .refresh) : r.http.status = 200 := by
  cases hkind : r.kind with
  | refresh => exact absurd hkind hk
  | login | verifyMfa | ssoComplete =>
    simp only [SessionResponse.handled, hkind, Bool.and_eq_true, decide_eq_true_eq] at h
    first | exact h.1 | exact h

/-- A handler that is called adopts the token of the jar's cookie if its claims decode. -/
theorem respond_adopts (hr : r.handled = true) (hstatus : r.http.status = 200)
    (hv : cookieValue (capture s.jar r) accessCookie = some w) (hne : w ≠ [])
    (hd : decodeUnverifiedClaims H.toPlatform w = .ok claims) :
    (respond H s r).1 = some (.ok ()) ∧
      (respond H s r).2.guard.cachedAccess = some w ∧
      (respond H s r).2.resolvedTenantId = cached (Json.get claims (lit "tenant_id")) s.resolvedTenantId ∧
      (respond H s r).2.resolvedOrgId =
        if r.kind = .refresh then s.resolvedOrgId
        else cached (Json.get claims (lit "org_id")) s.resolvedOrgId := by
  cases w with
  | nil => exact absurd rfl hne
  | cons c w =>
    by_cases hk : r.kind = .refresh
    · simp [respond, handleRefreshResponse, hr, hk, hstatus, hv, hd, RefreshGuard.seed]
    · simp [respond, absorbSessionCookies, hr, hk, hv, hd, RefreshGuard.seed]

theorem respond_raises (hr : r.handled = true) (hstatus : r.http.status = 200)
    (hv : cookieValue (capture s.jar r) accessCookie = some w) (hne : w ≠ []) {e : Exc}
    (hd : decodeUnverifiedClaims H.toPlatform w = .error e) :
    (respond H s r).1 = some (.error e) := by
  cases w with
  | nil => exact absurd rfl hne
  | cons c w =>
    by_cases hk : r.kind = .refresh
    · simp [respond, handleRefreshResponse, hr, hk, hstatus, hv, hd]
    · simp [respond, absorbSessionCookies, hr, hk, hv, hd]

/-- Without a value in the jar it raises `AuthError`. -/
theorem respond_missing (hr : r.handled = true) (hstatus : r.http.status = 200)
    (hv : ∀ v, cookieValue (capture s.jar r) accessCookie = some v → v = []) :
    ∃ message, (respond H s r).1 = some (.error (.authError message none)) := by
  by_cases hk : r.kind = .refresh
  · cases hc : cookieValue (capture s.jar r) accessCookie with
    | none => simp [respond, handleRefreshResponse, hr, hk, hstatus, hc]
    | some v =>
      obtain rfl := hv v hc
      simp [respond, handleRefreshResponse, hr, hk, hstatus, hc]
  · cases hc : cookieValue (capture s.jar r) accessCookie with
    | none => simp [respond, absorbSessionCookies, hr, hk, hc]
    | some v =>
      obtain rfl := hv v hc
      simp [respond, absorbSessionCookies, hr, hk, hc]

theorem respond_unhandled (hr : r.handled = false) : (respond H s r).1 = none := by
  simp [respond, hr]

theorem respond_status (hr : r.handled = true) (hstatus : r.http.status ≠ 200) :
    (respond H s r).1 ≠ some (.ok ()) := by
  have hk : r.kind = .refresh := by
    by_contra hk
    exact hstatus (handled_status hr hk)
  simp [respond, handleRefreshResponse, hr, hk, hstatus]

/-- What a handler that returns has cached: the token that the jar's cookie holds. -/
theorem respond_ok (h : (respond H s r).1 = some (.ok ())) :
    r.handled = true ∧ r.http.status = 200 ∧
      ∃ w, cookieValue (capture s.jar r) accessCookie = some w ∧ Adoptable H.toPlatform w := by
  have hr : r.handled = true := by
    by_contra hr
    rw [respond_unhandled (by simpa using hr)] at h
    cases h
  have hstatus : r.http.status = 200 := by
    by_contra hstatus
    exact respond_status hr hstatus h
  refine ⟨hr, hstatus, ?_⟩
  by_contra hno
  push Not at hno
  by_cases hv : ∀ v, cookieValue (capture s.jar r) accessCookie = some v → v = []
  · obtain ⟨message, hm⟩ := respond_missing (H := H) hr hstatus hv
    rw [hm] at h
    cases h
  · push Not at hv
    obtain ⟨w, hw, hne⟩ := hv
    cases hd : decodeUnverifiedClaims H.toPlatform w with
    | ok claims => exact hno w hw ⟨hne, claims, hd⟩
    | error e =>
      rw [respond_raises hr hstatus hw hne hd] at h
      cases h

/-! ### When the adopted token is the answer's own -/

/-- The jar's token after an answer that sets one: its own, unless an older one is held at the
refresh path. -/
theorem cookieValue_capture (h : TwoPaths s.jar) {v : PyStr} (hv : r.setAccess = some v) :
    cookieValue (capture s.jar r) accessCookie =
      if r.kind = .refresh then some v
      else (s.jar.get? (accessCookie, refreshPath)).or (some v) := by
  have hne : refreshPath ≠ rootPath := by decide
  rw [cookieValue_access (twoPaths_capture h r), get?_capture, get?_capture, hv]
  by_cases hk : r.kind = .refresh
  · simp [hk, ResponseKind.accessPath]
  · have hroot : r.kind.accessPath = rootPath := by
      cases hkind : r.kind with
      | refresh => exact absurd hkind hk
      | login | verifyMfa | ssoComplete => rfl
    simp [hk, hroot, hne]

theorem cookieValue_capture_none (h : TwoPaths s.jar) (hv : r.setAccess = none) :
    cookieValue (capture s.jar r) accessCookie = cookieValue s.jar accessCookie := by
  rw [cookieValue_access (twoPaths_capture h r), cookieValue_access h, get?_capture, get?_capture, hv]
  simp

theorem adoptsOwn_iff (h : TwoPaths s.jar) : AdoptsOwn H s r ↔ NoOlderToken H s r := by
  cases hset : r.setAccess with
  | some v =>
    have hcookie := cookieValue_capture h hset
    simp only [AdoptsOwn, NoOlderToken, hset]
    constructor
    · intro hown hr hstatus hk w hw hadopt
      rw [if_neg hk, hw, Option.some_or] at hcookie
      obtain ⟨hne, claims, hd⟩ := hadopt
      obtain ⟨hok, hcached, -⟩ := respond_adopts (s := s) hr hstatus hcookie hne hd
      obtain ⟨_, _, hv, -⟩ := hown hok
      exact Option.some.inj (hcached.symm.trans hv)
    · intro hcond hok
      obtain ⟨hr, hstatus, w, hw, hadopt⟩ := respond_ok hok
      have hwv : w = v := by
        by_cases hk : r.kind = .refresh
        · rw [hcookie, if_pos hk] at hw
          exact (Option.some.inj hw).symm
        · rw [hcookie, if_neg hk] at hw
          cases hold : s.jar.get? (accessCookie, refreshPath) with
          | none =>
            rw [hold, Option.none_or] at hw
            exact (Option.some.inj hw).symm
          | some u =>
            rw [hold, Option.some_or] at hw
            obtain rfl := Option.some.inj hw
            exact hcond hr hstatus hk u hold hadopt
      subst hwv
      obtain ⟨hne, claims, hd⟩ := hadopt
      exact ⟨claims, hd, (respond_adopts hr hstatus hw hne hd).2⟩
  | none =>
    have hcookie := cookieValue_capture_none h hset
    simp only [AdoptsOwn, NoOlderToken, hset]
    constructor
    · intro hown hr hstatus v hv hne
      obtain ⟨message, hm⟩ := hown hr hstatus
      rw [← hcookie] at hv
      cases hd : decodeUnverifiedClaims H.toPlatform v with
      | ok claims =>
        rw [(respond_adopts hr hstatus hv hne hd).1] at hm
        cases hm
      | error e =>
        rw [respond_raises hr hstatus hv hne hd] at hm
        obtain rfl : e = .authError message none := by simpa using hm
        exact ⟨message, rfl⟩
    · intro hcond hr hstatus
      by_cases hempty : ∀ v, cookieValue (capture s.jar r) accessCookie = some v → v = []
      · exact respond_missing hr hstatus hempty
      · push Not at hempty
        obtain ⟨v, hv, hne⟩ := hempty
        obtain ⟨message, hd⟩ := hcond hr hstatus v (hcookie ▸ hv) hne
        exact ⟨message, respond_raises hr hstatus hv hne hd⟩

theorem absorbSessionCookies_jar (P : Platform) (s : ClientState) :
    (absorbSessionCookies P s).2.jar = s.jar := by
  unfold absorbSessionCookies
  split
  · rfl
  · rfl
  · split
    · rfl
    · rfl

theorem handleRefreshResponse_jar (H : HttpPlatform) (s : ClientState) (answer : HttpResponse) :
    (handleRefreshResponse H s answer).2.jar = s.jar := by
  unfold handleRefreshResponse
  split
  · split
    · rfl
    · rfl
    · split
      · rfl
      · rfl
  · rfl

theorem respond_jar (H : HttpPlatform) (s : ClientState) (r : SessionResponse) :
    (respond H s r).2.jar = capture s.jar r := by
  simp only [respond]
  split
  · split
    · have hjar := handleRefreshResponse_jar H { s with jar := capture s.jar r } r.http
      split
      · next heq =>
        rw [heq] at hjar
        exact hjar
      · next heq =>
        rw [heq] at hjar
        exact hjar
    · exact absorbSessionCookies_jar H.toPlatform { s with jar := capture s.jar r }
  · rfl

/-- **The adopted session is the answer's own.** Along a history of answers over one session, every
handler that returns caches the token the answer set and its tenant and organization, and one whose
answer set none raises `AuthError`, exactly when the jar never holds an older token that is read in
its place. -/
theorem adoption_is_own (H : HttpPlatform) (orgId : Json) (answers : List SessionResponse) :
    Run.Always (fnStep (sessionStep H)) (ClientState.start orgId) answers (AdoptsOwn H) ↔
      Run.Always (fnStep (sessionStep H)) (ClientState.start orgId) answers (NoOlderToken H) := by
  have hstart : TwoPaths (ClientState.start orgId).jar := by
    intro path v hv
    cases hv
  refine Run.Always.congr (I := fun s => TwoPaths s.jar) hstart ?_ ?_
  · intro s r t h hs
    obtain rfl := Option.some.inj hs
    show TwoPaths (respond H s r).2.jar
    rw [respond_jar]
    exact twoPaths_capture h r
  · intro s r t h _
    exact adoptsOwn_iff h

namespace LoginAfterRefresh

def platform : HttpPlatform where
  interp := ⟨4300, 990, 990, fun _ => []⟩
  hmacSha256 _ _ := List.replicate 32 0
  fromIsoFormat _ := none
  parseFloat _ := none
  parsedateToDatetime _ := .error .valueError

/-- A token whose claims are the tenant `a`. -/
def first : PyStr := lit "h.eyJ0ZW5hbnRfaWQiOiJhIn0.s"

/-- A token whose claims are the tenant `b`. -/
def second : PyStr := lit "h.eyJ0ZW5hbnRfaWQiOiJiIn0.s"

def answer (kind : ResponseKind) (access : PyStr) : SessionResponse :=
  ⟨kind, ⟨200, [], none, 0⟩, some access, none, true⟩

/-- The client after a login and a refresh that set `first`. -/
def state : ClientState :=
  (respond platform (respond platform (ClientState.start .null) (answer .login first)).2
    (answer .refresh first)).2

theorem second_returns : (respond platform state (answer .login second)).1 = some (.ok ()) := by
  decide +kernel

theorem second_caches_first :
    (respond platform state (answer .login second)).2.guard.cachedAccess = some first := by
  decide +kernel

theorem tokens_differ : first ≠ second := by decide +kernel

end LoginAfterRefresh

open LoginAfterRefresh in
/-- After a login and a refresh, another login adopts the refreshed token, not the one it set. -/
theorem not_adoption_is_own :
    ¬ ∀ (H : HttpPlatform) (orgId : Json) (answers : List SessionResponse),
      Run.Always (fnStep (sessionStep H)) (ClientState.start orgId) answers (AdoptsOwn H) := by
  intro hall
  have hrun : Run (fnStep (sessionStep platform)) (ClientState.start .null)
      [answer .login first, answer .refresh first] state := Run.cons rfl (Run.single rfl)
  have hown := hall platform .null ([answer .login first, answer .refresh first] ++ [answer .login second])
    [answer .login first, answer .refresh first] (answer .login second) [] state _ rfl hrun rfl
  obtain ⟨_, _, hcached, -⟩ := hown second_returns
  rw [second_caches_first] at hcached
  exact tokens_differ (Option.some.inj hcached)

end AxiamSdk
