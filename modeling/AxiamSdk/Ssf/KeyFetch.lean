import Mathlib.Algebra.Order.Ring.Rat
import Mathlib.Tactic.Linarith
import AxiamSdk.Ssf.Receiver

/-! # The key fetches of an SSF receiver (`ssf/_receiver.py`)

* `KeyCache`: the JWKS cache with its once-a-minute limit; instants are rational seconds.
* `fetchJwks`, `keyFor`: the two paths to a fetch; `keySource` is what `judgeSet` looks a `kid` up in.
* `fetched_once_a_minute`: whatever SETs come, no fetch follows a forced or a failed one within the minute,
  as long as a fetch fails with a `NetworkError` or after its answer has been counted. -/

namespace AxiamSdk.Ssf
open PyLib
set_option autoImplicit false

/-! ## What is taken from outside -/

/-- `jwt.PyJWK(entry)`: a key, a `PyJWTError`, or another exception. -/
inductive JwkOutcome (Key : Type)
  | key (key : Key)
  | jwtError
  | escaped (e : Exc)

/-- Where the keys are: exactly one of `jwks_uri` and `discovery_url`. -/
inductive KeyLocation
  | jwksUri (url : PyStr)
  | discoveryUrl (url : PyStr)

/-- A receiver with the configuration of its key cache. `httpxUrl` gives the scheme and the host of a URL, `none` for one
that `httpx.URL` refuses. -/
structure KeyConfig (Key : Type) extends Receiver Key where
  location : KeyLocation
  httpxUrl : PyStr → Option (PyStr × PyStr)
  pyJwk : List (PyStr × Json) → JwkOutcome Key

/-- What a `GET` comes to: a response, an `httpx.TransportError`, or another exception. -/
inductive GetOutcome
  | response (status : ℕ) (body : Bytes)
  | transport (name text : PyStr)
  | escaped (e : Exc)

/-- The readings of the clock, and what the `GET`s of each fetch come to: that of the discovery document,
and that of the JWKS, for a forced fetch and for one that is not. -/
structure World where
  instant : ℕ → ℚ
  monotone : Monotone instant
  discovery : ℕ → GetOutcome
  jwks : Bool → ℕ → GetOutcome

variable {Key : Type}

/-! ## Documents -/

/-- `_JWKS_LIFESPAN_SECONDS` -/
def jwksLifespanSeconds : ℚ := 300

/-- `_FORCED_REFETCH_MIN_INTERVAL_SECONDS` -/
def forcedRefetchMinIntervalSeconds : ℚ := 60

/-- `_LOOPBACK_HOSTS` -/
def loopbackHosts : List PyStr := [lit "localhost", lit "127.0.0.1", lit "::1"]

def networkError {α : Type} (message : PyStr) : Except Exc α := .error (.networkError message none)

/-- `_check_url` -/
def checkUrl (C : KeyConfig Key) (label : String) (url : PyStr) : Except Exc PyStr :=
  match C.httpxUrl url with
  | none => networkError (lit label ++ lit " is not an absolute URL")
  | some (scheme, host) =>
    if lowerAscii scheme = lit "https" ∨ (lowerAscii scheme = lit "http" ∧ lowerAscii host ∈ loopbackHosts) then
      .ok url
    else networkError (lit label ++ lit " must be an https URL (http only on a loopback host)")

/-- `_get`, for the status and body of a response. -/
def GetOutcome.get : GetOutcome → Except Exc (ℕ × Bytes)
  | .response status body => .ok (status, body)
  | .transport name text => networkError (lit "ssf request failed: " ++ name ++ lit ": " ++ text)
  | .escaped e => .error e

/-- `response.is_success` -/
def isSuccess (status : ℕ) : Bool := decide (200 ≤ status ∧ status < 300)

/-- `response.json()`, its `ValueError` as a `NetworkError`. -/
def jsonBody (C : KeyConfig Key) (body : Bytes) (message : String) : Except Exc Json :=
  match C.platform.loads body with
  | .ok document => .ok document
  | .error e => if e.isValueError then networkError (lit message) else .error e

/-- The usable keys of a `keys` array, by `kid`. -/
def readEntries (C : KeyConfig Key) : List Json → Dict PyStr Key → Except Exc (Dict PyStr Key)
  | [], keys => .ok keys
  | entry :: rest, keys =>
    match entry.asObj? with
    | none => readEntries C rest keys
    | some members =>
      match (Json.get members (lit "kid")).asStr? with
      | none => readEntries C rest keys
      | some kid =>
        match C.pyJwk members with
        | .key key => readEntries C rest (keys.set kid key)
        | .jwtError => readEntries C rest keys
        | .escaped e => .error e

/-- The keys of a JWKS response, as `store_jwks` reads them. -/
def readJwks (C : KeyConfig Key) (status : ℕ) (body : Bytes) : Except Exc (Dict PyStr Key) := do
  if isSuccess status = false then networkError (lit "ssf: the JWKS fetch failed with HTTP " ++ JsonDumps.decDigits status)
  else
    let document ← jsonBody C body "ssf: the JWKS is not JSON"
    match Json.get (document.asObj?.getD []) (lit "keys") with
    | .arr entries => readEntries C entries Dict.empty
    | _ => networkError (lit "ssf: the JWKS has no keys array")

/-- `discovered_jwks_uri` -/
def discoveredJwksUri (C : KeyConfig Key) (status : ℕ) (body : Bytes) : Except Exc PyStr := do
  if isSuccess status = false then
    networkError (lit "ssf: the SSF configuration fetch failed with HTTP " ++ JsonDumps.decDigits status)
  else
    let document ← jsonBody C body "ssf: the SSF configuration is not JSON"
    let members := document.asObj?.getD []
    if (Json.get members (lit "issuer")).asStr? ≠ some C.issuer then
      networkError (lit "ssf: the SSF configuration's issuer is not the configured issuer")
    else
      match (Json.get members (lit "jwks_uri")).asStr? with
      | none => networkError (lit "ssf: the SSF configuration carries no jwks_uri")
      | some jwksUri => checkUrl C "jwks_uri" jwksUri

/-! ## The cache -/

/-- One entry into `_fetch_jwks`. -/
structure Fetch where
  entered : ℚ
  forced : Bool
  failed : Bool
  deriving DecidableEq

/-- The cache of `_ReceiverCore`, the number of clock readings so far, and the fetches (newest first). -/
structure KeyCache (Key : Type) where
  keys : Option (Dict PyStr Key)
  fetchedAt : ℚ
  lastForced : Option ℚ
  jwksUri : Option PyStr
  ticks : ℕ
  log : List Fetch

/-- A receiver before its first SET. -/
def KeyCache.start (C : KeyConfig Key) : KeyCache Key where
  keys := none
  fetchedAt := 0
  lastForced := none
  jwksUri := match C.location with
    | .jwksUri url => some url
    | .discoveryUrl _ => none
  ticks := 0
  log := []

section Cache
variable (C : KeyConfig Key) (W : World)

/-- `needs_fetch` -/
def needsFetch (k : KeyCache Key) : Bool × KeyCache Key :=
  match k.keys with
  | none => (true, k)
  | some _ => (decide (jwksLifespanSeconds ≤ W.instant k.ticks - k.fetchedAt), { k with ticks := k.ticks + 1 })

/-- `may_force` -/
def mayForce (k : KeyCache Key) : Bool × KeyCache Key :=
  match k.lastForced with
  | none => (true, k)
  | some last =>
    (decide (forcedRefetchMinIntervalSeconds ≤ W.instant k.ticks - last), { k with ticks := k.ticks + 1 })

/-- `note_failed_fetch` -/
def noteFailedFetch (k : KeyCache Key) : KeyCache Key :=
  { k with lastForced := some (W.instant k.ticks), ticks := k.ticks + 1 }

/-- `store_jwks` -/
def storeJwks (status : ℕ) (body : Bytes) (forced : Bool) (k : KeyCache Key) : Except Exc Unit × KeyCache Key :=
  let k := if forced then noteFailedFetch W k else k
  match readJwks C status body with
  | .error e => (.error e, k)
  | .ok keys => (.ok (), { k with keys := some keys, fetchedAt := W.instant k.ticks, ticks := k.ticks + 1 })

/-- The `jwks_uri`, read from the discovery document if it is not known yet. -/
def resolveUri (k : KeyCache Key) : Except Exc PyStr :=
  match k.jwksUri, C.location with
  | some uri, _ | none, .jwksUri uri => .ok uri
  | none, .discoveryUrl url => do
    let _ ← checkUrl C "discovery_url" url
    let response ← (W.discovery k.log.length).get
    discoveredJwksUri C response.1 response.2

/-- The body of `_fetch_jwks`. -/
def fetchBody (forced : Bool) (k : KeyCache Key) : Except Exc Unit × KeyCache Key :=
  match resolveUri C W k with
  | .error e => (.error e, k)
  | .ok uri =>
    let k := { k with jwksUri := some uri }
    match checkUrl C "jwks_uri" uri with
    | .error e => (.error e, k)
    | .ok _ =>
      match (W.jwks forced k.log.length).get with
      | .error e => (.error e, k)
      | .ok response => storeJwks C W response.1 response.2 forced k

/-- `_fetch_jwks`: a `NetworkError` counts. -/
def fetchJwks (forced : Bool) (k : KeyCache Key) : Except Exc Unit × KeyCache Key :=
  let entered := W.instant k.ticks
  match fetchBody C W forced { k with ticks := k.ticks + 1 } with
  | (.ok (), k) => (.ok (), { k with log := ⟨entered, forced, false⟩ :: k.log })
  | (.error e, k) =>
    let k := if e.isNetworkError then noteFailedFetch W k else k
    (.error e, { k with log := ⟨entered, forced, true⟩ :: k.log })

/-- `refuse_fetch_within_the_minute` -/
def refuseFetchWithinTheMinute {α : Type} : Except Exc α :=
  networkError (lit "ssf: the JWKS could not be fetched and the limit of one fetch a minute " ++
    lit "has not elapsed; no fetch was made")

/-- The fetch of an empty or expired cache. -/
def fill (k : KeyCache Key) : Except Exc Unit × KeyCache Key :=
  match needsFetch W k with
  | (false, k) => (.ok (), k)
  | (true, k) =>
    match mayForce W k with
    | (false, k) => (refuseFetchWithinTheMinute, k)
    | (true, k) => fetchJwks C W false k

/-- The refetch for a `kid` that the cache does not hold. -/
def refetch (kid : PyStr) (k : KeyCache Key) : Except Exc Unit × KeyCache Key :=
  if k.keys.any (fun keys => keys.contains kid) then (.ok (), k)
  else
    match mayForce W k with
    | (false, k) => (.ok (), k)
    | (true, k) => fetchJwks C W true k

/-- `_key_for` -/
def keyFor (k : KeyCache Key) (kid : PyStr) : Except Exc (Option Key) × KeyCache Key :=
  match fill C W k with
  | (.error e, k) => (.error e, k)
  | (.ok (), k) =>
    match refetch C W kid k with
    | (.error e, k) => (.error e, k)
    | (.ok (), k) => (.ok (k.keys.bind (fun keys => keys.get? kid)), k)

/-- The lookup that a receiver judges its SETs with. -/
def keySource : KeySource (KeyCache Key) Key := ⟨keyFor C W⟩

end Cache

/-! ## The limit -/

/-- A fetch that the limit counts. -/
def Fetch.counts (f : Fetch) : Prop := f.forced = true ∨ f.failed = true

/-- No fetch is entered within a minute of one that counts (newest first). -/
def OnceAMinute (log : List Fetch) : Prop :=
  log.Pairwise (fun later earlier => earlier.counts → 60 ≤ later.entered - earlier.entered)

/-- The request does not fail with an exception of its own. -/
def GetOutcome.Arrives : GetOutcome → Prop
  | .escaped e => e.isNetworkError = true
  | _ => True

/-- `json.loads` reads the body or raises a `ValueError`. -/
def Parses (C : KeyConfig Key) (body : Bytes) : Prop :=
  ∀ e, C.platform.loads body = .error e → e.isValueError = true

/-- The answer is a discovery document, or fails with a `NetworkError`. -/
def GetOutcome.Located (C : KeyConfig Key) : GetOutcome → Prop
  | .response status body => isSuccess status = true → Parses C body
  | .escaped e => e.isNetworkError = true
  | .transport _ _ => True

/-- The answer is a document that is stored, or fails with a `NetworkError`. -/
def GetOutcome.Stored (C : KeyConfig Key) : GetOutcome → Prop
  | .response status body => isSuccess status = true → Parses C body ∧
      ∀ document entries, C.platform.loads body = .ok document →
        Json.get (document.asObj?.getD []) (lit "keys") = .arr entries →
        ∀ entry ∈ entries, ∀ members kid, entry.asObj? = some members →
          (Json.get members (lit "kid")).asStr? = some kid → ∀ e, C.pyJwk members ≠ .escaped e
  | .escaped e => e.isNetworkError = true
  | .transport _ _ => True

/-- Every fetch succeeds, fails with a `NetworkError`, or is a forced one whose answer arrived. -/
structure World.Counted (W : World) (C : KeyConfig Key) : Prop where
  discovery : ∀ n, (W.discovery n).Located C
  fill : ∀ n, (W.jwks false n).Stored C
  refetch : ∀ n, (W.jwks true n).Arrives

section Limit
variable {C : KeyConfig Key} {W : World}

/-! ### Errors -/

theorem networkError_error {α : Type} {message : PyStr} {e : Exc} (h : (networkError message : Except Exc α) = .error e) :
    e.isNetworkError = true := by
  cases h
  rfl

theorem checkUrl_error {label : String} {url : PyStr} {e : Exc} (h : checkUrl C label url = .error e) :
    e.isNetworkError = true := by
  unfold checkUrl at h
  split at h
  · exact networkError_error h
  · split at h
    · cases h
    · exact networkError_error h

theorem get_error {outcome : GetOutcome} {e : Exc} (harrives : outcome.Arrives) (h : outcome.get = .error e) :
    e.isNetworkError = true := by
  cases outcome with
  | response status body => cases h
  | transport name text => exact networkError_error h
  | escaped e' =>
    cases h
    exact harrives

theorem get_ok {outcome : GetOutcome} {response : ℕ × Bytes} (h : outcome.get = .ok response) :
    outcome = .response response.1 response.2 := by
  cases outcome with
  | response status body =>
    cases h
    rfl
  | transport name text => cases h
  | escaped e => cases h

theorem GetOutcome.Stored.arrives {outcome : GetOutcome} (h : outcome.Stored C) : outcome.Arrives := by
  cases outcome with
  | response status body => exact trivial
  | transport name text => exact trivial
  | escaped e => exact h

theorem jsonBody_error {body : Bytes} {message : String} {e : Exc} (hparses : Parses C body)
    (h : jsonBody C body message = .error e) : e.isNetworkError = true := by
  unfold jsonBody at h
  split at h
  · cases h
  · next raised hraised =>
    rw [if_pos (hparses raised hraised)] at h
    exact networkError_error h

theorem jsonBody_ok {body : Bytes} {message : String} {document : Json} (h : jsonBody C body message = .ok document) :
    C.platform.loads body = .ok document := by
  unfold jsonBody at h
  split at h
  · next parsed hparsed =>
    rw [hparsed]
    exact h
  · split at h <;> cases h

theorem readEntries_ok {entries : List Json} {keys : Dict PyStr Key}
    (h : ∀ entry ∈ entries, ∀ members kid, entry.asObj? = some members →
      (Json.get members (lit "kid")).asStr? = some kid → ∀ e, C.pyJwk members ≠ .escaped e) :
    ∃ keys', readEntries C entries keys = .ok keys' := by
  induction entries generalizing keys with
  | nil => exact ⟨keys, rfl⟩
  | cons entry rest ih =>
    have hrest := fun entry' hentry' => h entry' (List.mem_cons_of_mem _ hentry')
    have hhead := h entry List.mem_cons_self
    rw [readEntries]
    split
    · exact ih hrest
    · next members hmembers =>
      split
      · exact ih hrest
      · next kid hkid =>
        split
        · exact ih hrest
        · exact ih hrest
        · next e he => exact absurd he (hhead members kid hmembers hkid e)

theorem readJwks_error {status : ℕ} {body : Bytes} {e : Exc} (hstored : (GetOutcome.response status body).Stored C)
    (h : readJwks C status body = .error e) : e.isNetworkError = true := by
  unfold readJwks at h
  split at h
  · exact networkError_error h
  · next hsuccess =>
    obtain ⟨hparses, hentries⟩ := hstored (by simpa using hsuccess)
    cases hbody : jsonBody C body "ssf: the JWKS is not JSON" with
    | error raised =>
      rw [hbody] at h
      cases h
      exact jsonBody_error hparses hbody
    | ok document =>
      rw [hbody] at h
      change (match Json.get (document.asObj?.getD []) (lit "keys") with
        | .arr entries => readEntries C entries Dict.empty
        | _ => networkError (lit "ssf: the JWKS has no keys array")) = .error e at h
      split at h
      · next entries hkeys =>
        obtain ⟨keys, hok⟩ : ∃ keys, readEntries C entries Dict.empty = .ok keys :=
          readEntries_ok (hentries document entries (jsonBody_ok hbody) hkeys)
        rw [hok] at h
        cases h
      · exact networkError_error h

theorem discoveredJwksUri_error {status : ℕ} {body : Bytes} {e : Exc}
    (hlocated : (GetOutcome.response status body).Located C) (h : discoveredJwksUri C status body = .error e) :
    e.isNetworkError = true := by
  unfold discoveredJwksUri at h
  split at h
  · exact networkError_error h
  · next hsuccess =>
    cases hbody : jsonBody C body "ssf: the SSF configuration is not JSON" with
    | error raised =>
      rw [hbody] at h
      cases h
      exact jsonBody_error (hlocated (by simpa using hsuccess)) hbody
    | ok document =>
      rw [hbody] at h
      change (if (Json.get (document.asObj?.getD []) (lit "issuer")).asStr? ≠ some C.issuer then _ else _) =
        Except.error e at h
      split at h
      · exact networkError_error h
      · split at h
        · exact networkError_error h
        · exact checkUrl_error h

theorem resolveUri_error (hW : W.Counted C) {k : KeyCache Key} {e : Exc} (h : resolveUri C W k = .error e) :
    e.isNetworkError = true := by
  unfold resolveUri at h
  split at h
  · cases h
  · cases h
  · next url _ _ =>
    have hlocated := hW.discovery k.log.length
    cases hurl : checkUrl C "discovery_url" url with
    | error raised =>
      rw [hurl] at h
      cases h
      exact checkUrl_error hurl
    | ok checked =>
      rw [hurl] at h
      cases hdiscovery : W.discovery k.log.length with
      | response status body =>
        rw [hdiscovery] at h hlocated
        exact discoveredJwksUri_error hlocated h
      | transport name text =>
        rw [hdiscovery] at h
        exact networkError_error h
      | escaped raised =>
        rw [hdiscovery] at h hlocated
        cases h
        exact hlocated

/-! ### What a fetch does to the counter -/

/-- No fetch is logged, the clock is read on, and the counter is as it was or at one of the new readings. -/
structure Later (W : World) (k k' : KeyCache Key) : Prop where
  log : k'.log = k.log
  ticks : k.ticks ≤ k'.ticks
  lastForced : k'.lastForced = k.lastForced ∨
    ∃ n, k.ticks ≤ n ∧ n < k'.ticks ∧ k'.lastForced = some (W.instant n)

/-- The counter is at one of the new readings. -/
def CountedSince (W : World) (k k' : KeyCache Key) : Prop :=
  ∃ n, k.ticks ≤ n ∧ n < k'.ticks ∧ k'.lastForced = some (W.instant n)

theorem storeJwks_spec (status : ℕ) (body : Bytes) (forced : Bool) (k : KeyCache Key) :
    (storeJwks C W status body forced k).1 = (readJwks C status body).map (fun _ => ()) ∧
      Later W k (storeJwks C W status body forced k).2 ∧
      (forced = true → CountedSince W k (storeJwks C W status body forced k).2) := by
  unfold storeJwks
  cases forced with
  | false =>
    cases readJwks C status body with
    | error e => exact ⟨rfl, ⟨rfl, le_rfl, Or.inl rfl⟩, fun h => by cases h⟩
    | ok keys => exact ⟨rfl, ⟨rfl, Nat.le_succ _, Or.inl rfl⟩, fun h => by cases h⟩
  | true =>
    cases readJwks C status body with
    | error e =>
      have hcounted : CountedSince W k (noteFailedFetch W k) := ⟨k.ticks, le_rfl, Nat.lt_succ_self _, rfl⟩
      exact ⟨rfl, ⟨rfl, Nat.le_succ _, Or.inr hcounted⟩, fun _ => hcounted⟩
    | ok keys =>
      have hlt : k.ticks < k.ticks + 1 + 1 := by omega
      exact ⟨rfl, ⟨rfl, hlt.le, Or.inr ⟨k.ticks, le_rfl, hlt, rfl⟩⟩, fun _ => ⟨k.ticks, le_rfl, hlt, rfl⟩⟩

/-- What the body of a fetch does: a forced one that succeeds is counted, and one that fails is counted or
fails with a `NetworkError`. -/
theorem fetchBody_spec (hW : W.Counted C) (forced : Bool) (k : KeyCache Key) :
    Later W k (fetchBody C W forced k).2 ∧
      ((fetchBody C W forced k).1 = .ok () → forced = true → CountedSince W k (fetchBody C W forced k).2) ∧
      ∀ e, (fetchBody C W forced k).1 = .error e →
        e.isNetworkError = true ∨ CountedSince W k (fetchBody C W forced k).2 := by
  have hsame : ∀ uri, Later W k { k with jwksUri := uri } := fun uri => ⟨rfl, le_rfl, Or.inl rfl⟩
  unfold fetchBody
  split
  · next e hresolve =>
    refine ⟨⟨rfl, le_rfl, Or.inl rfl⟩, (fun h => by cases h), fun e' he' => Or.inl ?_⟩
    cases he'
    exact resolveUri_error hW hresolve
  · next uri _ =>
    dsimp only
    split
    · next e hcheck =>
      refine ⟨hsame _, (fun h => by cases h), fun e' he' => Or.inl ?_⟩
      cases he'
      exact checkUrl_error hcheck
    · split
      · next e hget =>
        refine ⟨hsame _, (fun h => by cases h), fun e' he' => Or.inl ?_⟩
        cases he'
        refine get_error ?_ hget
        cases forced with
        | true => exact hW.refetch _
        | false => exact (hW.fill _).arrives
      · next response hget =>
        obtain ⟨hresult, hlater, hcounted⟩ :=
          storeJwks_spec (C := C) (W := W) response.1 response.2 forced { k with jwksUri := some uri }
        refine ⟨⟨hlater.log, hlater.ticks, hlater.lastForced⟩, fun _ hforced => hcounted hforced, fun e he => ?_⟩
        cases forced with
        | true => exact Or.inr (hcounted rfl)
        | false =>
          rw [hresult] at he
          have hstored : (GetOutcome.response response.1 response.2).Stored C := by
            rw [← get_ok hget]
            exact hW.fill _
          cases hread : readJwks C response.1 response.2 with
          | error raised =>
            rw [hread] at he
            cases he
            exact Or.inl (readJwks_error hstored hread)
          | ok keys =>
            rw [hread] at he
            cases he

/-! ### The invariant -/

/-- The fetches so far keep the limit, and the counter stands for those that count. -/
structure Limited (W : World) (k : KeyCache Key) : Prop where
  spaced : OnceAMinute k.log
  past : ∀ f ∈ k.log, f.entered ≤ W.instant k.ticks
  counted : ∀ f ∈ k.log, f.counts → ∃ last, k.lastForced = some last ∧ f.entered ≤ last

/-- Another fetch keeps the limit at the next reading. -/
def MayFetch (W : World) (k : KeyCache Key) : Prop := ∀ f ∈ k.log, f.counts → 60 ≤ W.instant k.ticks - f.entered

theorem Limited.later {k k' : KeyCache Key} (h : Limited W k) (hlater : Later W k k') : Limited W k' where
  spaced := by
    rw [hlater.log]
    exact h.spaced
  past f hf := by
    rw [hlater.log] at hf
    exact (h.past f hf).trans (W.monotone hlater.ticks)
  counted f hf hcounts := by
    rw [hlater.log] at hf
    obtain hsame | ⟨n, hn, -, hlast⟩ := hlater.lastForced
    · rw [hsame]
      exact h.counted f hf hcounts
    · exact ⟨_, hlast, (h.past f hf).trans (W.monotone hn)⟩

theorem later_tick (k : KeyCache Key) : Later W k { k with ticks := k.ticks + 1 } :=
  ⟨rfl, Nat.le_succ _, Or.inl rfl⟩

theorem needsFetch_later (k : KeyCache Key) : Later W k (needsFetch W k).2 := by
  unfold needsFetch
  split
  · exact ⟨rfl, le_rfl, Or.inl rfl⟩
  · exact later_tick k

theorem mayForce_later (k : KeyCache Key) : Later W k (mayForce W k).2 := by
  unfold mayForce
  split
  · exact ⟨rfl, le_rfl, Or.inl rfl⟩
  · exact later_tick k

theorem Limited.mayForce {k k' : KeyCache Key} (h : Limited W k) (hmay : mayForce W k = (true, k')) :
    MayFetch W k' := by
  intro f hf hcounts
  have hlater := mayForce_later (W := W) k
  rw [hmay] at hlater
  rw [hlater.log] at hf
  obtain ⟨last, hlast, hle⟩ := h.counted f hf hcounts
  unfold Ssf.mayForce at hmay
  rw [hlast] at hmay
  obtain ⟨hminute, rfl⟩ := Prod.mk.inj hmay
  have helapsed : forcedRefetchMinIntervalSeconds ≤ W.instant k.ticks - last := of_decide_eq_true hminute
  have hnext : W.instant k.ticks ≤ W.instant (k.ticks + 1) := W.monotone (Nat.le_succ _)
  unfold forcedRefetchMinIntervalSeconds at helapsed
  show 60 ≤ W.instant (k.ticks + 1) - f.entered
  linarith

/-- **A fetch keeps the limit**, and is counted if it counts. -/
theorem Limited.fetchJwks (hW : W.Counted C) {k : KeyCache Key} (h : Limited W k) (hmay : MayFetch W k)
    (forced : Bool) : Limited W (fetchJwks C W forced k).2 := by
  have hlogged : ∀ (k' : KeyCache Key) (failed : Bool), Later W k k' → k.ticks < k'.ticks →
      (forced = true ∨ failed = true → ∃ last, k'.lastForced = some last ∧ W.instant k.ticks ≤ last) →
      Limited W { k' with log := ⟨W.instant k.ticks, forced, failed⟩ :: k'.log } := by
    intro k' failed hlater hticks hlast
    have hk' := h.later hlater
    refine ⟨?_, ?_, ?_⟩
    · refine List.pairwise_cons.2 ⟨fun f hf hcounts => ?_, hk'.spaced⟩
      rw [hlater.log] at hf
      exact hmay f hf hcounts
    · rintro f (_ | ⟨_, hf⟩)
      · exact W.monotone hticks.le
      · exact hk'.past f hf
    · rintro f (_ | ⟨_, hf⟩) hcounts
      · exact hlast hcounts
      · exact hk'.counted f hf hcounts
  have hsince : ∀ k', CountedSince W { k with ticks := k.ticks + 1 } k' →
      ∃ last, k'.lastForced = some last ∧ W.instant k.ticks ≤ last := by
    rintro k' ⟨n, hn, -, hlast⟩
    have hle : k.ticks ≤ n := by
      dsimp only at hn
      omega
    exact ⟨_, hlast, W.monotone hle⟩
  have hfrom : ∀ k', Later W { k with ticks := k.ticks + 1 } k' → Later W k k' ∧ k.ticks < k'.ticks := by
    rintro k' ⟨hlog, hticks, hlast⟩
    dsimp only at hticks
    refine ⟨⟨hlog, by omega, ?_⟩, by omega⟩
    obtain hsame | ⟨n, hn, hlt, hlast⟩ := hlast
    · exact Or.inl hsame
    · dsimp only at hn
      exact Or.inr ⟨n, by omega, hlt, hlast⟩
  obtain ⟨hlater, hok, herror⟩ := fetchBody_spec hW forced { k with ticks := k.ticks + 1 }
  unfold Ssf.fetchJwks
  generalize fetchBody C W forced { k with ticks := k.ticks + 1 } = outcome at hlater hok herror
  obtain ⟨result, k'⟩ := outcome
  obtain ⟨hlater', hticks⟩ := hfrom k' hlater
  cases result with
  | ok u =>
    refine hlogged k' false hlater' hticks (fun hcounts => ?_)
    have hforced : forced = true := by simpa using hcounts
    exact hsince k' (hok rfl hforced)
  | error e =>
    dsimp only
    cases hnetwork : e.isNetworkError with
    | true =>
      rw [if_pos rfl]
      refine hlogged (noteFailedFetch W k') true ?_ (by simp only [noteFailedFetch]; omega) (fun _ => ?_)
      · refine ⟨hlater'.log, by simp only [noteFailedFetch]; omega, Or.inr ⟨k'.ticks, hlater'.ticks, ?_, rfl⟩⟩
        simp only [noteFailedFetch]
        omega
      · exact ⟨_, rfl, W.monotone hlater'.ticks⟩
    | false =>
      rw [if_neg Bool.false_ne_true]
      refine hlogged k' true hlater' hticks (fun _ => ?_)
      obtain hnetwork' | hcounted := herror e rfl
      · rw [hnetwork] at hnetwork'
        cases hnetwork'
      · exact hsince k' hcounted

theorem Limited.fill (hW : W.Counted C) {k : KeyCache Key} (h : Limited W k) : Limited W (fill C W k).2 := by
  have hneeds := h.later (needsFetch_later k)
  unfold Ssf.fill
  generalize needsFetch W k = needs at hneeds
  obtain ⟨_ | _, k₁⟩ := needs
  · exact hneeds
  · have hlater := hneeds.later (mayForce_later k₁)
    dsimp only
    cases hmay : Ssf.mayForce W k₁ with
    | mk may k₂ =>
      rw [hmay] at hlater
      cases may with
      | false => exact hlater
      | true => exact hlater.fetchJwks hW (hneeds.mayForce hmay) false

theorem Limited.refetch (hW : W.Counted C) {k : KeyCache Key} (h : Limited W k) (kid : PyStr) :
    Limited W (refetch C W kid k).2 := by
  unfold Ssf.refetch
  split
  · exact h
  · have hlater := h.later (mayForce_later k)
    cases hmay : Ssf.mayForce W k with
    | mk may k₁ =>
      rw [hmay] at hlater
      cases may with
      | false => exact hlater
      | true => exact hlater.fetchJwks hW (h.mayForce hmay) true

theorem Limited.keyFor (hW : W.Counted C) {k : KeyCache Key} (h : Limited W k) (kid : PyStr) :
    Limited W (keyFor C W k kid).2 := by
  have hfill := h.fill hW
  unfold Ssf.keyFor
  generalize Ssf.fill C W k = filled at hfill
  obtain ⟨e | u, k₁⟩ := filled
  · exact hfill
  · have hrefetch := Limited.refetch hW hfill kid
    dsimp only at hrefetch ⊢
    generalize Ssf.refetch C W kid k₁ = refetched at hrefetch
    obtain ⟨e | u, k₂⟩ := refetched
    · exact hrefetch
    · exact hrefetch

/-- One SET presented to the receiver: what is left of it is the key cache. -/
def present (C : KeyConfig Key) (W : World) (k : KeyCache Key) (set : PyStr × Option PyStr) : KeyCache Key :=
  (judgeSet C.toReceiver (keySource C W) k set.1 set.2).2

theorem Limited.present (hW : W.Counted C) {k : KeyCache Key} (h : Limited W k) (set : PyStr × Option PyStr) :
    Limited W (present C W k set) := by
  unfold Ssf.present judgeSet
  split
  · exact h
  · next parsed _ =>
    have hkey := h.keyFor hW parsed.kid
    have hsource : (keySource C W).keyFor k parsed.kid = Ssf.keyFor C W k parsed.kid := rfl
    rw [hsource]
    generalize Ssf.keyFor C W k parsed.kid = looked at hkey
    obtain ⟨e | key, k'⟩ := looked
    · exact hkey
    · exact hkey

end Limit

namespace MalformedKey
open StoreDenied

/-- Keys at one URL, and a JWK whose coordinate is a number: `jwt.PyJWK` raises `TypeError`. -/
def config : KeyConfig Unit where
  toReceiver := receiver
  location := .jwksUri (lit "https://t/jwks")
  httpxUrl url := if url = lit "https://t/jwks" then some (lit "https", lit "t") else none
  pyJwk members := if (Json.get members (lit "x")).asInt? = some 5 then .escaped .typeError else .jwtError

def document : Bytes :=
  asciiBytes "\x7b\"keys\":[\x7b\"kid\":\"k\",\"kty\":\"OKP\",\"crv\":\"Ed25519\",\"x\":5\x7d]\x7d"

/-- The clock gains a second between two readings. -/
def seconds (n : ℕ) : ℚ := n

theorem seconds_mono : Monotone seconds := fun _ _ h => Nat.cast_le.2 h

def malformed : World := ⟨seconds, seconds_mono, fun _ => .transport [] [], fun _ _ => .response 200 document⟩

end MalformedKey

end AxiamSdk.Ssf
