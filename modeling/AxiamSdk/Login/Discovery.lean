import AxiamSdk.Http
import AxiamSdk.Lib.DoubleChecked
import AxiamSdk.Login.AuthorizationUrl

/-! # The discovery document (`oidc_discover` and `_DiscoveryCache`)

* `parseDiscoveryResponse`: what an answer of the discovery endpoint is taken for.
* `step`: callers of `oidc_discover` with their looks into the cache, the lock and the answers, in any order.
* `discover_serves_origin`: one request at a time, no document of another origin, none that is not fresh, and no
  request for an origin while its last document is. -/

namespace AxiamSdk.Login.Discovery
open PyLib
set_option autoImplicit false

/-! ## One cache -/

/-- `MIN_DISCOVERY_TTL_SECONDS` -/
def minDiscoveryTtlSeconds : Float := 300.0

/-- `discovery_ttl_seconds or MIN_DISCOVERY_TTL_SECONDS` -/
def givenTtl (discoveryTtlSeconds : Option Float) : Float :=
  match discoveryTtlSeconds with
  | none => minDiscoveryTtlSeconds
  | some ttl => if ttl == 0.0 then minDiscoveryTtlSeconds else ttl

/-- `max(ttl_seconds, MIN_DISCOVERY_TTL_SECONDS)` -/
def ttlOf (discoveryTtlSeconds : Option Float) : Float :=
  if givenTtl discoveryTtlSeconds < minDiscoveryTtlSeconds then minDiscoveryTtlSeconds
  else givenTtl discoveryTtlSeconds

/-- The platform, the model validation of a document, and the time to live that the client was given. -/
structure Discoverer where
  http : HttpPlatform
  modelValidate : Json → Except Exc OidcConfiguration
  ttlSeconds : Option Float

variable (D : Discoverer)

/-- `_parse_discovery_response` -/
def parseDiscoveryResponse (r : HttpResponse) : Except Exc OidcConfiguration :=
  if r.status ≠ 200 then .error (raisedForStatus D.http (lit "oidc discovery request failed") r)
  else
    match r.json D.http.toPlatform with
    | .error e => .error e
    | .ok document => D.modelValidate document

/-- What the request ends with: what sending it raises, or its answer. -/
def fetched (answer : Except Exc HttpResponse) : Except Exc OidcConfiguration :=
  match answer with
  | .error e => .error e
  | .ok r => parseDiscoveryResponse D r

/-! ## Callers -/

/-- A caller's first look, the second one under the lock, the answer to its request, and its cancellation while it
waits for the lock. -/
inductive Event
  | look (c : ℕ) (origin : PyStr) (now : Float)
  | acquire (c : ℕ) (now : Float)
  | answered (c : ℕ) (answer : Except Exc HttpResponse) (now : Float)
  | cancelled (c : ℕ)

abbrev State := DoubleChecked.State PyStr OidcConfiguration Float Exc

def Event.toCall : Event → DoubleChecked.Event PyStr OidcConfiguration Float Exc
  | .look c origin now => .look c origin now
  | .acquire c now => .acquire c now
  | .answered c answer now => .finish c (fetched D answer) now
  | .cancelled c => .abandon c

def expiry (now : Float) : Float := now + ttlOf D.ttlSeconds

def step (s : State) (e : Event) : Option State := DoubleChecked.step (expiry D) s (e.toCall D)

/-! ## What a cache does -/

theorem ttlOf_floor (ttlSeconds : Option Float) : ¬ ttlOf ttlSeconds < minDiscoveryTtlSeconds := by
  unfold ttlOf
  split
  · decide +kernel
  · assumption

theorem run_calls {es : List Event} {s : State} (h : Run (fnStep (step D)) DoubleChecked.State.new es s) :
    Run (fnStep (DoubleChecked.step (expiry D))) DoubleChecked.State.new (es.map (Event.toCall D)) s := by
  induction h with
  | nil => exact Run.nil _
  | snoc _ he ih =>
    rw [List.map_append]
    exact Run.snoc ih he

/-- What has been fetched is what a request was answered. -/
theorem log_answered {es : List Event} {s : State} (h : Run (fnStep (step D)) DoubleChecked.State.new es s)
    {f : DoubleChecked.Fetch PyStr OidcConfiguration Float Exc} (hf : f ∈ s.log) :
    ∃ answer, Event.answered f.call answer f.endedAt ∈ es ∧ f.outcome = fetched D answer := by
  obtain ⟨e, he, hcall⟩ := List.mem_map.1 (DoubleChecked.log_run (run_calls D h) f hf)
  cases e with
  | look c origin now => cases hcall
  | acquire c now => cases hcall
  | cancelled c => cases hcall
  | answered c answer now =>
    obtain ⟨rfl, houtcome, rfl⟩ := DoubleChecked.Event.finish.inj hcall
    exact ⟨answer, he, houtcome.symm⟩

/-- A fetch for the origin has been answered with 200 and a document that the model validation takes. -/
structure Answered (es : List Event) (f : DoubleChecked.Fetch PyStr OidcConfiguration Float Exc) (origin : PyStr)
    (document : OidcConfiguration) : Prop where
  origin : f.key = origin
  answer : ∃ r json, Event.answered f.call (.ok r) f.endedAt ∈ es ∧ r.status = 200 ∧
    r.json D.http.toPlatform = .ok json ∧ D.modelValidate json = .ok document

theorem answered_of_log {es : List Event} {s : State} (h : Run (fnStep (step D)) DoubleChecked.State.new es s)
    {f : DoubleChecked.Fetch PyStr OidcConfiguration Float Exc} (hf : f ∈ s.log) {document : OidcConfiguration}
    (houtcome : f.outcome = .ok document) : Answered D es f f.key document := by
  obtain ⟨answer, hmem, hfetched⟩ := log_answered D h hf
  rw [houtcome] at hfetched
  refine ⟨rfl, ?_⟩
  cases answer with
  | error e => cases hfetched
  | ok r =>
    simp only [fetched, parseDiscoveryResponse] at hfetched
    split at hfetched
    · cases hfetched
    · next hstatus =>
      split at hfetched
      · cases hfetched
      · next json hjson => exact ⟨r, json, hmem, not_not.1 hstatus, hjson, hfetched.symm⟩

/-- One call at most has a request out; what a call returns from the cache was fetched for its own origin and has
its time to live, of five minutes at least, ahead of it at the call's look; what a call has fetched it was
answered; and a request for an origin goes out only when the last document for it has outlived its time. -/
structure Serves (es : List Event) (s : State) : Prop where
  single : ∀ c c' origin origin' t t', s.phase c = .fetching origin t → s.phase c' = .fetching origin' t' → c = c'
  served : ∀ c origin document t, s.phase c = .served origin document t →
    ∃ f ∈ s.log, Answered D es f origin document ∧ t < f.endedAt + ttlOf D.ttlSeconds
  fetched : ∀ c origin document, s.phase c = .fetched origin (.ok document) →
    ∃ f ∈ s.log, f.call = c ∧ Answered D es f origin document
  spaced : ∀ pre f post document endedAt, s.log = pre ++ f :: post →
    DoubleChecked.lastOk pre f.key = some (document, endedAt) → ¬ f.lookedAt < endedAt + ttlOf D.ttlSeconds
  floor : ¬ ttlOf D.ttlSeconds < minDiscoveryTtlSeconds

/-- **`oidc_discover` in every run** of its callers. -/
theorem discover_serves_origin {es : List Event} {s : State}
    (h : Run (fnStep (step D)) DoubleChecked.State.new es s) : Serves D es s := by
  have hgood := DoubleChecked.good_run (run_calls D h)
  refine ⟨?_, ?_, ?_, ?_, ttlOf_floor D.ttlSeconds⟩
  · intro c c' origin origin' t t' hc hc'
    have howner := (hgood.owner c origin t hc).1
    rw [(hgood.owner c' origin' t' hc').1] at howner
    exact (Option.some.inj howner).symm
  · intro c origin document t hserved
    obtain ⟨f, hf, rfl, houtcome, hahead⟩ := hgood.served c origin document t hserved
    exact ⟨f, hf, answered_of_log D h hf houtcome, hahead⟩
  · intro c origin document hfetched
    obtain ⟨f, hf, hcall, rfl, houtcome⟩ := hgood.fetched c origin _ hfetched
    exact ⟨f, hf, hcall, answered_of_log D h hf houtcome⟩
  · intro pre f post document endedAt hlog hlast
    exact hgood.spaced pre f post hlog document endedAt hlast

namespace TwoCallers

def modelValidate (json : Json) : Except Exc OidcConfiguration :=
  match json.asObj? with
  | none => .error .valueError
  | some members =>
    match (Json.get members (lit "issuer")).asStr?, (Json.get members (lit "authorization_endpoint")).asStr? with
    | some issuer, some endpoint => .ok ⟨⟨issuer, lit "https://op/token", lit "https://op/jwks", none⟩, endpoint⟩
    | _, _ => .error .valueError

def discoverer : Discoverer where
  http := ⟨⟨⟨4300, 990, 990, fun _ => []⟩, fun _ _ => List.replicate 32 0, fun _ => none⟩, fun _ => none,
    fun _ => .error .valueError⟩
  modelValidate := modelValidate
  ttlSeconds := some 60.0

def origin : PyStr := lit "https://op:443"

def document : PyStr := lit "\x7b\"issuer\":\"https://op\",\"authorization_endpoint\":\"https://op/authorize\"\x7d"

def answer : HttpResponse := ⟨200, (encodeUtf8 document).getD [], none, 0⟩

/-- Call 1 waits while call 0 fetches; call 2 comes when the document has outlived its time. -/
def events : List Event :=
  [.look 0 origin 0.0, .look 1 origin 0.0, .acquire 0 1.0, .answered 0 (.ok answer) 2.0, .acquire 1 3.0,
    .look 2 origin 302.0, .acquire 2 303.0]

/-- The call was served from the cache, has fetched a document, or is fetching. -/
def outcomeOf (s : State) (c : ℕ) : Option ℕ :=
  match s.phase c with
  | .served .. => some 1
  | .fetched _ (.ok _) => some 2
  | .fetching .. => some 3
  | _ => none

theorem events_run : ∃ s, Run (fnStep (step discoverer)) DoubleChecked.State.new events s ∧
    [0, 1, 2].map (outcomeOf s) = [some 2, some 1, some 3] := by
  have hexec : (exec (step discoverer) DoubleChecked.State.new events).map (fun s => [0, 1, 2].map (outcomeOf s)) =
      some [some 2, some 1, some 3] := by
    decide +kernel
  obtain ⟨s, hs, hread⟩ := Option.map_eq_some_iff.1 hexec
  exact ⟨s, exec_run hs, hread⟩

end TwoCallers

open TwoCallers in
theorem two_callers_served : ∃ s, Run (fnStep (step discoverer)) DoubleChecked.State.new events s ∧
    [0, 1, 2].map (outcomeOf s) = [some 2, some 1, some 3] ∧ Serves discoverer events s := by
  obtain ⟨s, hrun, hread⟩ := events_run
  exact ⟨s, hrun, hread, discover_serves_origin discoverer hrun⟩

end AxiamSdk.Login.Discovery
