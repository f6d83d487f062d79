import AxiamSdk.Authz
import AxiamSdk.Lib.Runs
import AxiamSdk.Lib.SingleFlight
import AxiamSdk.Lib.Url

/-! # Refreshing a token set (`oidc_refresh` of `_client.py`, `_async_client.py` and `_oidc.py`)

* `tokenRequest`: the request that a call's arguments make; `Carries`: what it holds of them.
* `step`: any number of calls of one client, interleaved, for the threaded and the asyncio coalescer.
* `Attempted`: how an attempt can have ended, by what was sent and received for it.
* `oidc_refresh_serves_leader`: what a call returns is how the attempt that it led or joined ended. -/

namespace AxiamSdk.OidcRefresh
open PyLib
set_option autoImplicit false

/-! ## The token request -/

/-- What the token request and its answer read of an `OidcConfiguration`; `mtlsTokenEndpoint` is the
alias that it publishes for the token endpoint. -/
structure OidcConfiguration where
  issuer : PyStr
  tokenEndpoint : PyStr
  jwksUri : PyStr
  mtlsTokenEndpoint : Option PyStr

/-- `OidcTokenSet` -/
structure OidcTokenSet where
  accessToken : PyStr
  tokenType : PyStr
  expiresIn : ℤ
  scope : Option PyStr
  refreshToken : Option PyStr
  idToken : Option PyStr
  idClaims : Option (List (PyStr × Json))

/-- The client and what it calls: `mergeTenant` adds the `tenant_id` parameter to a URL, `buildRequest` is
the exception that building a form request raises, `handleTokenResponse` what is made of an answer. -/
structure OidcClient where
  clientId : Option PyStr
  clientSecret : Option PyStr
  presentsClientCertificate : Bool
  urlChecks : UrlChecks
  repr : PyStr → PyStr
  mergeTenant : PyStr → PyStr → Except Exc PyStr
  buildRequest : PyStr → List (PyStr × PyStr) → Option Exc
  handleTokenResponse : OidcConfiguration → HttpResponse → Except Exc OidcTokenSet

/-- The arguments of `oidc_refresh`. -/
structure RefreshArgs where
  refreshToken : PyStr
  scope : Option PyStr
  tenantId : Option PyStr
  configuration : Option OidcConfiguration

structure TokenRequest where
  url : PyStr
  form : List (PyStr × PyStr)

section Request
variable (C : OidcClient)

/-- `_require_oidc_client_id` -/
def requireOidcClientId : Except Exc PyStr :=
  match C.clientId with
  | none | some [] => .error (.authError
      (lit "this OIDC operation requires client_id to be configured at AxiamClient " ++
        lit "construction time (CONTRACT.md §12).") none)
  | some id => .ok id

/-- `_refresh_form` -/
def refreshForm (args : RefreshArgs) : Except Exc (List (PyStr × PyStr)) :=
  match requireOidcClientId C with
  | .error e => .error e
  | .ok clientId =>
    .ok ([(lit "grant_type", lit "refresh_token"), (lit "refresh_token", args.refreshToken),
        (lit "client_id", clientId)]
      ++ (C.clientSecret.map fun secret => (lit "client_secret", secret)).toList
      ++ (args.scope.map fun scope => (lit "scope", scope)).toList)

/-- `assert_usable_mtls_alias` -/
def assertUsableMtlsAlias (aliasUrl replaces : PyStr) : Except Exc Unit :=
  match urlsplit C.urlChecks aliasUrl with
  | none => .error .valueError
  | some parts =>
    if parts.scheme.isEmpty || parts.netloc.isEmpty then
      .error (.authError (lit "mtls_endpoint_aliases publishes " ++ C.repr aliasUrl ++
        lit ", which is not an absolute URL. Refusing rather than falling back to the top-level endpoint: " ++
        lit "this call presents a client certificate, and sending it to the front-channel host would " ++
        lit "authenticate nothing while appearing to work.") none)
    else
      match urlsplit C.urlChecks replaces with
      | none => .error .valueError
      | some replaced =>
        if replaced.scheme = lit "https" ∧ parts.scheme ≠ lit "https" then
          .error (.authError (lit "mtls_endpoint_aliases publishes " ++ C.repr aliasUrl ++
            lit ", whose scheme is " ++ C.repr parts.scheme ++
            lit ", in place of an https endpoint. That is a downgrade, and mutual TLS over cleartext is a " ++
            lit "contradiction; refusing rather than falling back to the top-level endpoint.") none)
        else .ok ()

/-- `_preferred_endpoint` of the token endpoint. -/
def preferredTokenEndpoint (cfg : OidcConfiguration) : Except Exc PyStr :=
  if C.presentsClientCertificate then
    match cfg.mtlsTokenEndpoint with
    | none => .ok cfg.tokenEndpoint
    | some aliasUrl =>
      match assertUsableMtlsAlias C aliasUrl cfg.tokenEndpoint with
      | .error e => .error e
      | .ok () => .ok (if aliasUrl.isEmpty then cfg.tokenEndpoint else aliasUrl)
  else .ok cfg.tokenEndpoint

def isHex (c : CodePoint) : Bool :=
  decide ((48 ≤ c.val ∧ c.val ≤ 57) ∨ (65 ≤ c.val ∧ c.val ≤ 70) ∨ (97 ≤ c.val ∧ c.val ≤ 102))

/-- `_UUID_RE.match`: its end anchor also matches before a final line feed. -/
def matchesUuidRe (s : PyStr) : Bool :=
  let body := if s.getLast? = some (ch '\n') then s.dropLast else s
  decide (body.length = 36) &&
    body.zipIdx.all fun (c, i) => if i ∈ [8, 13, 18, 23] then decide (c = ch '-') else isHex c

/-- `_resolve_oauth2_tenant_id`; `session` is the tenant that the session has resolved. -/
def resolveOauth2TenantId (explicit session : Option PyStr) : Except Exc PyStr :=
  let candidate := match explicit with
    | some (c :: cs) => c :: cs
    | _ => session.getD []
  if candidate.isEmpty then
    .error (.authError (lit "this operation requires a tenant_id UUID for the /oauth2 query parameter: " ++
      lit "pass tenant_id explicitly, or call login()/verify_mfa() first to resolve one " ++
      lit "from the session (CONTRACT.md §12.3 rule 4).") none)
  else if matchesUuidRe candidate then .ok candidate
  else .error (.authError (lit "tenant_id must be a UUID for the /oauth2 query parameter; a tenant slug " ++
    lit "cannot be substituted (CONTRACT.md §12.3 rule 4).") none)

/-- `_token_endpoint_url` -/
def tokenEndpointUrl (cfg : OidcConfiguration) (tenantId session : Option PyStr) : Except Exc PyStr :=
  match preferredTokenEndpoint C cfg with
  | .error e => .error e
  | .ok endpoint =>
    match resolveOauth2TenantId tenantId session with
    | .error e => .error e
    | .ok tenant => C.mergeTenant endpoint tenant

/-- The request of `do_refresh`, under a configuration. -/
def tokenRequest (session : Option PyStr) (args : RefreshArgs) (cfg : OidcConfiguration) :
    Except Exc TokenRequest :=
  match refreshForm C args with
  | .error e => .error e
  | .ok form =>
    match tokenEndpointUrl C cfg args.tenantId session with
    | .error e => .error e
    | .ok url =>
      match C.buildRequest url form with
      | some e => .error e
      | none => .ok ⟨url, form⟩

/-- The request carries the arguments: the refresh token, the scope if there is one, and the tenant if one
is given. -/
structure Carries (args : RefreshArgs) (request : TokenRequest) : Prop where
  refreshToken : ∀ v, (lit "refresh_token", v) ∈ request.form ↔ v = args.refreshToken
  scope : ∀ v, (lit "scope", v) ∈ request.form ↔ args.scope = some v
  tenantId : ∀ tenant, args.tenantId = some tenant → tenant ≠ [] →
    ∃ endpoint, C.mergeTenant endpoint tenant = .ok request.url

theorem resolve_explicit {tenant resolved : PyStr} {session : Option PyStr} (hne : tenant ≠ [])
    (h : resolveOauth2TenantId (some tenant) session = .ok resolved) : resolved = tenant := by
  cases tenant with
  | nil => exact absurd rfl hne
  | cons c cs =>
    unfold resolveOauth2TenantId at h
    simp only [List.isEmpty_cons, Bool.false_eq_true, if_false] at h
    split at h
    · exact (Except.ok.inj h).symm
    · cases h

theorem tokenRequest_carries {session : Option PyStr} {args : RefreshArgs} {cfg : OidcConfiguration}
    {request : TokenRequest} (h : tokenRequest C session args cfg = .ok request) : Carries C args request := by
  unfold tokenRequest at h
  split at h
  · cases h
  · next form hform =>
    split at h
    · cases h
    · next url hurl =>
      split at h
      · cases h
      · obtain rfl := Except.ok.inj h
        unfold refreshForm at hform
        split at hform
        · cases hform
        · next clientId _ =>
          obtain rfl := Except.ok.inj hform
          have hkeys : lit "refresh_token" ≠ lit "grant_type" ∧ lit "refresh_token" ≠ lit "client_id" ∧
              lit "refresh_token" ≠ lit "client_secret" ∧ lit "refresh_token" ≠ lit "scope" ∧
              lit "scope" ≠ lit "grant_type" ∧ lit "scope" ≠ lit "refresh_token" ∧
              lit "scope" ≠ lit "client_id" ∧ lit "scope" ≠ lit "client_secret" := by decide
          obtain ⟨h1, h2, h3, h4, h5, h6, h7, h8⟩ := hkeys
          constructor
          · intro v
            cases C.clientSecret <;> cases args.scope <;> simp [h1, h2, h3, h4]
          · intro v
            cases C.clientSecret <;> cases args.scope <;> simp [h5.symm, h6.symm, h7.symm, h8.symm, eq_comm]
          · intro tenant htenant hne
            unfold tokenEndpointUrl at hurl
            split at hurl
            · cases hurl
            · next endpoint _ =>
              split at hurl
              · cases hurl
              · next resolved hresolved =>
                rw [htenant] at hresolved
                rw [resolve_explicit hne hresolved] at hurl
                exact ⟨endpoint, hurl⟩

end Request

/-! ## The calls of one client -/

/-- `_SyncSingleFlight` or `_AsyncSingleFlight`. -/
inductive Mode
  | threaded
  | asyncio
  deriving DecidableEq

/-- How an attempt ends: with what its function returned or raised, or as a cancelled task. -/
inductive Outcome
  | result (r : Except Exc OidcTokenSet)
  | cancelled

def Outcome.isCancelled : Outcome → Bool
  | .result _ => false
  | .cancelled => true

/-- The threaded leader empties the slot itself; a cancelled task in the slot counts as absent. -/
def Mode.policy : Mode → SingleFlight.Policy Outcome
  | .threaded => ⟨fun _ => false, true⟩
  | .asyncio => ⟨Outcome.isCancelled, false⟩

/-- How far an attempt has come: waiting for the guard, holding it, with its configuration, with its
request on the wire. -/
inductive Progress
  | queued
  | guarded
  | configured (cfg : OidcConfiguration)
  | sent (cfg : OidcConfiguration) (request : TokenRequest)

/-- Who holds the refresh guard: an attempt, or a refresh of the cookie session. -/
inductive Holder
  | attempt (f : ℕ)
  | sessionRefresh
  deriving DecidableEq

/-- What happened to attempt `f` outside the client. -/
inductive Record
  | discovered (f : ℕ) (outcome : Except Exc OidcConfiguration)
  | sent (f : ℕ) (request : TokenRequest)
  | answered (f : ℕ) (request : TokenRequest) (response : HttpResponse)
  | lost (f : ℕ) (request : TokenRequest) (error : TransportError)
  | interrupted (f : ℕ) (e : Exc)

structure State where
  flights : SingleFlight.State RefreshArgs Progress Outcome
  guard : Option Holder
  trace : List Record

def State.new : State := ⟨.new, none, []⟩

inductive Event
  | enter (c : ℕ) (args : RefreshArgs)
  | guardTaken
  | guardFreed
  | acquire (f : ℕ)
  | discover (f : ℕ) (outcome : Except Exc OidcConfiguration)
  | send (f : ℕ) (session : Option PyStr)
  | receive (f : ℕ) (response : HttpResponse)
  | lose (f : ℕ) (error : TransportError)
  | interrupt (f : ℕ) (e : Exc)
  | cancelTask (f : ℕ)
  | vacate (f : ℕ)
  | take (c : ℕ)
  | cancel (c : ℕ)

section System
variable (C : OidcClient) (mode : Mode) (s : State)

/-- The attempt ends, leaving the guard if it holds it. -/
def settle (f : ℕ) (outcome : Outcome) (record : Option Record) : Option State :=
  (SingleFlight.settle s.flights f outcome).map fun flights =>
    ⟨flights, if s.guard = some (.attempt f) then none else s.guard, record.toList ++ s.trace⟩

/-- The attempt goes on. -/
def advance (f : ℕ) (progress : Progress) (guard : Option Holder) (record : Option Record) : Option State :=
  (SingleFlight.advance s.flights f progress).map fun flights => ⟨flights, guard, record.toList ++ s.trace⟩

/-- The attempt that is under way. -/
def underWay (f : ℕ) : Option (RefreshArgs × Progress) :=
  match s.flights.flights f with
  | some ⟨_, asked, progress, none, _⟩ => some (asked, progress)
  | _ => none

def step (e : Event) : Option State :=
  match e with
  | .enter c args =>
    (SingleFlight.enter mode.policy s.flights c args .queued).map fun flights => { s with flights := flights }
  | .guardTaken => if s.guard = none then some { s with guard := some .sessionRefresh } else none
  | .guardFreed => if s.guard = some .sessionRefresh then some { s with guard := none } else none
  | .acquire f =>
    match underWay s f, s.guard with
    | some (_, .queued), none => advance s f .guarded (some (.attempt f)) none
    | _, _ => none
  | .discover f outcome =>
    match underWay s f with
    | some (asked, .guarded) =>
      match asked.configuration with
      | some cfg => advance s f (.configured cfg) s.guard none
      | none =>
        match outcome with
        | .ok cfg => advance s f (.configured cfg) s.guard (some (.discovered f outcome))
        | .error e => settle s f (.result (.error e)) (some (.discovered f outcome))
    | _ => none
  | .send f session =>
    match underWay s f with
    | some (asked, .configured cfg) =>
      match tokenRequest C session asked cfg with
      | .ok request => advance s f (.sent cfg request) s.guard (some (.sent f request))
      | .error e => settle s f (.result (.error e)) none
    | _ => none
  | .receive f response =>
    match underWay s f with
    | some (_, .sent cfg request) =>
      settle s f (.result (C.handleTokenResponse cfg response)) (some (.answered f request response))
    | _ => none
  | .lose f error =>
    match underWay s f with
    | some (_, .sent _ request) => settle s f (.result (.error error.exc)) (some (.lost f request error))
    | _ => none
  | .interrupt f e => settle s f (.result (.error e)) (some (.interrupted f e))
  | .cancelTask f =>
    match mode with
    | .threaded => none
    | .asyncio => settle s f .cancelled none
  | .vacate f => (SingleFlight.vacate s.flights f).map fun flights => { s with flights := flights }
  | .take c => (SingleFlight.take mode.policy s.flights c).map fun flights => { s with flights := flights }
  | .cancel c =>
    match mode with
    | .threaded => none
    | .asyncio => (SingleFlight.cancel s.flights c).map fun flights => { s with flights := flights }

/-! ## What a call is given -/

/-- The configuration of attempt `f` on these arguments: the one given, else one that was discovered. -/
def ConfiguredBy (trace : List Record) (f : ℕ) (args : RefreshArgs) (cfg : OidcConfiguration) : Prop :=
  args.configuration = some cfg ∨ (args.configuration = none ∧ .discovered f (.ok cfg) ∈ trace)

/-- Attempt `f` on these arguments can have ended so, by its trace: with what was made of an answer to a
token request that carries them, or with the failure of the discovery, of building the request or of
its exchange. -/
inductive Attempted (trace : List Record) (f : ℕ) (args : RefreshArgs) : Except Exc OidcTokenSet → Prop
  | answered (cfg : OidcConfiguration) (request : TokenRequest) (response : HttpResponse)
      (configured : ConfiguredBy trace f args cfg) (carries : Carries C args request) (sent : .sent f request ∈ trace)
      (received : .answered f request response ∈ trace) :
      Attempted trace f args (C.handleTokenResponse cfg response)
  | discovery (e : Exc) (needed : args.configuration = none) (failed : .discovered f (.error e) ∈ trace) :
      Attempted trace f args (.error e)
  | building (session : Option PyStr) (cfg : OidcConfiguration) (e : Exc)
      (configured : ConfiguredBy trace f args cfg) (failed : tokenRequest C session args cfg = .error e) : Attempted trace f args (.error e)
  | exchange (request : TokenRequest) (error : TransportError) (carries : Carries C args request)
      (failed : .lost f request error ∈ trace) : Attempted trace f args (.error error.exc)
  | interrupted (e : Exc) (failed : .interrupted f e ∈ trace) : Attempted trace f args (.error e)

/-- Every call is given how an attempt on its own arguments ended. -/
def ServesOwn : Prop :=
  ∀ c call r, s.flights.calls c = some call → call.phase = .done (.result r) →
    Attempted C s.trace call.flight call.asked r

/-- Every call is given how the attempt it led or joined ended, on the arguments of its leader. -/
def ServesLeader : Prop :=
  ∀ c call r, s.flights.calls c = some call → call.phase = .done (.result r) →
    ∃ fl lead, s.flights.flights call.flight = some fl ∧ s.flights.calls fl.leader = some lead ∧
      lead.flight = call.flight ∧ Attempted C s.trace call.flight lead.asked r

end System

/-! ## The invariant -/

section Proofs
variable {C : OidcClient} {mode : Mode} {s t : State} {e : Event}

theorem configuredBy_mono {trace trace' : List Record} (hle : ∀ r ∈ trace, r ∈ trace') {f : ℕ}
    {args : RefreshArgs} {cfg : OidcConfiguration} (h : ConfiguredBy trace f args cfg) :
    ConfiguredBy trace' f args cfg := by
  rcases h with h | ⟨hnone, h⟩
  · exact Or.inl h
  · exact Or.inr ⟨hnone, hle _ h⟩

theorem attempted_mono {trace trace' : List Record} (hle : ∀ r ∈ trace, r ∈ trace') {f : ℕ}
    {args : RefreshArgs} {r : Except Exc OidcTokenSet} (h : Attempted C trace f args r) :
    Attempted C trace' f args r := by
  cases h with
  | answered cfg request response configured carries sent received =>
    exact .answered cfg request response (configuredBy_mono hle configured) carries (hle _ sent) (hle _ received)
  | discovery e needed failed => exact .discovery e needed (hle _ failed)
  | building session cfg e configured failed =>
    exact .building session cfg e (configuredBy_mono hle configured) failed
  | exchange request error carries failed => exact .exchange request error carries (hle _ failed)
  | interrupted e failed => exact .interrupted e (hle _ failed)

/-- What an attempt under way has done for its arguments. -/
def ProgressOk (C : OidcClient) (trace : List Record) (f : ℕ) (args : RefreshArgs) : Progress → Prop
  | .queued | .guarded => True
  | .configured cfg => ConfiguredBy trace f args cfg
  | .sent cfg request => ConfiguredBy trace f args cfg ∧ Carries C args request ∧ .sent f request ∈ trace

theorem progressOk_mono {trace trace' : List Record} (hle : ∀ r ∈ trace, r ∈ trace') {f : ℕ}
    {args : RefreshArgs} {progress : Progress} (h : ProgressOk C trace f args progress) :
    ProgressOk C trace' f args progress := by
  cases progress with
  | queued => trivial
  | guarded => trivial
  | configured cfg => exact configuredBy_mono hle h
  | sent cfg request => exact ⟨configuredBy_mono hle h.1, h.2.1, hle _ h.2.2⟩

/-- An attempt is as far as its trace says, and has ended as it can have. -/
structure FlightOk (C : OidcClient) (mode : Mode) (trace : List Record) (f : ℕ)
    (fl : SingleFlight.Flight RefreshArgs Progress Outcome) : Prop where
  progress : fl.outcome = none → ProgressOk C trace f fl.asked fl.progress
  outcome : ∀ r, fl.outcome = some (.result r) → Attempted C trace f fl.asked r
  cancelled : mode = .threaded → fl.outcome ≠ some .cancelled

theorem flightOk_mono {trace trace' : List Record} (hle : ∀ r ∈ trace, r ∈ trace') {f : ℕ}
    {fl : SingleFlight.Flight RefreshArgs Progress Outcome} (h : FlightOk C mode trace f fl) :
    FlightOk C mode trace' f fl where
  progress := fun hnone => progressOk_mono hle (h.progress hnone)
  outcome := fun r hr => attempted_mono hle (h.outcome r hr)
  cancelled := h.cancelled

structure Inv (C : OidcClient) (mode : Mode) (s : State) : Prop where
  wf : SingleFlight.Wf s.flights
  flights : ∀ f fl, s.flights.flights f = some fl → FlightOk C mode s.trace f fl
  cancelled : mode = .threaded → ∀ c call, s.flights.calls c = some call → call.phase ≠ .cancelled

theorem inv_new : Inv C mode State.new where
  wf := SingleFlight.wf_new
  flights := by
    intro f fl hf
    cases hf
  cancelled := by
    intro _ c call hc
    cases hc

theorem inv_calls (hi : Inv C mode s) {flights : SingleFlight.State RefreshArgs Progress Outcome}
    {guard : Option Holder} (hwf : SingleFlight.Wf flights) (hflights : flights.flights = s.flights.flights)
    (hcalls : mode = .threaded → ∀ c call, flights.calls c = some call → call.phase ≠ .cancelled) :
    Inv C mode ⟨flights, guard, s.trace⟩ where
  wf := hwf
  flights := by
    intro f fl hf
    rw [hflights] at hf
    exact hi.flights f fl hf
  cancelled := hcalls

theorem inv_setFlight (hi : Inv C mode s) {f : ℕ}
    {flights : SingleFlight.State RefreshArgs Progress Outcome} (hwf : SingleFlight.Wf flights)
    {new : SingleFlight.Flight RefreshArgs Progress Outcome} {guard : Option Holder} {record : Option Record}
    (hset : flights = SingleFlight.setFlight s.flights f new)
    (hok : FlightOk C mode (record.toList ++ s.trace) f new) :
    Inv C mode ⟨flights, guard, record.toList ++ s.trace⟩ where
  wf := hwf
  flights := by
    intro f' fl hf
    rw [hset] at hf
    rcases SingleFlight.flights_setFlight hf with ⟨rfl, rfl⟩ | ⟨_, hf⟩
    · exact hok
    · exact flightOk_mono (fun r hr => List.mem_append_right _ hr) (hi.flights f' fl hf)
  cancelled := by
    intro hm c call hc
    rw [hset] at hc
    exact hi.cancelled hm c call hc

theorem inv_settle (hi : Inv C mode s) {f : ℕ} {outcome : Outcome} {record : Option Record}
    (h : settle s f outcome record = some t)
    (hresult : ∀ fl r, s.flights.flights f = some fl → outcome = .result r →
      Attempted C (record.toList ++ s.trace) f fl.asked r)
    (hcancelled : mode = .threaded → outcome ≠ .cancelled) : Inv C mode t := by
  obtain ⟨flights, hf, rfl⟩ := Option.map_eq_some_iff.1 h
  obtain ⟨fl, hfl, _, hset⟩ := SingleFlight.settle_eq hf
  refine inv_setFlight hi (SingleFlight.settle_wf hi.wf hf) hset ⟨?_, ?_, ?_⟩
  · intro hnone
    cases hnone
  · intro r hr
    exact hresult fl r hfl (Option.some.inj hr)
  · intro hm hc
    exact hcancelled hm (Option.some.inj hc)

theorem inv_advance (hi : Inv C mode s) {f : ℕ} {progress : Progress} {guard : Option Holder}
    {record : Option Record} (h : advance s f progress guard record = some t)
    (hprogress : ∀ fl, s.flights.flights f = some fl →
      ProgressOk C (record.toList ++ s.trace) f fl.asked progress) : Inv C mode t := by
  obtain ⟨flights, hf, rfl⟩ := Option.map_eq_some_iff.1 h
  obtain ⟨fl, hfl, hnone, hset⟩ := SingleFlight.advance_eq hf
  refine inv_setFlight hi (SingleFlight.advance_wf hi.wf hf) hset ⟨?_, ?_, ?_⟩
  · intro _
    exact hprogress fl hfl
  · intro r hr
    have hnone' : fl.outcome = some (.result r) := hr
    rw [hnone] at hnone'
    cases hnone'
  · exact (hi.flights f fl hfl).cancelled

theorem underWay_ok (hi : Inv C mode s) {f : ℕ} {asked : RefreshArgs} {progress : Progress}
    (h : underWay s f = some (asked, progress)) :
    ProgressOk C s.trace f asked progress ∧ ∀ fl, s.flights.flights f = some fl → fl.asked = asked := by
  unfold underWay at h
  split at h
  · next leader asked' progress' vacated hf =>
    obtain ⟨rfl, rfl⟩ : asked' = asked ∧ progress' = progress := by simpa using h
    refine ⟨(hi.flights f _ hf).progress rfl, fun fl hfl => ?_⟩
    rw [← Option.some.inj (hf.symm.trans hfl)]
  · cases h

theorem mem_record {record r : Record} {trace : List Record} (h : r = record ∨ r ∈ trace) :
    r ∈ (some record).toList ++ trace := by
  simpa using h

theorem inv_step (hi : Inv C mode s) (h : step C mode s e = some t) : Inv C mode t := by
  have htail : ∀ (record : Option Record) r, r ∈ s.trace → r ∈ record.toList ++ s.trace :=
    fun record r hr => List.mem_append_right _ hr
  cases e with
  | enter c args =>
    obtain ⟨flights, hf, rfl⟩ := Option.map_eq_some_iff.1 h
    refine ⟨SingleFlight.enter_wf hi.wf hf, ?_, ?_⟩
    · obtain ⟨_, ⟨f, fl, _, rfl⟩ | rfl⟩ := SingleFlight.enter_cases hf
      · exact hi.flights
      · intro f' fl' hf'
        rcases SingleFlight.flights_setFlight hf' with ⟨_, rfl⟩ | ⟨_, hf'⟩
        · exact ⟨fun _ => trivial, fun r hr => (by cases hr), fun _ hc => by cases hc⟩
        · exact hi.flights f' fl' hf'
    · intro hm c' call hc'
      obtain ⟨_, ⟨f, fl, _, rfl⟩ | rfl⟩ := SingleFlight.enter_cases hf
      · rcases SingleFlight.calls_setCall hc' with ⟨_, rfl⟩ | ⟨_, hc'⟩
        · simp
        · exact hi.cancelled hm c' call hc'
      · rcases SingleFlight.calls_setCall hc' with ⟨_, rfl⟩ | ⟨_, hc'⟩
        · simp
        · exact hi.cancelled hm c' call hc'
  | guardTaken =>
    simp only [step, Option.ite_none_right_eq_some, Option.some.injEq] at h
    obtain ⟨_, rfl⟩ := h
    exact ⟨hi.wf, hi.flights, hi.cancelled⟩
  | guardFreed =>
    simp only [step, Option.ite_none_right_eq_some, Option.some.injEq] at h
    obtain ⟨_, rfl⟩ := h
    exact ⟨hi.wf, hi.flights, hi.cancelled⟩
  | acquire f =>
    simp only [step] at h
    split at h
    · exact inv_advance hi h (fun _ _ => trivial)
    · cases h
  | discover f outcome =>
    simp only [step] at h
    split at h
    · next asked hunder =>
      obtain ⟨_, hasked⟩ := underWay_ok hi hunder
      split at h
      · next cfg hcfg =>
        refine inv_advance hi h (fun fl hfl => ?_)
        rw [hasked fl hfl]
        exact Or.inl hcfg
      · next hcfg =>
        split at h
        · next cfg =>
          refine inv_advance hi h (fun fl hfl => ?_)
          rw [hasked fl hfl]
          exact Or.inr ⟨hcfg, mem_record (Or.inl rfl)⟩
        · next e =>
          refine inv_settle hi h (fun fl r hfl hr => ?_) (fun _ hc => by cases hc)
          cases hr
          rw [hasked fl hfl]
          exact .discovery e hcfg (mem_record (Or.inl rfl))
    · cases h
  | send f session =>
    simp only [step] at h
    split at h
    · next asked cfg hunder =>
      obtain ⟨hok, hasked⟩ := underWay_ok hi hunder
      split at h
      · next request hrequest =>
        refine inv_advance hi h (fun fl hfl => ?_)
        rw [hasked fl hfl]
        exact ⟨configuredBy_mono (htail _) hok, tokenRequest_carries C hrequest, mem_record (Or.inl rfl)⟩
      · next e he =>
        refine inv_settle hi h (fun fl r hfl hr => ?_) (fun _ hc => by cases hc)
        cases hr
        rw [hasked fl hfl]
        exact .building session cfg e hok he
    · cases h
  | receive f response =>
    simp only [step] at h
    split at h
    · next asked cfg request hunder =>
      obtain ⟨⟨hcfg, hcarries, hsent⟩, hasked⟩ := underWay_ok hi hunder
      refine inv_settle hi h (fun fl r hfl hr => ?_) (fun _ hc => by cases hc)
      cases hr
      rw [hasked fl hfl]
      exact .answered cfg request response (configuredBy_mono (htail _) hcfg) hcarries (htail _ _ hsent)
        (mem_record (Or.inl rfl))
    · cases h
  | lose f error =>
    simp only [step] at h
    split at h
    · next asked cfg request hunder =>
      obtain ⟨⟨_, hcarries, _⟩, hasked⟩ := underWay_ok hi hunder
      refine inv_settle hi h (fun fl r hfl hr => ?_) (fun _ hc => by cases hc)
      cases hr
      rw [hasked fl hfl]
      exact .exchange request error hcarries (mem_record (Or.inl rfl))
    · cases h
  | interrupt f e =>
    refine inv_settle hi h (fun fl r hfl hr => ?_) (fun _ hc => by cases hc)
    cases hr
    exact .interrupted e (mem_record (Or.inl rfl))
  | cancelTask f =>
    cases mode with
    | threaded => cases h
    | asyncio => exact inv_settle hi h (fun fl r hfl hr => (by cases hr)) (fun hm => by cases hm)
  | vacate f =>
    obtain ⟨flights, hf, rfl⟩ := Option.map_eq_some_iff.1 h
    obtain ⟨fl, hfl, rfl⟩ := SingleFlight.vacate_eq hf
    refine ⟨SingleFlight.vacate_wf hi.wf hf, ?_, hi.cancelled⟩
    intro f' fl' hf'
    rcases SingleFlight.flights_setFlight hf' with ⟨rfl, rfl⟩ | ⟨_, hf'⟩
    · have hok := hi.flights _ fl hfl
      exact ⟨hok.progress, hok.outcome, hok.cancelled⟩
    · exact hi.flights f' fl' hf'
  | take c =>
    obtain ⟨flights, hf, rfl⟩ := Option.map_eq_some_iff.1 h
    have hwf := SingleFlight.take_wf hi.wf hf
    obtain ⟨call, fl, outcome, hc, _, _, rfl⟩ := SingleFlight.take_eq hf
    refine inv_calls hi hwf rfl (fun hm c' call' hc' => ?_)
    rcases SingleFlight.calls_setCall hc' with ⟨_, rfl⟩ | ⟨_, hc'⟩
    · simp
    · exact hi.cancelled hm c' call' hc'
  | cancel c =>
    cases mode with
    | threaded => cases h
    | asyncio =>
      obtain ⟨flights, hf, rfl⟩ := Option.map_eq_some_iff.1 h
      have hwf := SingleFlight.cancel_wf hi.wf hf
      obtain ⟨call, _, rfl⟩ := SingleFlight.cancel_eq hf
      exact inv_calls hi hwf rfl (fun hm => by cases hm)

/-- **What a call of `oidc_refresh` is given** is how the attempt that it led or joined ended, on the
arguments of the call that leads it; only asyncio tasks are cancelled. -/
theorem oidc_refresh_serves_leader {es : List Event} (h : Run (fnStep (step C mode)) State.new es s) :
    ServesLeader C s ∧ (mode = .threaded → ∀ c call, s.flights.calls c = some call →
      call.phase ≠ .cancelled ∧ call.phase ≠ .done .cancelled) := by
  have hi : Inv C mode s := h.invariant (fun _ _ _ hi hstep => inv_step hi hstep) inv_new
  constructor
  · intro c call r hc hdone
    obtain ⟨fl, hf, hout⟩ := hi.wf.joined c call hc
    obtain ⟨lead, hlead, hflight, hasked⟩ := hi.wf.led call.flight fl hf
    refine ⟨fl, lead, hf, hlead, hflight, ?_⟩
    rw [hasked]
    exact (hi.flights call.flight fl hf).outcome r (hout _ hdone)
  · intro hm c call hc
    refine ⟨hi.cancelled hm c call hc, fun hdone => ?_⟩
    obtain ⟨fl, hf, hout⟩ := hi.wf.joined c call hc
    exact (hi.flights call.flight fl hf).cancelled hm (hout _ hdone)

end Proofs

namespace TwoTokens

def configuration : OidcConfiguration := ⟨lit "iss", lit "https://op/token", lit "https://op/jwks", none⟩

def arguments (refreshToken : PyStr) : RefreshArgs :=
  ⟨refreshToken, none, some (lit "11111111-1111-1111-1111-111111111111"), some configuration⟩

def tokens : OidcTokenSet := ⟨lit "at", lit "Bearer", 60, none, none, none, none⟩

def client : OidcClient where
  clientId := some (lit "rp")
  clientSecret := none
  presentsClientCertificate := false
  urlChecks := ⟨fun _ => true, fun _ => true⟩
  repr := fun s => s
  mergeTenant := fun endpoint tenant => .ok (endpoint ++ lit "?tenant_id=" ++ tenant)
  buildRequest := fun _ _ => none
  handleTokenResponse := fun _ _ => .ok tokens

/-- Call 0 leads with one refresh token, call 1 joins with another. -/
def events : List Event :=
  [.enter 0 (arguments (lit "a")), .enter 1 (arguments (lit "b")), .acquire 0,
    .discover 0 (.ok configuration), .send 0 none, .receive 0 ⟨200, [], none, 0⟩, .vacate 0, .take 0, .take 1]

/-- The token that a request of the trace carries. -/
def Record.token : Record → Option PyStr
  | .answered _ request _ => (request.form.find? fun m => m.1 = lit "refresh_token").map Prod.snd
  | _ => none

/-- The refresh token that a call asked with, and the access token that it was given. -/
def given (s : State) (c : ℕ) : Option (PyStr × PyStr) :=
  match s.flights.calls c with
  | some ⟨asked, _, .done (.result (.ok set))⟩ => some (asked.refreshToken, set.accessToken)
  | _ => none

theorem events_run (mode : Mode) : ∃ s, Run (fnStep (step client mode)) State.new events s ∧
    given s 1 = some (lit "b", lit "at") ∧ s.trace.filterMap Record.token = [lit "a"] := by
  have hexec : ((exec (step client mode) State.new events).map fun s =>
      (given s 1, s.trace.filterMap Record.token)) = some (some (lit "b", lit "at"), [lit "a"]) := by
    cases mode <;> decide +kernel
  obtain ⟨s, hs, hread⟩ := Option.map_eq_some_iff.1 hexec
  exact ⟨s, exec_run hs, congrArg Prod.fst hread, congrArg Prod.snd hread⟩

end TwoTokens

open TwoTokens in
theorem two_tokens_serve_leader : ∃ s, Run (fnStep (step client .threaded)) State.new events s ∧
    given s 1 = some (lit "b", lit "at") ∧
    (ServesLeader client s ∧ (Mode.threaded = .threaded → ∀ c call, s.flights.calls c = some call →
      call.phase ≠ .cancelled ∧ call.phase ≠ .done .cancelled)) := by
  obtain ⟨s, hrun, hgiven, _⟩ := events_run .threaded
  exact ⟨s, hrun, hgiven, oidc_refresh_serves_leader hrun⟩

open TwoTokens in
/-- The call that joined returns tokens issued for the other call's refresh token. -/
theorem not_oidc_refresh_serves_own : ¬ ∀ (C : OidcClient) (mode : Mode) (es : List Event) (s : State),
    Run (fnStep (step C mode)) State.new es s → ServesOwn C s := by
  intro hall
  obtain ⟨s, hrun, hgiven, htrace⟩ := events_run .threaded
  have hown := hall client .threaded events s hrun
  unfold given at hgiven
  split at hgiven
  · next asked f set hcall =>
    obtain ⟨hasked, _⟩ : asked.refreshToken = lit "b" ∧ set.accessToken = lit "at" := by simpa using hgiven
    have hattempted := hown 1 _ _ hcall rfl
    generalize hr : (Except.ok set : Except Exc OidcTokenSet) = r at hattempted
    cases hattempted with
    | answered cfg request response _ carries _ received =>
      -- every answered request of the trace carries the first call's token
      have hb : (lit "refresh_token", lit "b") ∈ request.form := (carries.refreshToken _).2 hasked.symm
      have hfound : ∃ v, Record.token (.answered f request response) = some v := by
        have hsome : (request.form.find? fun m => m.1 = lit "refresh_token").isSome = true := by
          rw [List.find?_isSome]
          exact ⟨_, hb, by simp⟩
        obtain ⟨m, hm⟩ := Option.isSome_iff_exists.1 hsome
        exact ⟨m.2, by simp [Record.token, hm]⟩
      obtain ⟨v, hv⟩ := hfound
      have hmem : v ∈ s.trace.filterMap Record.token := List.mem_filterMap.2 ⟨_, received, hv⟩
      rw [htrace, List.mem_singleton] at hmem
      obtain ⟨m, hm, rfl⟩ := Option.map_eq_some_iff.1 hv
      have hkey : m.1 = lit "refresh_token" := by simpa using List.find?_some hm
      have hmform : (lit "refresh_token", m.2) ∈ request.form := by
        rw [← hkey]
        exact List.mem_of_find?_eq_some hm
      have hown' : m.2 = lit "b" := ((carries.refreshToken _).1 hmform).trans hasked
      rw [hmem] at hown'
      exact absurd hown' (by decide)
    | discovery _ _ _ => cases hr
    | building _ _ _ _ _ => cases hr
    | exchange _ _ _ _ => cases hr
    | interrupted _ _ => cases hr
  · cases hgiven

end AxiamSdk.OidcRefresh
