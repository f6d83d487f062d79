import AxiamSdk.Lib.Runs
import AxiamSdk.Login.AuthorizationUrl
import AxiamSdk.Login.StateStore
import AxiamSdk.Login.TokenSet

/-! # "Login with AXIAM" (`django/oidc.py`, `fastapi/__init__.py`)

* `startLogin`, `inspectCallback`, `exchange`: the two views, up to and from the calls on the store; both
  frameworks do the same.
* `step`: any number of logins and callbacks on one store, interleaved.
* `Serves`: an exchange redeems a login, through the first event that touched its state afterwards.
* `exchanges_serve_logins`: every exchange does, and no login is redeemed twice. -/

namespace AxiamSdk.Login
open PyLib
open OidcRefresh (TokenRequest)
set_option autoImplicit false

/-! ## The views -/

/-- The arguments of `oidc_login_views` and `oidc_login_router`. -/
structure Site (σ Key : Type) extends Exchanger σ Key where
  sha256 : Bytes → Bytes
  redirectUri : PyStr
  scope : ScopeArg
  tenantId : Option PyStr
  successRedirect : Option PyStr
  ttlSeconds : Float

/-- The query parameters of the callback. -/
structure CallbackParams where
  error : Option PyStr
  errorDescription : Option PyStr
  state : Option PyStr
  code : Option PyStr

/-- A request to the login view: what the discovery answers, what is drawn, and the readings of the clock. -/
structure LoginCall where
  returnTo : Option PyStr
  discovered : Except Exc OidcConfiguration
  drawn : Drawn
  sweptAt : Float
  savedAt : Float

/-- What an exchange meets: the discovery, the tenant of the session, the answer of the token endpoint, the
clocks, and what `on_success` raises. -/
structure ExchangeCall (σ : Type) where
  discovered : Except Exc OidcConfiguration
  session : Option PyStr
  answer : Except Exc HttpResponse
  moment : Moment σ
  hook : Option Exc

/-- A redirect, an error body with its status, the summary of a login, or an exception that no handler takes. -/
inductive Reply
  | redirect (location : PyStr)
  | refused (status : ℕ) (error message : PyStr)
  | signedIn (expiresIn : ℤ) (sub : Option PyStr)
  | raised (e : Exc)

/-- `httpx.HTTPError` or `NetworkError` -/
def unreachable : Exc → Bool
  | .networkError .. | .transport .. => true
  | _ => false

/-- `exc.message` of an `AuthError`. -/
def authMessage : Exc → PyStr
  | .authError message _ => message
  | .oauthProtocolError error description => error ++ lit ": " ++ description
  | .setVerificationError _ detail => detail
  | _ => []

/-- A text that Python takes for true. -/
def present (s : Option PyStr) : Option PyStr := s.filter (fun s => !s.isEmpty)

section Views
variable {σ Key : Type} (S : Site σ Key)

/-- The login view up to its `save`: the authorization request, and the entry to be saved. -/
def startLogin (l : LoginCall) : Except Exc (AuthorizationRequest × OidcStateEntry) := do
  let configuration ← l.discovered
  let request ← oidcBegin S.client S.sha256 configuration ⟨S.redirectUri, S.scope, Dict.empty, none⟩ l.drawn
  return (request, ⟨request.state, request.nonce, request.codeVerifier, S.redirectUri, l.returnTo⟩)

/-- What the login view answers. -/
def loginReply (started : Except Exc (AuthorizationRequest × OidcStateEntry)) : Reply :=
  match started with
  | .ok (request, _) => .redirect request.url
  | .error e =>
    if e.isAuthError || unreachable e then
      .refused 503 (lit "oidc_unavailable") (lit "could not start the OIDC login flow")
    else .raised e

/-- The callback view up to its `consume`: the state and the code. -/
def inspectCallback (params : CallbackParams) : Except Reply (PyStr × PyStr) :=
  match present params.error with
  | some error =>
    .error (.refused 401 (lit "authentication_failed")
      (match present params.errorDescription with
        | some description => error ++ lit ": " ++ description
        | none => error))
  | none =>
    match present params.state, present params.code with
    | some state, some code => .ok (state, code)
    | _, _ => .error (.refused 400 (lit "invalid_request")
        (lit "callback is missing the state or code query parameter"))

/-- The answer to a state for which nothing is pending. -/
def unknownState : Reply :=
  .refused 401 (lit "authentication_failed") (lit "unknown, expired, or already-used login state")

/-- The token request for the entry. -/
def tokenRequest (entry : OidcStateEntry) (code : PyStr) (session : Option PyStr) (cfg : OidcConfiguration) :
    Except Exc TokenRequest :=
  exchangeRequest S.client session S.tenantId code entry.codeVerifier entry.redirectUri
    cfg.toOidcConfiguration

/-- `client.oidc_exchange(...)`: what is discovered, sent and answered. -/
def exchangeTokens (entry : OidcStateEntry) (code : PyStr) (x : ExchangeCall σ) : Except Exc OidcTokenSet := do
  let cfg ← x.discovered
  let _ ← tokenRequest S entry code x.session cfg
  let response ← x.answer
  handleTokenResponse S.toExchanger response cfg.toOidcConfiguration (some entry.nonce) x.moment

/-- The end of the callback view. -/
def exchangeReply (entry : OidcStateEntry) (exchanged : Except Exc OidcTokenSet) (hook : Option Exc) : Reply :=
  match exchanged with
  | .error e =>
    if unreachable e then
      .refused 503 (lit "oidc_unavailable") (lit "the AXIAM token endpoint is unreachable")
    else if e.isAuthError then .refused 401 (lit "authentication_failed") (authMessage e)
    else .raised e
  | .ok tokens =>
    match hook with
    | some e => .raised e
    | none =>
      match (present S.successRedirect).or (present entry.returnTo) with
      | some destination => .redirect destination
      | none => .signedIn tokens.expiresIn (tokens.idClaims.map IdToken.IdTokenClaims.sub)

/-- An exchange that has been made: by which callback, what was posted, and what came of it. -/
structure Exchanged (σ : Type) where
  callback : ℕ
  call : ExchangeCall σ
  posted : Option TokenRequest
  tokens : Except Exc OidcTokenSet
  reply : Reply

def exchange (c : ℕ) (code : PyStr) (entry : OidcStateEntry) (x : ExchangeCall σ) : Exchanged σ where
  callback := c
  call := x
  posted := (x.discovered.bind (tokenRequest S entry code x.session)).toOption
  tokens := exchangeTokens S entry code x
  reply := exchangeReply S entry (exchangeTokens S entry code x) x.hook

end Views

/-! ## Logins and callbacks on one store -/

/-- A callback that has not come, that waits for its exchange, or that is answered. -/
inductive Phase
  | idle
  | exchanging (code : PyStr) (entry : OidcStateEntry)
  | answered

structure State (σ : Type) where
  store : MemoryOidcStateStore
  phase : ℕ → Phase
  log : List (Exchanged σ)

/-- A login, a callback up to its `consume`, the exchange of a callback, and a question for the size of the
store. -/
inductive Event (σ : Type)
  | login (l : LoginCall)
  | callback (c : ℕ) (params : CallbackParams) (now : Float)
  | exchange (c : ℕ) (x : ExchangeCall σ)
  | size (now : Float)

section System
variable {σ Key : Type} (S : Site σ Key)

def State.start : State σ := ⟨.new S.ttlSeconds, fun _ => .idle, []⟩

def State.setPhase (s : State σ) (c : ℕ) (p : Phase) : State σ :=
  { s with phase := fun d => if d = c then p else s.phase d }

/-- What the event does to the store. -/
def Event.op : Event σ → Option Op
  | .login l =>
    match startLogin S l with
    | .ok (_, entry) => some (.save entry l.sweptAt l.savedAt)
    | .error _ => none
  | .callback _ params now =>
    match inspectCallback params with
    | .ok (state, _) => some (.consume state now)
    | .error _ => none
  | .exchange .. => none
  | .size now => some (.size now)

def operate (s : State σ) (e : Event σ) : State σ :=
  match e.op S with
  | some op => { s with store := op.apply s.store }
  | none => s

def step (s : State σ) (e : Event σ) : Option (State σ) :=
  match e with
  | .login _ | .size _ => some (operate S s e)
  | .callback c params now =>
    match s.phase c with
    | .idle =>
      match inspectCallback params with
      | .error _ => some (s.setPhase c .answered)
      | .ok (state, code) =>
        match (s.store.consume state now).1 with
        | none => some ((operate S s e).setPhase c .answered)
        | some entry => some ((operate S s e).setPhase c (.exchanging code entry))
    | _ => none
  | .exchange c x =>
    match s.phase c with
    | .exchanging code entry =>
      some { s.setPhase c .answered with log := s.log ++ [exchange S c code entry x] }
    | _ => none

/-! ## One step -/

theorem operate_spec (s : State σ) (e : Event σ) :
    (operate S s e).store = ((e.op S).toList).foldl Op.apply s.store ∧
      (operate S s e).phase = s.phase ∧ (operate S s e).log = s.log := by
  unfold operate
  cases e.op S with
  | none => exact ⟨rfl, rfl, rfl⟩
  | some op => exact ⟨rfl, rfl, rfl⟩

/-- What an event does to the phases and to the log. -/
def Moves (s t : State σ) : Event σ → Prop
  | .login _ | .size _ => t.phase = s.phase ∧ t.log = s.log
  | .callback c params now => s.phase c = .idle ∧ t.log = s.log ∧ ∃ p, t.phase = (s.setPhase c p).phase ∧
      (p = .answered ∨ ∃ state code entry, inspectCallback params = .ok (state, code) ∧
        (s.store.consume state now).1 = some entry ∧ p = .exchanging code entry)
  | .exchange c x => t.phase = (s.setPhase c .answered).phase ∧
      ∃ code entry, s.phase c = .exchanging code entry ∧ t.log = s.log ++ [exchange S c code entry x]

theorem step_spec {s t : State σ} {e : Event σ} (h : step S s e = some t) :
    t.store = ((e.op S).toList).foldl Op.apply s.store ∧ Moves S s t e := by
  cases e with
  | login l =>
    obtain rfl := Option.some.inj h
    exact operate_spec S s _
  | size now =>
    obtain rfl := Option.some.inj h
    exact operate_spec S s _
  | exchange c x =>
    simp only [step] at h
    split at h
    · next code entry hphase =>
      obtain rfl := Option.some.inj h
      exact ⟨rfl, rfl, code, entry, hphase, rfl⟩
    · cases h
  | callback c params now =>
    simp only [step] at h
    split at h
    · next hidle =>
      split at h
      · next reply hinspect =>
        obtain rfl := Option.some.inj h
        have hop : Event.op S (.callback c params now) = none := by
          simp only [Event.op, hinspect]
        rw [hop]
        exact ⟨rfl, hidle, rfl, .answered, rfl, .inl rfl⟩
      · next state code hinspect =>
        obtain ⟨hstore, hphase, hlog⟩ := operate_spec S s (.callback c params now)
        split at h
        · obtain rfl := Option.some.inj h
          refine ⟨hstore, hidle, hlog, .answered, ?_, .inl rfl⟩
          simp only [State.setPhase, hphase]
        · next entry hconsume =>
          obtain rfl := Option.some.inj h
          refine ⟨hstore, hidle, hlog, .exchanging code entry, ?_,
            .inr ⟨state, code, entry, hinspect, hconsume, rfl⟩⟩
          simp only [State.setPhase, hphase]
    · cases h

/-! ## Runs -/

/-- What the events have done to the store, in their order. -/
def opsOf (es : List (Event σ)) : List Op := es.filterMap (Event.op S)

/-- The callback `c` stands at position `j`, and what it consumed is the entry. -/
def ConsumedAt (es : List (Event σ)) (j c : ℕ) (code : PyStr) (entry : OidcStateEntry) : Prop :=
  ∃ params now state, es[j]? = some (.callback c params now) ∧ inspectCallback params = .ok (state, code) ∧
    ((after S.ttlSeconds (opsOf S (es.take j))).consume state now).1 = some entry

/-- How the state tells what has happened: a callback comes once, and is exchanged once. -/
structure Tracks (es : List (Event σ)) (s : State σ) : Prop where
  store : s.store = after S.ttlSeconds (opsOf S es)
  exchanging : ∀ c code entry, s.phase c = .exchanging code entry → ∃ j, ConsumedAt S es j c code entry
  idle : ∀ c, s.phase c = .idle → ∀ params now, Event.callback c params now ∉ es
  log : ∀ x ∈ s.log, s.phase x.callback = .answered ∧
    ∃ j code entry, ConsumedAt S es j x.callback code entry ∧ x = exchange S x.callback code entry x.call
  once : (s.log.map Exchanged.callback).Nodup

theorem consumedAt_snoc {es : List (Event σ)} {j c : ℕ} {code : PyStr} {entry : OidcStateEntry} (e : Event σ)
    (h : ConsumedAt S es j c code entry) : ConsumedAt S (es ++ [e]) j c code entry := by
  obtain ⟨params, now, state, hj, hinspect, hconsume⟩ := h
  obtain ⟨hlt, -⟩ := List.getElem?_eq_some_iff.1 hj
  refine ⟨params, now, state, ?_, hinspect, ?_⟩
  · rwa [List.getElem?_append_left hlt]
  · rwa [List.take_append_of_le_length (Nat.le_of_lt hlt)]

theorem opsOf_snoc (es : List (Event σ)) (e : Event σ) : opsOf S (es ++ [e]) = opsOf S es ++ (e.op S).toList := by
  unfold opsOf
  rw [List.filterMap_append]
  cases hop : e.op S with
  | none => rw [List.filterMap_cons_none hop]; rfl
  | some op => rw [List.filterMap_cons_some hop]; rfl

theorem setPhase_phase (s : State σ) (c d : ℕ) (p : Phase) :
    (s.setPhase c p).phase d = if d = c then p else s.phase d :=
  rfl

/-- What the log says stays true when a callback that is not answered moves. -/
theorem tracked_setPhase {es : List (Event σ)} {s : State σ} (hs : Tracks S es s) (e : Event σ) {c : ℕ} {p : Phase}
    (hc : s.phase c ≠ .answered) :
    ∀ x ∈ s.log, (s.setPhase c p).phase x.callback = .answered ∧
      ∃ j code entry, ConsumedAt S (es ++ [e]) j x.callback code entry ∧
        x = exchange S x.callback code entry x.call := by
  intro x hx
  obtain ⟨hanswered, j, code, entry, hj, heq⟩ := hs.log x hx
  refine ⟨?_, j, code, entry, consumedAt_snoc S e hj, heq⟩
  rw [setPhase_phase, if_neg]
  · exact hanswered
  · intro hsame
    rw [hsame] at hanswered
    exact hc hanswered

theorem tracks_start : Tracks S [] (State.start S) := by
  refine ⟨rfl, ?_, ?_, ?_, List.nodup_nil⟩
  · intro c code entry hc
    cases hc
  · intro c _ params now hmem
    cases hmem
  · intro x hx
    cases hx

theorem tracks_step {es : List (Event σ)} {s t : State σ} {e : Event σ} (hs : Tracks S es s)
    (h : step S s e = some t) : Tracks S (es ++ [e]) t := by
  obtain ⟨hstore, hmoves⟩ := step_spec S h
  have hstore : t.store = after S.ttlSeconds (opsOf S (es ++ [e])) := by
    rw [hstore, hs.store, opsOf_snoc, after, after, List.foldl_append]
  have hkept : ∀ c code entry, s.phase c = .exchanging code entry →
      ∃ j, ConsumedAt S (es ++ [e]) j c code entry := by
    intro c code entry hc
    obtain ⟨j, hj⟩ := hs.exchanging c code entry hc
    exact ⟨j, consumedAt_snoc S e hj⟩
  have hfresh : (∀ c params now, e ≠ .callback c params now) → ∀ c, s.phase c = .idle →
      ∀ params now, Event.callback c params now ∉ es ++ [e] := by
    intro hne c hc params now hmem
    rw [List.mem_append, List.mem_singleton] at hmem
    obtain hmem | hmem := hmem
    · exact hs.idle c hc params now hmem
    · exact hne c params now hmem.symm
  have hquiet : (∀ c params now, e ≠ .callback c params now) → t.phase = s.phase → t.log = s.log →
      Tracks S (es ++ [e]) t := by
    intro hne hphase hlog
    refine ⟨hstore, ?_, ?_, ?_, ?_⟩
    · rw [hphase]
      exact hkept
    · rw [hphase]
      exact hfresh hne
    · rw [hlog, hphase]
      intro x hx
      obtain ⟨hanswered, j, code, entry, hj, heq⟩ := hs.log x hx
      exact ⟨hanswered, j, code, entry, consumedAt_snoc S e hj, heq⟩
    · rw [hlog]
      exact hs.once
  cases e with
  | login l =>
    refine hquiet ?_ hmoves.1 hmoves.2
    intro c params now heq
    cases heq
  | size now =>
    refine hquiet ?_ hmoves.1 hmoves.2
    intro c params now' heq
    cases heq
  | callback d params now =>
    obtain ⟨hidle, hlog, p, hphase, hp⟩ := hmoves
    refine ⟨hstore, ?_, ?_, ?_, ?_⟩
    · intro c code entry hc
      rw [hphase, setPhase_phase] at hc
      split at hc
      · next hd =>
        obtain rfl := hd
        obtain rfl | ⟨state, code', entry', hinspect, hconsume, rfl⟩ := hp
        · cases hc
        · cases hc
          refine ⟨es.length, params, now, state, ?_, hinspect, ?_⟩
          · rw [List.getElem?_append_right (Nat.le_refl _), Nat.sub_self]
            rfl
          · rw [List.take_left, ← hs.store]
            exact hconsume
      · exact hkept c code entry hc
    · intro c hc params' now' hmem
      rw [hphase, setPhase_phase] at hc
      split at hc
      · obtain rfl | ⟨_, _, _, _, _, rfl⟩ := hp <;> cases hc
      · next hd =>
        rw [List.mem_append, List.mem_singleton] at hmem
        obtain hmem | hmem := hmem
        · exact hs.idle c hc params' now' hmem
        · cases hmem
          exact hd rfl
    · rw [hlog, hphase]
      refine tracked_setPhase S hs _ ?_
      rw [hidle]
      intro heq
      cases heq
    · rw [hlog]
      exact hs.once
  | exchange d x =>
    obtain ⟨hphase, code, entry, hexchanging, hlog⟩ := hmoves
    have hd : s.phase d ≠ .answered := by
      rw [hexchanging]
      intro heq
      cases heq
    refine ⟨hstore, ?_, ?_, ?_, ?_⟩
    · intro c code' entry' hc
      rw [hphase, setPhase_phase] at hc
      split at hc
      · cases hc
      · exact hkept c code' entry' hc
    · intro c hc
      rw [hphase, setPhase_phase] at hc
      split at hc
      · cases hc
      · refine hfresh ?_ c hc
        intro c' params now heq
        cases heq
    · rw [hlog, hphase]
      intro y hy
      rw [List.mem_append, List.mem_singleton] at hy
      obtain hy | rfl := hy
      · exact tracked_setPhase S hs _ hd y hy
      · obtain ⟨j, hj⟩ := hkept d code entry hexchanging
        refine ⟨?_, j, code, entry, hj, rfl⟩
        rw [setPhase_phase]
        exact if_pos rfl
    · rw [hlog, List.map_append, List.map_singleton, List.nodup_append]
      refine ⟨hs.once, List.nodup_singleton _, ?_⟩
      intro c hc c' hc' heq
      obtain ⟨y, hy, rfl⟩ := List.mem_map.1 hc
      have hcalled : y.callback = d := heq.trans (List.mem_singleton.1 hc')
      rw [← hcalled] at hd
      exact hd (hs.log y hy).1

theorem tracks_run {es : List (Event σ)} {t : State σ} (h : Run (fnStep (step S)) (State.start S) es t) :
    Tracks S es t := by
  induction h with
  | nil => exact tracks_start S
  | snoc _ he ih => exact tracks_step S ih he

/-! ## An exchange serves a login -/

/-- The exchange redeems the login at position `i`: it was made by the callback at `j`, which brought the state
of the login in time, and nothing in between had touched that state. -/
structure Serves (es : List (Event σ)) (x : Exchanged σ) (i j : ℕ) (l : LoginCall) (begun : AuthorizationRequest)
    (code : PyStr) : Prop where
  login : es[i]? = some (.login l)
  started : startLogin S l =
    .ok (begun, ⟨begun.state, begun.nonce, begun.codeVerifier, S.redirectUri, l.returnTo⟩)
  order : i < j
  callback : ∃ params now, es[j]? = some (.callback x.callback params now) ∧
    inspectCallback params = .ok (begun.state, code) ∧
    ¬ l.savedAt + MemoryOidcStateStore.ttlOf S.ttlSeconds ≤ now
  untouched : ∀ m e op, i < m → m < j → es[m]? = some e → e.op S = some op → op.touches begun.state = false

/-- What the exchange posts and what it accepts are bound to the login: the code goes with its verifier, and an
ID token counts only with its nonce. -/
def Bound (x : Exchanged σ) (begun : AuthorizationRequest) (code : PyStr) : Prop :=
  (∀ request, x.posted = some request → Redeems code begun.codeVerifier S.redirectUri request) ∧
  ∀ tokens model, x.tokens = .ok tokens → tokens.idClaims = some model →
    ∃ cfg clientId token claims, x.call.discovered = .ok cfg ∧
      OidcRefresh.requireOidcClientId S.client = .ok clientId ∧
      Vouched S.library S.keys x.call.moment
        (callFor S.toExchanger cfg.toOidcConfiguration clientId (some begun.nonce) x.call.moment token) model claims

/-- The readings that the store makes of its clock never go back. -/
def ClockForward (es : List (Event σ)) : Prop := ((opsOf S es).flatMap Op.readings).Pairwise (· ≤ ·)

theorem clock_before {es : List (Event σ)} {j c : ℕ} {params : CallbackParams} {now : Float} {state code : PyStr}
    (hclock : ClockForward S es) (hj : es[j]? = some (.callback c params now))
    (hinspect : inspectCallback params = .ok (state, code)) : ClockBefore (opsOf S (es.take j)) now := by
  intro op hop reading hreading
  have hsplit : opsOf S es = opsOf S (es.take j) ++ .consume state now :: opsOf S (es.drop (j + 1)) := by
    have hop' : Event.op S (.callback c params now) = some (.consume state now) := by
      simp only [Event.op, hinspect]
    conv_lhs => rw [Expiring.split_at hj]
    unfold opsOf
    rw [List.filterMap_append, List.filterMap_cons_some hop']
  unfold ClockForward at hclock
  rw [hsplit, List.flatMap_append, List.flatMap_cons] at hclock
  refine (List.pairwise_append.1 hclock).2.2 reading ?_ now ?_
  · exact List.mem_flatMap.2 ⟨op, hop, hreading⟩
  · exact List.mem_append_left _ (List.mem_singleton.2 rfl)

/-- Only a login saves, and what it saves is the entry of its request. -/
theorem op_save {e : Event σ} {entry : OidcStateEntry} {sweptAt savedAt : Float}
    (h : e.op S = some (.save entry sweptAt savedAt)) :
    ∃ l begun, e = .login l ∧ l.savedAt = savedAt ∧ startLogin S l = .ok (begun, entry) ∧
      entry = ⟨begun.state, begun.nonce, begun.codeVerifier, S.redirectUri, l.returnTo⟩ := by
  cases e with
  | login l =>
    simp only [Event.op] at h
    split at h
    · next begun entry' hstarted =>
      obtain ⟨rfl, -, rfl⟩ := Op.save.inj (Option.some.inj h)
      obtain ⟨configuration, -, hrest⟩ := bind_ok hstarted
      obtain ⟨request, -, hreturn⟩ := bind_ok hrest
      obtain ⟨rfl, rfl⟩ := Prod.mk.inj (Except.ok.inj hreturn)
      exact ⟨l, request, rfl, rfl, hstarted, rfl⟩
    · cases h
  | callback c params now =>
    simp only [Event.op] at h
    split at h
    · cases h
    · cases h
  | exchange c x => cases h
  | size now => cases h

/-- What a callback consumes was saved by a login, and nothing since has touched it. -/
theorem consumedAt_login {es : List (Event σ)} {j c : ℕ} {code : PyStr} {entry : OidcStateEntry}
    (hclock : ClockForward S es) (h : ConsumedAt S es j c code entry) (x : Exchanged σ) (hx : x.callback = c) :
    ∃ i l begun, Serves S es x i j l begun code ∧
      entry = ⟨begun.state, begun.nonce, begun.codeVerifier, S.redirectUri, l.returnTo⟩ := by
  obtain ⟨params, now, state, hj, hinspect, hconsume⟩ := h
  obtain ⟨rfl, before, sweptAt, savedAt, rest, hops, hrest, halive⟩ :=
    (consume_iff (clock_before S hclock hj hinspect) state entry).1 hconsume
  obtain ⟨early, e, late, hcut, hbefore, hsave, hrest'⟩ := Expiring.filterMap_split hops
  obtain ⟨l, begun, rfl, rfl, hstarted, rfl⟩ := op_save S hsave
  have hlong : (early ++ Event.login l :: late).length = j := by
    rw [← hcut, List.length_take, Nat.min_eq_left]
    exact Nat.le_of_lt (List.getElem?_eq_some_iff.1 hj).1
  rw [List.length_append, List.length_cons] at hlong
  have hat : ∀ m, m < j → es[m]? = (early ++ Event.login l :: late)[m]? := by
    intro m hm
    rw [← hcut, List.getElem?_take_of_lt hm]
  refine ⟨early.length, l, begun, ⟨?_, hstarted, by omega, ⟨params, now, hx ▸ hj, hinspect, halive⟩, ?_⟩, rfl⟩
  · rw [hat _ (by omega)]
    exact Expiring.getElem?_split early late _
  · intro m e op hm hmj he hop
    rw [hat m hmj] at he
    refine hrest op ?_
    rw [← hrest']
    exact List.mem_filterMap.2 ⟨e, Expiring.mem_of_getElem?_split hm he, hop⟩

theorem exchange_bound {x : Exchanged σ} {code : PyStr} {entry : OidcStateEntry} {begun : AuthorizationRequest}
    {returnTo : Option PyStr} (hx : x = exchange S x.callback code entry x.call)
    (hentry : entry = ⟨begun.state, begun.nonce, begun.codeVerifier, S.redirectUri, returnTo⟩) :
    Bound S x begun code := by
  subst hentry
  constructor
  · intro request hposted
    rw [hx] at hposted
    simp only [exchange] at hposted
    cases hdiscovered : x.call.discovered with
    | error e =>
      rw [hdiscovered] at hposted
      cases hposted
    | ok cfg =>
      rw [hdiscovered] at hposted
      change (tokenRequest S _ code x.call.session cfg).toOption = some request at hposted
      cases hrequest : tokenRequest S ⟨begun.state, begun.nonce, begun.codeVerifier, S.redirectUri, returnTo⟩ code
          x.call.session cfg with
      | error e =>
        rw [hrequest] at hposted
        cases hposted
      | ok posted =>
        rw [hrequest] at hposted
        obtain rfl := Option.some.inj hposted
        exact exchangeRequest_carries hrequest
  · intro tokens model htokens hmodel
    rw [hx] at htokens
    obtain ⟨cfg, hcfg, hrest⟩ := bind_ok (show exchangeTokens S _ code x.call = .ok tokens from htokens)
    obtain ⟨request, -, hrest⟩ := bind_ok hrest
    obtain ⟨response, -, hhandled⟩ := bind_ok hrest
    obtain ⟨wire, -, -, hclaims⟩ := handleTokenResponse_ok hhandled
    rw [hmodel] at hclaims
    obtain ⟨clientId, token, claims, hclient, -, hvouched⟩ := hclaims
    exact ⟨cfg, clientId, token, claims, hcfg, hclient, hvouched⟩

/-- A login has one state, and the first callback that brings it. -/
theorem serves_once {es : List (Event σ)} {x y : Exchanged σ} {i j j' : ℕ} {l l' : LoginCall}
    {begun begun' : AuthorizationRequest} {code code' : PyStr} (hx : Serves S es x i j l begun code)
    (hy : Serves S es y i j' l' begun' code') : x.callback = y.callback := by
  obtain rfl : l = l' := Event.login.inj (Option.some.inj (hx.login.symm.trans hy.login))
  obtain rfl : begun = begun' := congrArg Prod.fst (Except.ok.inj (hx.started.symm.trans hy.started))
  obtain ⟨params, now, hj, hinspect, -⟩ := hx.callback
  obtain ⟨params', now', hj', hinspect', -⟩ := hy.callback
  have htouches : ∀ now'', (Op.consume begun.state now'').touches begun.state = true := fun _ => decide_eq_true rfl
  have hop : Event.op S (.callback x.callback params now) = some (.consume begun.state now) := by
    simp only [Event.op, hinspect]
  have hop' : Event.op S (.callback y.callback params' now') = some (.consume begun.state now') := by
    simp only [Event.op, hinspect']
  obtain hlt | rfl | hlt := Nat.lt_trichotomy j j'
  · have huntouched := hy.untouched j _ _ hx.order hlt hj hop
    rw [htouches] at huntouched
    cases huntouched
  · exact (Event.callback.inj (Option.some.inj (hj.symm.trans hj'))).1
  · have huntouched := hx.untouched j' _ _ hy.order hlt hj' hop'
    rw [htouches] at huntouched
    cases huntouched

/-- Every exchange redeems a login and is bound to it. -/
def EachServes (es : List (Event σ)) (t : State σ) : Prop :=
  ∀ x ∈ t.log, ∃ i j l begun code, Serves S es x i j l begun code ∧ Bound S x begun code

/-- No two exchanges redeem one login. -/
def ServedOnce (es : List (Event σ)) (t : State σ) : Prop :=
  t.log.Pairwise fun x y => ∀ i j j' l l' begun begun' code code',
    Serves S es x i j l begun code → ¬ Serves S es y i j' l' begun' code'

/-- **In every run**, an exchange that is made redeems a login through the first event that touched its state,
within its time to live, is bound to it, and no two redeem one login. -/
theorem exchanges_serve_logins {es : List (Event σ)} {t : State σ}
    (h : Run (fnStep (step S)) (State.start S) es t) (hclock : ClockForward S es) :
    EachServes S es t ∧ ServedOnce S es t := by
  have htracks := tracks_run S h
  constructor
  · intro x hx
    obtain ⟨-, j, code, entry, hconsumed, heq⟩ := htracks.log x hx
    obtain ⟨i, l, begun, hserves, hentry⟩ := consumedAt_login S hclock hconsumed x rfl
    exact ⟨i, j, l, begun, code, hserves, exchange_bound S heq hentry⟩
  · have honce := htracks.once
    rw [List.Nodup, List.pairwise_map] at honce
    refine honce.imp ?_
    intro x y hne i j j' l l' begun begun' code code' hx hy
    exact hne (serves_once S hx hy)

end System

namespace OneLogin

open Begun (digest drawn configuration)

def claims : IdToken.Claims :=
  [(lit "iss", .str (lit "iss")), (lit "sub", .str (lit "u")), (lit "aud", .str (lit "rp")), (lit "exp", .int 1000),
    (lit "iat", .int 0), (lit "nonce", .str (randomUrlSafeToken drawn.nonce))]

def library : IdToken.Library Unit where
  getUnverifiedHeader := fun _ => .ok [(lit "alg", .str (lit "EdDSA"))]
  decode := fun _ _ => .ok claims
  payload := fun _ _ => some claims
  modelValidate := fun _ =>
    some ⟨lit "iss", lit "u", .inl (lit "rp"), 1000, 0, none, some (randomUrlSafeToken drawn.nonce), none, []⟩
  repr := fun s => s
  decode_signed := by
    intro token key claims h
    cases h
    rfl

def site : Site Unit Unit where
  client := OidcRefresh.TwoTokens.client
  http := ⟨⟨⟨4300, 990, 990, fun _ => []⟩, fun _ _ => List.replicate 32 0, fun _ => none⟩, fun _ => none,
    fun _ => .error .valueError⟩
  library := library
  keys := ⟨fun s _ => (.ok (), s), id⟩
  clockSkewSec := none
  validateFields := fun _ => .ok ⟨lit "at", lit "Bearer", 60, none, none, some (lit "h.p.s")⟩
  sha256 := fun _ => digest
  redirectUri := lit "https://rp/cb"
  scope := .none
  tenantId := some (lit "11111111-1111-1111-1111-111111111111")
  successRedirect := none
  ttlSeconds := 600.0

def body : PyStr :=
  lit "\x7b\"access_token\":\"at\",\"token_type\":\"Bearer\",\"expires_in\":60,\"id_token\":\"h.p.s\"\x7d"

def events : List (Event Unit) :=
  [.login ⟨none, .ok configuration, drawn, 0.0, 0.0⟩,
    .callback 0 ⟨none, none, some (randomUrlSafeToken drawn.state), some (lit "c")⟩ 1.0,
    .exchange 0 ⟨.ok configuration, none, .ok ⟨200, (encodeUtf8 body).getD [], none, 0⟩, ⟨⟨(), none⟩, 0, 1.0⟩, none⟩]

/-- Who is signed in. -/
def signedIn (s : State Unit) : List (Option PyStr) :=
  s.log.filterMap fun x => match x.reply with
    | .signedIn _ sub => some sub
    | _ => none

theorem events_run : ∃ s, Run (fnStep (step site)) (State.start site) events s ∧
    signedIn s = [some (lit "u")] := by
  have hexec : (exec (step site) (State.start site) events).map signedIn = some [some (lit "u")] := by
    decide +kernel
  obtain ⟨s, hs, hread⟩ := Option.map_eq_some_iff.1 hexec
  exact ⟨s, exec_run hs, hread⟩

theorem events_clock : ClockForward site events := by
  have hreadings : (opsOf site events).flatMap Op.readings = [0.0, 0.0, 1.0] := by decide +kernel
  unfold ClockForward
  rw [hreadings]
  decide +kernel

end OneLogin

open OneLogin in
theorem one_login_served : ∃ s, Run (fnStep (step site)) (State.start site) events s ∧
    signedIn s = [some (lit "u")] ∧ EachServes site events s ∧ ServedOnce site events s := by
  obtain ⟨s, hrun, hsigned⟩ := events_run
  exact ⟨s, hrun, hsigned, exchanges_serve_logins site hrun events_clock⟩

end AxiamSdk.Login
