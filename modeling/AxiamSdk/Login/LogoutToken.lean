import AxiamSdk.Lib.PyInt
import AxiamSdk.Login.TokenSet

/-! # Logout tokens (`verify_logout_token` of `_jwks.py` and `_oidc.py`)

* `verifyLogoutToken`: the signature, then the claims in their order.
* `EndsSession`: the claims of a token that ends a session; `verifyLogoutToken_iff`: it is accepted exactly with these.
* `logout_token_iff`: what is accepted, what is raised otherwise, and that no ID token of a login is accepted. -/

namespace AxiamSdk.LogoutToken
open PyLib SigningKey IdToken Checklist
open OidcRefresh (OidcClient requireOidcClientId)
set_option autoImplicit false

/-! ## The source -/

/-- `BACKCHANNEL_LOGOUT_EVENT` -/
def backchannelLogoutEvent : PyStr := lit "http://schemas.openid.net/event/backchannel-logout"

/-- `MAX_LOGOUT_TOKEN_AGE_SECONDS` -/
def maxLogoutTokenAgeSeconds : ℤ := 300

/-- `VerifiedLogoutToken` -/
structure VerifiedLogoutToken where
  sid : Option PyStr
  sub : Option PyStr
  jti : PyStr

/-- `jwt.decode` as a logout token needs it, `str` of an exception, `repr` of a value, and the model validation
(`none` is a `ValidationError`). The claims of a token are its second part, whatever the key. -/
structure LogoutLibrary (Key : Type) extends Library Key where
  decodeLogout : PyStr → Key → Outcome Claims
  text : Exc → PyStr
  reprJson : Json → PyStr
  modelLogout : Json → Json → PyStr → Option VerifiedLogoutToken
  decodeLogout_signed : ∀ {token key claims}, decodeLogout token key = .ok claims → payload token key = some claims
  payload_unique : ∀ {token key key' claims claims'}, payload token key = some claims →
    payload token key' = some claims' → claims = claims'
  modelLogout_states : ∀ {sid sub jti t}, modelLogout sid sub jti = some t →
    sid = t.sid.elim .null .str ∧ sub = t.sub.elim .null .str ∧ t.jti = jti

/-- The issuer of the discovery document, the configuration of the client, and the second of its clock. -/
structure Relying where
  issuer : PyStr
  client : OidcClient
  clockSkewSec : Option Float
  now : ℤ

/-- `raise AuthError(...)` -/
def refuse {α : Type} (message : PyStr) : Except Exc α := .error (.authError message none)

/-- `raise ValueError(...)` -/
def raiseValueError {α : Type} (text : PyStr) : Except Exc α := .error (.other (lit "ValueError") text)

def ensure (ok : Bool) (message : String) : Except Exc Unit := if ok then .ok () else refuse (lit message)

/-- A value that passes `isinstance(v, int)`. -/
def isInt : Json → Option ℤ
  | .int n => some n
  | .bool b => some (if b then 1 else 0)
  | _ => none

/-- `v is None` -/
def isNone : Json → Bool
  | .null => true
  | _ => false

/-- `int(self._oidc_clock_skew_sec or 0)` -/
def wholeSkew : Option Float → Except Exc ℤ
  | none => .ok 0
  | some sec =>
    match PyInt.ofFloat sec with
    | .ok n => .ok n
    | .error .overflow => .error .overflowError
    | .error _ => .error .valueError

section Source
variable {σ Key : Type} (L : LogoutLibrary Key) (K : KeyClient σ Key)

/-- `jwt.decode` of a logout token. -/
def decodeSigned (token : PyStr) (key : Key) : Except Exc Claims :=
  match L.decodeLogout token key with
  | .ok claims => .ok claims
  | .jwtError e => .error e.exc
  | .escaped e => .error e.1

def keyOf (looked : Outcome Key) : Except Exc Key :=
  match looked with
  | .ok key => .ok key
  | .jwtError e => .error e.exc
  | .escaped e => .error e.1

/-- `verify_logout_token_signature`, and the verifier after it. -/
def verifyLogoutTokenSignature (v : Verifier σ) (monotonic : ℚ) (token : PyStr) :
    Except Exc Claims × Verifier σ :=
  match headerOf L.toLibrary token with
  | .error e => (.error e, v)
  | .ok header =>
    if eddsa header = false then
      (raiseValueError (lit "unexpected alg " ++ L.reprJson (Json.get header (lit "alg")) ++
        lit ": only EdDSA is accepted"), v)
    else if (Json.get header (lit "kid")).truthy = false then
      (raiseValueError (lit "logout token carries no kid header"), v)
    else
      let looked := getSigningKey K v monotonic token
      (keyOf looked.1 >>= decodeSigned L token, looked.2)

/-- The handlers around the signature check. -/
def signatureFailure (e : Exc) : Exc :=
  if e.isAuthError then e else .authError (lit "logout token signature verification failed: " ++ L.text e) none

variable (rp : Relying) (claims : Claims)

/-- `events` has the logout event, as an object. -/
def carriesEvent : Bool :=
  (Json.get claims (lit "events")).asObj?.any fun events => (Json.get events backchannelLogoutEvent).asObj?.isSome

def checkTimes : Except Exc Unit := do
  let skew ← wholeSkew rp.clockSkewSec
  ensure ((isInt (Json.get claims (lit "exp"))).any fun exp => rp.now ≤ exp + skew) "logout token has expired"
  ensure ((isInt (Json.get claims (lit "iat"))).any fun iat => iat - skew ≤ rp.now)
    "logout token was issued in the future"
  ensure ((isInt (Json.get claims (lit "iat"))).any fun iat => rp.now - iat ≤ maxLogoutTokenAgeSeconds + skew)
    "logout token is too old to be a live delivery"

/-- `jti`, and what the token names. -/
def readSession : Except Exc VerifiedLogoutToken :=
  match (Json.get claims (lit "jti")).asStr? with
  | none | some [] => refuse (lit "logout token carries no jti, so the RP cannot dedup redeliveries")
  | some jti =>
    match L.modelLogout (Json.get claims (lit "sid")) (Json.get claims (lit "sub")) jti with
    | some token => .ok token
    | none => .error .valueError

def checkLogoutClaims : Except Exc VerifiedLogoutToken := do
  ensure (decide ((Json.get claims (lit "iss")).asStr? = some rp.issuer))
    "logout token issuer does not match the discovery document"
  let clientId ← requireOidcClientId rp.client
  ensure (decide ((Json.get claims (lit "aud")).asStr? = some clientId))
    "logout token audience does not match this client_id"
  ensure (carriesEvent claims)
    "not a logout token: the events claim does not carry http://schemas.openid.net/event/backchannel-logout"
  ensure (Assoc.get? claims (lit "nonce")).isNone
    ("logout token carries a nonce, which Back-Channel Logout 1.0 §2.4 forbids: " ++
      "this is an ID token being replayed as a logout token")
  ensure (!(isNone (Json.get claims (lit "sid")) && isNone (Json.get claims (lit "sub"))))
    "logout token names neither sid nor sub, so it identifies no session"
  checkTimes rp claims
  readSession L claims

/-- `_verify_logout_token_impl`, and the verifier after it. -/
def verifyLogoutToken (v : Verifier σ) (monotonic : ℚ) (token : PyStr) :
    Except Exc VerifiedLogoutToken × Verifier σ :=
  let verified := verifyLogoutTokenSignature L K v monotonic token
  match verified.1 with
  | .error e => (.error (signatureFailure L e), verified.2)
  | .ok claims => (checkLogoutClaims L rp claims, verified.2)

end Source

/-! ## What ends a session -/

/-- The times at which a token is live. -/
structure Live (rp : Relying) (claims : Claims) (skew exp iat : ℤ) : Prop where
  tolerated : wholeSkew rp.clockSkewSec = .ok skew
  expires : isInt (Json.get claims (lit "exp")) = some exp
  issuedAt : isInt (Json.get claims (lit "iat")) = some iat
  unexpired : rp.now ≤ exp + skew
  issued : iat ≤ rp.now + skew
  recent : rp.now ≤ iat + 300 + skew

/-- The claims of a token that ends the session which it names. -/
structure EndsSession (rp : Relying) (claims : Claims) (t : VerifiedLogoutToken) : Prop where
  issuer : Json.get claims (lit "iss") = .str rp.issuer
  audience : ∃ clientId, (rp.client.clientId = some clientId ∧ clientId ≠ []) ∧
    Json.get claims (lit "aud") = .str clientId
  event : ∃ events members, Json.get claims (lit "events") = .obj events ∧
    Json.get events backchannelLogoutEvent = .obj members
  noNonce : lit "nonce" ∉ claims.map Prod.fst
  live : ∃ skew exp iat, Live rp claims skew exp iat
  sid : Json.get claims (lit "sid") = t.sid.elim .null .str
  sub : Json.get claims (lit "sub") = t.sub.elim .null .str
  named : t.sid ≠ none ∨ t.sub ≠ none
  jti : Json.get claims (lit "jti") = .str t.jti ∧ t.jti ≠ []

section Claims
variable {rp : Relying} {claims : Claims}

theorem asStr?_eq_some {v : Json} {s : PyStr} : v.asStr? = some s ↔ v = .str s := by
  cases v <;> simp [Json.asStr?]

theorem asObj?_eq_some {v : Json} {members : List (PyStr × Json)} : v.asObj? = some members ↔ v = .obj members := by
  cases v <;> simp [Json.asObj?]

theorem bind_eq_ok {α β : Type} {x : Except Exc α} {f : α → Except Exc β} {b : β} :
    (x >>= f) = .ok b ↔ ∃ a, x = .ok a ∧ f a = .ok b := by
  constructor
  · exact bind_ok
  · rintro ⟨a, rfl, hf⟩
    exact hf

theorem ensure_eq_ok {ok : Bool} {message : String} {u : Unit} : ensure ok message = .ok u ↔ ok = true := by
  cases ok <;> simp [ensure, refuse]

theorem requireOidcClientId_eq_ok {client : OidcClient} {id : PyStr} :
    requireOidcClientId client = .ok id ↔ client.clientId = some id ∧ id ≠ [] := by
  unfold requireOidcClientId
  cases client.clientId with
  | none => simp
  | some id' =>
    cases id' with
    | nil =>
      constructor
      · rintro ⟨⟩
      · rintro ⟨⟨⟩, hne⟩
        exact absurd rfl hne
    | cons c id' =>
      constructor
      · rintro ⟨⟩
        exact ⟨rfl, by simp⟩
      · rintro ⟨⟨⟩, -⟩
        rfl

theorem carriesEvent_iff : carriesEvent claims = true ↔ ∃ events members,
    Json.get claims (lit "events") = .obj events ∧ Json.get events backchannelLogoutEvent = .obj members := by
  simp only [carriesEvent, Option.any_eq_true, Option.isSome_iff_exists, asObj?_eq_some]
  constructor
  · rintro ⟨events, hevents, members, hmembers⟩
    exact ⟨events, members, hevents, hmembers⟩
  · rintro ⟨events, members, hevents, hmembers⟩
    exact ⟨events, hevents, members, hmembers⟩

theorem checkTimes_iff {u : Unit} : checkTimes rp claims = .ok u ↔ ∃ skew exp iat, Live rp claims skew exp iat := by
  have hage : maxLogoutTokenAgeSeconds = 300 := rfl
  simp only [checkTimes, bind_eq_ok, ensure_eq_ok, exists_const, Option.any_eq_true, decide_eq_true_eq]
  constructor
  · rintro ⟨skew, hskew, ⟨exp, hexp, hunexpired⟩, ⟨iat, hiat, hissued⟩, iat', hiat', hrecent⟩
    obtain rfl := Option.some.inj (hiat.symm.trans hiat')
    exact ⟨skew, exp, iat, hskew, hexp, hiat, hunexpired, by omega, by omega⟩
  · rintro ⟨skew, exp, iat, h⟩
    have hissued := h.issued
    have hrecent := h.recent
    exact ⟨skew, h.tolerated, ⟨exp, h.expires, h.unexpired⟩, ⟨iat, h.issuedAt, by omega⟩, iat, h.issuedAt, by omega⟩

theorem isNone_elim (s : Option PyStr) : isNone (s.elim .null .str) = true ↔ s = none := by
  cases s <;> simp [isNone]

variable {σ Key : Type} {L : LogoutLibrary Key} {K : KeyClient σ Key} {t : VerifiedLogoutToken}

theorem readSession_iff : readSession L claims = .ok t ↔ (Json.get claims (lit "jti") = .str t.jti ∧ t.jti ≠ []) ∧
    L.modelLogout (Json.get claims (lit "sid")) (Json.get claims (lit "sub")) t.jti = some t := by
  unfold readSession
  rw [← asStr?_eq_some]
  cases hjti : (Json.get claims (lit "jti")).asStr? with
  | none => simp [refuse]
  | some jti =>
    cases jti with
    | nil =>
      constructor
      · rintro ⟨⟩
      · rintro ⟨⟨hnil, hne⟩, -⟩
        exact absurd (Option.some.inj hnil).symm hne
    | cons c jti =>
      dsimp only
      cases hmodel : L.modelLogout (Json.get claims (lit "sid")) (Json.get claims (lit "sub")) (c :: jti) with
      | none =>
        constructor
        · rintro ⟨⟩
        · rintro ⟨⟨hsame, -⟩, hsome⟩
          rw [← Option.some.inj hsame, hmodel] at hsome
          cases hsome
      | some t' =>
        obtain ⟨-, -, hstated⟩ := L.modelLogout_states hmodel
        constructor
        · rintro ⟨⟩
          rw [hstated]
          exact ⟨⟨rfl, by simp⟩, hmodel⟩
        · rintro ⟨⟨hsame, -⟩, hsome⟩
          rw [← Option.some.inj hsame, hmodel] at hsome
          rw [Option.some.inj hsome]

/-- The claims are accepted exactly if they end a session, and the model validation passes what they name. -/
theorem checkLogoutClaims_iff : checkLogoutClaims L rp claims = .ok t ↔ EndsSession rp claims t ∧
    L.modelLogout (Json.get claims (lit "sid")) (Json.get claims (lit "sub")) t.jti = some t := by
  unfold checkLogoutClaims
  simp only [bind_eq_ok, ensure_eq_ok, exists_const, requireOidcClientId_eq_ok, carriesEvent_iff, checkTimes_iff,
    readSession_iff, decide_eq_true_eq, asStr?_eq_some, Option.isNone_iff_eq_none, Assoc.get?_eq_none_iff]
  constructor
  · rintro ⟨hissuer, clientId, hid, haudience, hevent, hnonce, hnamed, htimes, hjti, hmodel⟩
    obtain ⟨hsid, hsub, -⟩ := L.modelLogout_states hmodel
    refine ⟨⟨hissuer, ⟨clientId, hid, haudience⟩, hevent, hnonce, htimes, hsid, hsub, ?_, hjti⟩, hmodel⟩
    by_contra hnone
    push Not at hnone
    rw [hsid, hsub, hnone.1, hnone.2] at hnamed
    cases hnamed
  · rintro ⟨h, hmodel⟩
    obtain ⟨clientId, hid, haudience⟩ := h.audience
    refine ⟨h.issuer, clientId, hid, haudience, h.event, h.noNonce, ?_, h.live, h.jti, hmodel⟩
    rw [h.sid, h.sub, Bool.not_eq_true', Bool.and_eq_false_iff, ← Bool.not_eq_true, ← Bool.not_eq_true, isNone_elim,
      isNone_elim]
    exact h.named

/-- What else than an `AuthError` the claims can raise: a skew that is no whole number of seconds, and what the
model validation refuses. -/
def Unnamed (L : LogoutLibrary Key) (rp : Relying) (claims : Claims) (e : Exc) : Prop :=
  wholeSkew rp.clockSkewSec = .error e ∨
    e = .valueError ∧ ∃ jti, Json.get claims (lit "jti") = .str jti ∧
      L.modelLogout (Json.get claims (lit "sid")) (Json.get claims (lit "sub")) jti = none

theorem within_ensure {P : Exc → Prop} (h : ∀ e : Exc, e.isAuthError = true → P e) (ok : Bool) (message : String) :
    Within some P (ensure ok message) := by
  cases ok with
  | true => exact within_ok ()
  | false =>
    refine within_error ?_
    rintro e ⟨⟩
    exact h _ rfl

theorem within_requireOidcClientId {P : Exc → Prop} (h : ∀ e : Exc, e.isAuthError = true → P e) (client : OidcClient) :
    Within some P (requireOidcClientId client) := by
  unfold requireOidcClientId
  split
  · refine within_error ?_
    rintro e ⟨⟩
    exact h _ rfl
  · refine within_error ?_
    rintro e ⟨⟩
    exact h _ rfl
  · exact within_ok _

theorem within_readSession :
    Within some (fun e => e.isAuthError = true ∨ Unnamed L rp claims e) (readSession L claims) := by
  unfold readSession
  split
  · refine within_error ?_
    rintro e ⟨⟩
    exact .inl rfl
  · refine within_error ?_
    rintro e ⟨⟩
    exact .inl rfl
  · next jti _ hjti =>
    split
    · exact within_ok _
    · next hnone =>
      refine within_error ?_
      rintro e ⟨⟩
      exact .inr (.inr ⟨rfl, jti, asStr?_eq_some.1 hjti, hnone⟩)

theorem within_checkTimes {P : Exc → Prop} (h : ∀ e : Exc, e.isAuthError = true → P e)
    (hskew : ∀ e, wholeSkew rp.clockSkewSec = .error e → P e) : Within some P (checkTimes rp claims) := by
  unfold checkTimes
  refine within_bind ?_ (fun skew => ?_)
  · rintro e _ he ⟨⟩
    exact hskew e he
  · exact within_bind (within_ensure h _ _) (fun _ => within_bind (within_ensure h _ _) (fun _ => within_ensure h _ _))

theorem within_checkLogoutClaims :
    Within some (fun e => e.isAuthError = true ∨ Unnamed L rp claims e) (checkLogoutClaims L rp claims) := by
  have h : ∀ e : Exc, e.isAuthError = true → e.isAuthError = true ∨ Unnamed L rp claims e := fun _ => .inl
  unfold checkLogoutClaims
  refine within_bind (within_ensure h _ _) (fun _ => ?_)
  refine within_bind (within_requireOidcClientId h _) (fun _ => ?_)
  refine within_bind (within_ensure h _ _) (fun _ => within_bind (within_ensure h _ _) (fun _ => ?_))
  refine within_bind (within_ensure h _ _) (fun _ => within_bind (within_ensure h _ _) (fun _ => ?_))
  exact within_bind (within_checkTimes h fun e he => .inr (.inl he)) (fun _ => within_readSession)

end Claims

/-! ## The token -/

section Token
variable {σ Key : Type} (L : LogoutLibrary Key) (K : KeyClient σ Key) (rp : Relying) (v : Verifier σ) (monotonic : ℚ)
  (token : PyStr)

/-- A header with `EdDSA` and a `kid`, a key found for it, and the claims that the JWT library takes with this key. -/
structure Signed (claims : Claims) : Prop where
  header : ∃ header, L.getUnverifiedHeader token = .ok header ∧ eddsa header = true ∧
    (Json.get header (lit "kid")).truthy = true
  key : ∃ key, (getSigningKey K v monotonic token).1 = .ok key ∧ L.decodeLogout token key = .ok claims

theorem decodeSigned_iff {key : Key} {claims : Claims} :
    decodeSigned L token key = .ok claims ↔ L.decodeLogout token key = .ok claims := by
  unfold decodeSigned
  cases L.decodeLogout token key <;> simp

theorem keyOf_iff {looked : Outcome Key} {key : Key} : keyOf looked = .ok key ↔ looked = .ok key := by
  cases looked <;> simp [keyOf]

theorem headerOf_iff {header : Claims} :
    headerOf L.toLibrary token = .ok header ↔ L.getUnverifiedHeader token = .ok header := by
  unfold headerOf
  cases L.getUnverifiedHeader token <;> simp

theorem signature_iff {claims : Claims} :
    (verifyLogoutTokenSignature L K v monotonic token).1 = .ok claims ↔ Signed L K v monotonic token claims := by
  unfold verifyLogoutTokenSignature
  cases hheader : headerOf L.toLibrary token with
  | error e =>
    constructor
    · rintro ⟨⟩
    · rintro ⟨⟨header, hread, -⟩, -⟩
      rw [(headerOf_iff L token).2 hread] at hheader
      cases hheader
  | ok header =>
    have hread := (headerOf_iff L token).1 hheader
    dsimp only
    split
    · next halg =>
      constructor
      · rintro ⟨⟩
      · rintro ⟨⟨header', hread', heddsa, -⟩, -⟩
        obtain rfl := Outcome.ok.inj (hread.symm.trans hread')
        rw [halg] at heddsa
        cases heddsa
    · next halg =>
      split
      · next hkid =>
        constructor
        · rintro ⟨⟩
        · rintro ⟨⟨header', hread', -, htruthy⟩, -⟩
          obtain rfl := Outcome.ok.inj (hread.symm.trans hread')
          rw [hkid] at htruthy
          cases htruthy
      · next hkid =>
        dsimp only
        rw [bind_eq_ok]
        simp only [keyOf_iff, decodeSigned_iff]
        rw [Bool.not_eq_false] at halg hkid
        exact ⟨fun hkey => ⟨⟨header, hread, halg, hkid⟩, hkey⟩, fun h => h.key⟩

/-- **What is accepted**: a signed token whose claims end the session that is returned. -/
theorem verifyLogoutToken_iff {t : VerifiedLogoutToken} :
    (verifyLogoutToken L K rp v monotonic token).1 = .ok t ↔ ∃ claims, Signed L K v monotonic token claims ∧
      EndsSession rp claims t ∧
      L.modelLogout (Json.get claims (lit "sid")) (Json.get claims (lit "sub")) t.jti = some t := by
  simp only [← signature_iff, ← checkLogoutClaims_iff]
  unfold verifyLogoutToken
  dsimp only
  cases (verifyLogoutTokenSignature L K v monotonic token).1 with
  | error e => simp
  | ok claims => simp

/-- A token that signs a user in, with the nonce of the login, ends no session. -/
theorem not_idToken {t : VerifiedLogoutToken} (h : (verifyLogoutToken L K rp v monotonic token).1 = .ok t)
    {σ' : Type} (K' : KeyClient σ' Key) (moment : Login.Moment σ') {c : Call} (htoken : c.token = token)
    (hnonce : c.nonce ≠ none) (model : IdTokenClaims) :
    (validateIdToken L.toLibrary K' moment.verifier moment.monotonic c).1 ≠ .ok model := by
  intro hid
  obtain ⟨claims, hsigned, hends, -⟩ := (verifyLogoutToken_iff L K rp v monotonic token).1 h
  obtain ⟨claims', hvouched⟩ := Login.validateIdToken_sound hid
  obtain ⟨key, -, hdecoded⟩ := hsigned.key
  obtain ⟨key', -, hpayload⟩ := hvouched.signed
  rw [htoken] at hpayload
  obtain rfl := L.payload_unique (L.decodeLogout_signed hdecoded) hpayload
  obtain ⟨nonce, hsome⟩ := Option.ne_none_iff_exists'.1 hnonce
  have hclaimed := hvouched.nonce
  rw [nonceRule, hsome] at hclaimed
  rw [decide_eq_true_eq, asStr?_eq_some] at hclaimed
  have habsent := Assoc.get?_eq_none_iff.2 hends.noNonce
  rw [Json.get, habsent] at hclaimed
  cases hclaimed

theorem signatureFailure_isAuthError (e : Exc) : (signatureFailure L e).isAuthError = true := by
  unfold signatureFailure
  split
  · assumption
  · rfl

theorem verifyLogoutToken_raises {e : Exc} (h : (verifyLogoutToken L K rp v monotonic token).1 = .error e) :
    e.isAuthError = true ∨ ∃ claims, Signed L K v monotonic token claims ∧ Unnamed L rp claims e := by
  unfold verifyLogoutToken at h
  dsimp only at h
  split at h
  · obtain rfl := Except.error.inj h
    exact .inl (signatureFailure_isAuthError L _)
  · next claims hsigned =>
    obtain hauth | hunnamed := within_checkLogoutClaims e e h rfl
    · exact .inl hauth
    · exact .inr ⟨claims, (signature_iff L K v monotonic token).1 hsigned, hunnamed⟩

/-- **Logout tokens.** Accepted is exactly a signed token whose claims end the session that is returned; any other
raises an `AuthError`, or has claims that name no session in texts; and a token that signs a user in with the nonce of
a login, at any time and with any key cache, ends no session. -/
theorem logout_token_iff :
    (∀ t, (verifyLogoutToken L K rp v monotonic token).1 = .ok t ↔ ∃ claims, Signed L K v monotonic token claims ∧
      EndsSession rp claims t ∧
      L.modelLogout (Json.get claims (lit "sid")) (Json.get claims (lit "sub")) t.jti = some t) ∧
    (∀ e, (verifyLogoutToken L K rp v monotonic token).1 = .error e →
      e.isAuthError = true ∨ ∃ claims, Signed L K v monotonic token claims ∧ Unnamed L rp claims e) ∧
    ∀ t, (verifyLogoutToken L K rp v monotonic token).1 = .ok t →
      ∀ (σ' : Type) (K' : KeyClient σ' Key) (moment : Login.Moment σ') (c : Call), c.token = token → c.nonce ≠ none →
        ∀ model, (validateIdToken L.toLibrary K' moment.verifier moment.monotonic c).1 ≠ .ok model := by
  refine ⟨fun t => verifyLogoutToken_iff L K rp v monotonic token, ?_, ?_⟩
  · exact fun e => verifyLogoutToken_raises L K rp v monotonic token
  · intro t h σ' K' moment c htoken hnonce model
    exact not_idToken L K rp v monotonic token h K' moment htoken hnonce model

end Token

/-! ### A session that ended -/

namespace Ended

def claims : Claims :=
  [(lit "iss", .str (lit "op")), (lit "aud", .str (lit "rp")), (lit "events", .obj [(backchannelLogoutEvent, .obj [])]),
    (lit "sid", .str (lit "s1")), (lit "iat", .int 1000), (lit "exp", .int 1120), (lit "jti", .str (lit "j1"))]

def payload (token : PyStr) : Option Claims := if token = lit "t" then some claims else none

def invalid : PyJwtError := ⟨lit "InvalidSignatureError", lit "Signature verification failed", none⟩

def decode (token : PyStr) : Outcome Claims :=
  match payload token with
  | some claims => .ok claims
  | none => .jwtError invalid

theorem decode_payload {token : PyStr} {found : Claims} (h : decode token = .ok found) :
    payload token = some found := by
  unfold decode at h
  split at h
  · next heq =>
    rw [heq, Outcome.ok.inj h]
  · cases h

def modelLogout (sid sub : Json) (jti : PyStr) : Option VerifiedLogoutToken :=
  match sid, sub with
  | .str sid, .str sub => some ⟨some sid, some sub, jti⟩
  | .str sid, .null => some ⟨some sid, none, jti⟩
  | .null, .str sub => some ⟨none, some sub, jti⟩
  | .null, .null => some ⟨none, none, jti⟩
  | _, _ => none

theorem modelLogout_states {sid sub : Json} {jti : PyStr} {t : VerifiedLogoutToken}
    (h : modelLogout sid sub jti = some t) : sid = t.sid.elim .null .str ∧ sub = t.sub.elim .null .str ∧ t.jti = jti := by
  unfold modelLogout at h
  split at h
  · obtain rfl := Option.some.inj h
    exact ⟨rfl, rfl, rfl⟩
  · obtain rfl := Option.some.inj h
    exact ⟨rfl, rfl, rfl⟩
  · obtain rfl := Option.some.inj h
    exact ⟨rfl, rfl, rfl⟩
  · obtain rfl := Option.some.inj h
    exact ⟨rfl, rfl, rfl⟩
  · cases h

def library : LogoutLibrary Unit where
  getUnverifiedHeader _ := .ok [(lit "alg", .str idTokenAlg), (lit "kid", .str (lit "k"))]
  decode token _ := decode token
  payload token _ := payload token
  modelValidate _ := none
  repr s := s
  decode_signed h := decode_payload h
  decodeLogout token _ := decode token
  text _ := lit "error"
  reprJson _ := lit "value"
  modelLogout := modelLogout
  decodeLogout_signed h := decode_payload h
  payload_unique h h' := Option.some.inj (h.symm.trans h')
  modelLogout_states h := modelLogout_states h

def keys : KeyClient Unit Unit := ⟨fun s _ => (.ok (), s), id⟩

def relying : Relying := ⟨lit "op", OidcRefresh.TwoTokens.client, none, 1060⟩

/-- The session is named, and the token cannot sign in. -/
theorem session_ended :
    (verifyLogoutToken library keys relying ⟨(), none⟩ 0 (lit "t")).1 = .ok ⟨some (lit "s1"), none, lit "j1"⟩ ∧
      ∀ (moment : Login.Moment Unit) (c : Call), c.token = lit "t" → c.nonce ≠ none →
        ∀ model, (validateIdToken library.toLibrary keys moment.verifier moment.monotonic c).1 ≠ .ok model := by
  have haccepted : (verifyLogoutToken library keys relying ⟨(), none⟩ 0 (lit "t")).1 =
      .ok ⟨some (lit "s1"), none, lit "j1"⟩ := by rfl
  obtain ⟨-, -, hno⟩ := logout_token_iff library keys relying ⟨(), none⟩ 0 (lit "t")
  exact ⟨haccepted, hno _ haccepted Unit keys⟩

end Ended

end AxiamSdk.LogoutToken
