import AxiamSdk.Http
import AxiamSdk.IdToken
import AxiamSdk.OidcRefresh

/-! # Exchanging a code for a token set (`oidc_exchange` of `_client.py` and `_oidc.py`)

* `exchangeRequest`: the token request for a code; `exchangeRequest_carries`: what it holds.
* `handleTokenResponse`: the answer, with its ID token validated before anything is built.
* `Vouched`, `validateIdToken_sound`, `handleTokenResponse_ok`: what is known of a token set that is returned. -/

namespace AxiamSdk.Login
open PyLib SigningKey IdToken
open OidcRefresh (OidcClient TokenRequest requireOidcClientId tokenEndpointUrl)
set_option autoImplicit false

/-! ## The errors of the OAuth endpoints (`_errors.py`) -/

/-- `_oauth2_error_body` -/
def oauth2ErrorBody (P : Platform) (descriptionOptional : Bool) (r : HttpResponse) :
    Except Exc (Option (PyStr × PyStr)) :=
  match r.json P with
  | .error e => if e.isValueError then .ok none else .error e
  | .ok (.obj members) =>
    match (Json.get members (lit "error")).asStr?, (Json.get members (lit "error_description")).asStr? with
    | some error, some description => .ok (some (error, description))
    | some error, none => .ok (if descriptionOptional && !error.isEmpty then some (error, []) else none)
    | none, _ => .ok none
  | .ok _ => .ok none

/-- `error_from_oauth2_response` -/
def errorFromOauth2Response (H : HttpPlatform) (descriptionOptional : Bool) (message : PyStr) (r : HttpResponse) :
    Except Exc Exc :=
  if 300 ≤ r.status ∧ r.status ≤ 399 then errorFromHttpStatus H message r
  else
    match oauth2ErrorBody H.toPlatform descriptionOptional r with
    | .error e => .error e
    | .ok none => errorFromHttpStatus H message r
    | .ok (some (error, description)) =>
      if r.status = 429 then (retryAfterMsOf H r).map fun _ => .oauthProtocolError error description
      else .ok (.oauthProtocolError error description)

/-- `raise error_from_oauth2_response(...)` -/
def raisedForOauth2 (H : HttpPlatform) (descriptionOptional : Bool) (message : PyStr) (r : HttpResponse) : Exc :=
  match errorFromOauth2Response H descriptionOptional message r with
  | .ok e | .error e => e

/-! ## The token set -/

/-- The members of a token response, as the model validation leaves them. -/
structure TokenFields where
  accessToken : PyStr
  tokenType : PyStr
  expiresIn : ℤ
  scope : Option PyStr
  refreshToken : Option PyStr
  idToken : Option PyStr

/-- `OidcTokenSet` -/
structure OidcTokenSet extends TokenFields where
  idClaims : Option IdTokenClaims

/-- A client that exchanges codes: the platform, the JWT library, the key lookup of its verifiers, its clock
skew, and the model validation of a token response that has the required members. -/
structure Exchanger (σ Key : Type) where
  client : OidcClient
  http : HttpPlatform
  library : Library Key
  keys : KeyClient σ Key
  clockSkewSec : Option Float
  validateFields : Claims → Except Exc TokenFields

/-- Whether Python takes the value for true. -/
def truthy : Json → Bool
  | .null | .bool false | .int 0 => false
  | .float x => !(x == 0.0)
  | .str s => !s.isEmpty
  | .arr vs => !vs.isEmpty
  | .obj ms => !ms.isEmpty
  | _ => true

/-- The clocks and the verifier of a moment. -/
structure Moment (σ : Type) where
  verifier : Verifier σ
  monotonic : ℚ
  now : Float

section Exchange
variable {σ Key : Type} (E : Exchanger σ Key)

/-- `validate_id_token` of the `id_token` member, if there is one that counts. -/
def validatedClaims (cfg : OidcRefresh.OidcConfiguration) (nonce : Option PyStr) (moment : Moment σ)
    (idToken : Json) : Except Exc (Option IdTokenClaims) :=
  if truthy idToken then
    match idToken.asStr? with
    -- the JWT library refuses what is no string
    | none => .error (.other (lit "DecodeError") (lit "Invalid token type. Token must be a <class 'bytes'>"))
    | some token =>
      match requireOidcClientId E.client with
      | .error e => .error e
      | .ok clientId =>
        (validateIdToken E.library E.keys moment.verifier moment.monotonic
          ⟨token, cfg.issuer, clientId, nonce, E.clockSkewSec, moment.now⟩).1.map some
  else .ok none

/-- `_build_token_set` -/
def buildTokenSet (wire : Claims) (cfg : OidcRefresh.OidcConfiguration) (nonce : Option PyStr) (moment : Moment σ) :
    Except Exc OidcTokenSet := do
  let idClaims ← validatedClaims E cfg nonce moment (Json.get wire (lit "id_token"))
  if [lit "access_token", lit "token_type", lit "expires_in"].all fun key => (Assoc.get? wire key).isSome then
    let fields ← E.validateFields wire
    return ⟨fields, idClaims⟩
  else .error .keyError

/-- `_handle_token_response` -/
def handleTokenResponse (r : HttpResponse) (cfg : OidcRefresh.OidcConfiguration) (nonce : Option PyStr)
    (moment : Moment σ) : Except Exc OidcTokenSet :=
  if r.status ≠ 200 then .error (raisedForOauth2 E.http true (lit "token request failed") r)
  else
    match r.json E.http.toPlatform with
    | .error e => .error e
    | .ok (.obj wire) => buildTokenSet E wire cfg nonce moment
    | .ok _ => .error .attributeError

/-- `_exchange_form` -/
def exchangeForm (C : OidcClient) (code codeVerifier redirectUri : PyStr) : Except Exc (List (PyStr × PyStr)) :=
  match requireOidcClientId C with
  | .error e => .error e
  | .ok clientId =>
    .ok ([(lit "grant_type", lit "authorization_code"), (lit "code", code), (lit "code_verifier", codeVerifier),
        (lit "redirect_uri", redirectUri), (lit "client_id", clientId)]
      ++ (C.clientSecret.map fun secret => (lit "client_secret", secret)).toList)

/-- The request of `oidc_exchange`, under a configuration; `session` is the tenant that the session has
resolved. -/
def exchangeRequest (C : OidcClient) (session tenantId : Option PyStr) (code codeVerifier redirectUri : PyStr)
    (cfg : OidcRefresh.OidcConfiguration) : Except Exc TokenRequest :=
  match exchangeForm C code codeVerifier redirectUri with
  | .error e => .error e
  | .ok form =>
    match tokenEndpointUrl C cfg tenantId session with
    | .error e => .error e
    | .ok url =>
      match C.buildRequest url form with
      | some e => .error e
      | none => .ok ⟨url, form⟩

end Exchange

/-! ## What the request carries -/

/-- The request redeems the code with the verifier and for the redirect URI, and nothing else. -/
structure Redeems (code codeVerifier redirectUri : PyStr) (request : TokenRequest) : Prop where
  grantType : ∀ v, (lit "grant_type", v) ∈ request.form ↔ v = lit "authorization_code"
  code : ∀ v, (lit "code", v) ∈ request.form ↔ v = code
  codeVerifier : ∀ v, (lit "code_verifier", v) ∈ request.form ↔ v = codeVerifier
  redirectUri : ∀ v, (lit "redirect_uri", v) ∈ request.form ↔ v = redirectUri

theorem exchangeRequest_carries {C : OidcClient} {session tenantId : Option PyStr}
    {code codeVerifier redirectUri : PyStr} {cfg : OidcRefresh.OidcConfiguration} {request : TokenRequest}
    (h : exchangeRequest C session tenantId code codeVerifier redirectUri cfg = .ok request) :
    Redeems code codeVerifier redirectUri request := by
  unfold exchangeRequest at h
  split at h
  · cases h
  · next form hform =>
    split at h
    · cases h
    · split at h
      · cases h
      · obtain rfl := Except.ok.inj h
        unfold exchangeForm at hform
        split at hform
        · cases hform
        · next clientId _ =>
          obtain rfl := Except.ok.inj hform
          have hnames : [lit "grant_type", lit "code", lit "code_verifier", lit "redirect_uri", lit "client_id",
              lit "client_secret"].Nodup := by decide
          simp only [List.nodup_cons, List.mem_cons, List.not_mem_nil, or_false, not_or] at hnames
          obtain ⟨⟨h1, h2, h3, h4, h5⟩, ⟨h6, h7, h8, h9⟩, ⟨h10, h11, h12⟩, ⟨h13, h14⟩, -⟩ := hnames
          constructor
          · intro v
            cases C.clientSecret <;> simp [h1, h2, h3, h4, h5]
          · intro v
            cases C.clientSecret <;> simp [Ne.symm h1, h6, h7, h8, h9]
          · intro v
            cases C.clientSecret <;> simp [Ne.symm h2, Ne.symm h6, h10, h11, h12]
          · intro v
            cases C.clientSecret <;> simp [Ne.symm h3, Ne.symm h7, Ne.symm h10, h13, h14]

/-! ## What is known of the claims -/

/-- The token's header says `EdDSA`, its signature verifies under the key that was looked up for it, and the
signed claims are from the issuer, for the client and with the nonce of the call, and neither expired nor from
the future. -/
structure Vouched {σ Key : Type} (L : Library Key) (K : KeyClient σ Key) (moment : Moment σ) (c : Call)
    (model : IdTokenClaims) (claims : Claims) : Prop where
  header : ∃ header, L.getUnverifiedHeader c.token = .ok header ∧ eddsa header = true
  signed : ∃ key, (getSigningKey K moment.verifier moment.monotonic c.token).1 = .ok key ∧
    L.payload c.token key = some claims
  issuer : issuerRule c claims = true
  audience : audienceRule c claims = true
  nonce : nonceRule c claims = true
  exp : Passes (Json.get claims (lit "exp")) (expFails c)
  iat : Passes (Json.get claims (lit "iat")) (iatFails c)
  model : L.modelValidate claims = some model

theorem refuse_ne {α : Type} {reason : Reason} {message : PyStr} {a : α} :
    (refuse reason message : Except Exc α) ≠ .ok a := by
  rintro ⟨⟩

theorem checkTimeClaim_ok {v : Json} {fails : Float → Bool} {reason : Reason} {missing message : PyStr}
    (h : checkTimeClaim v fails (refuse reason missing) message = .ok ()) : Passes v fails := by
  unfold checkTimeClaim at h
  split at h
  · exact absurd h refuse_ne
  · cases h
  · next x hx =>
    split at h
    · exact absurd h refuse_ne
    · next hfails => exact ⟨x, hx, Bool.eq_false_iff.2 hfails⟩

theorem checkNonce_ok {c : Call} {claims : Claims} (h : checkNonce c claims = .ok ()) : nonceRule c claims = true := by
  unfold checkNonce at h
  unfold nonceRule
  cases hn : c.nonce with
  | none => rfl
  | some nonce =>
    rw [hn] at h
    dsimp only at h ⊢
    split at h
    · exact absurd h refuse_ne
    · next claimNonce hclaim =>
      obtain ⟨equal, hequal, hrest⟩ := bind_ok h
      cases equal with
      | false => exact absurd hrest refuse_ne
      | true =>
        rw [hclaim]
        unfold constantTimeEquals encodeUtf8 at hequal
        split at hequal
        · cases hequal
        · next a ha =>
          split at hequal
          · cases hequal
          · next b hb =>
            have hsame : a = b := of_decide_eq_true (Except.ok.inj hequal)
            split at ha
            · split at hb
              · rw [← Option.some.inj ha, ← Option.some.inj hb] at hsame
                rw [utf8_injective hsame]
                simp
              · cases hb
            · cases ha

/-- **Soundness of the validation**: what it returns is vouched for. -/
theorem validateIdToken_sound {σ Key : Type} {L : Library Key} {K : KeyClient σ Key} {moment : Moment σ} {c : Call}
    {model : IdTokenClaims} (h : (validateIdToken L K moment.verifier moment.monotonic c).1 = .ok model) :
    ∃ claims, Vouched L K moment c model claims := by
  obtain ⟨claims, hverified, hchecks⟩ := bind_ok h
  unfold verifyIdTokenSignature at hverified
  split at hverified
  · cases hverified
  · next header hheader =>
    split at hverified
    · cases hverified
    · next halg =>
      obtain ⟨key, hkey, hdecoded⟩ := bind_ok hverified
      obtain ⟨⟨⟩, hissuer, hchecks⟩ := bind_ok hchecks
      obtain ⟨⟨⟩, haudience, hchecks⟩ := bind_ok hchecks
      obtain ⟨⟨⟩, htime, hchecks⟩ := bind_ok hchecks
      obtain ⟨⟨⟩, hnonce, hmodel⟩ := bind_ok hchecks
      obtain ⟨⟨⟩, hexp, htime⟩ := bind_ok htime
      obtain ⟨⟨⟩, hiat, -⟩ := bind_ok htime
      refine ⟨claims, ⟨?_, ?_, ?_, ?_, checkNonce_ok hnonce, checkTimeClaim_ok hexp, checkTimeClaim_ok hiat, ?_⟩⟩
      · unfold headerOf at hheader
        unfold assertIdTokenAlg at halg
        split at hheader
        · next header' hread =>
          obtain rfl := Except.ok.inj hheader
          split at halg
          · next heddsa => exact ⟨header', hread, decide_eq_true heddsa⟩
          · exact absurd halg refuse_ne
        · cases hheader
        · cases hheader
      · unfold keyOf at hkey
        split at hkey
        · next key' hlooked =>
          obtain rfl := Except.ok.inj hkey
          refine ⟨key', hlooked, ?_⟩
          unfold decodeSigned at hdecoded
          split at hdecoded
          · next claims' hdecode =>
            obtain rfl := Except.ok.inj hdecoded
            exact L.decode_signed hdecode
          · exact absurd hdecoded refuse_ne
          · cases hdecoded
        · exact absurd hkey refuse_ne
        · cases hkey
      · unfold checkIssuer at hissuer
        split at hissuer
        · next heq => exact decide_eq_true heq
        · exact absurd hissuer refuse_ne
      · unfold checkAudience at haudience
        split at haudience
        · exact absurd haudience refuse_ne
        · next hclient =>
          split at haudience
          · exact absurd haudience refuse_ne
          · next hmany =>
            rw [Bool.not_eq_false] at hclient
            unfold audienceRule
            rw [hclient, decide_eq_true hmany]
            rfl
      · unfold validateModel at hmodel
        split at hmodel
        · next model' hvalid =>
          obtain rfl := Except.ok.inj hmodel
          exact hvalid
        · cases hmodel

/-! ## What is known of a token set -/

/-- The call that validates a token of the response. -/
def callFor {σ Key : Type} (E : Exchanger σ Key) (cfg : OidcRefresh.OidcConfiguration) (clientId : PyStr)
    (nonce : Option PyStr) (moment : Moment σ) (token : PyStr) : Call :=
  ⟨token, cfg.issuer, clientId, nonce, E.clockSkewSec, moment.now⟩

/-- **A token set that is returned** was answered with 200, and its claims, if it has any, are vouched for under
the issuer, the client and the nonce that were asked for; it has none only if the answer has no ID token. -/
theorem handleTokenResponse_ok {σ Key : Type} {E : Exchanger σ Key} {r : HttpResponse}
    {cfg : OidcRefresh.OidcConfiguration} {nonce : Option PyStr} {moment : Moment σ} {tokens : OidcTokenSet}
    (h : handleTokenResponse E r cfg nonce moment = .ok tokens) :
    ∃ wire, r.status = 200 ∧ r.json E.http.toPlatform = .ok (.obj wire) ∧
      match tokens.idClaims with
      | none => truthy (Json.get wire (lit "id_token")) = false
      | some model => ∃ clientId token claims, requireOidcClientId E.client = .ok clientId ∧
          Json.get wire (lit "id_token") = .str token ∧
          Vouched E.library E.keys moment (callFor E cfg clientId nonce moment token) model claims := by
  unfold handleTokenResponse at h
  split at h
  · cases h
  · next hstatus =>
    split at h
    · cases h
    · next wire hwire =>
      refine ⟨wire, not_not.1 hstatus, hwire, ?_⟩
      obtain ⟨idClaims, hclaims, hrest⟩ := bind_ok h
      have hsame : tokens.idClaims = idClaims := by
        split at hrest
        · obtain ⟨fields, -, hfields⟩ := bind_ok hrest
          rw [← Except.ok.inj hfields]
        · cases hrest
      rw [hsame]
      unfold validatedClaims at hclaims
      split at hclaims
      · split at hclaims
        · cases hclaims
        · next token htoken =>
          split at hclaims
          · cases hclaims
          · next clientId hclient =>
            cases hvalid : (validateIdToken E.library E.keys moment.verifier moment.monotonic
                (callFor E cfg clientId nonce moment token)).1 with
            | error e =>
              unfold callFor at hvalid
              rw [hvalid] at hclaims
              cases hclaims
            | ok model =>
              have hmodel := hvalid
              unfold callFor at hvalid
              rw [hvalid] at hclaims
              obtain rfl := Except.ok.inj hclaims
              obtain ⟨claims, hvouched⟩ := validateIdToken_sound hmodel
              have hstr : Json.get wire (lit "id_token") = .str token := by
                cases hjson : Json.get wire (lit "id_token") with
                | str s =>
                  rw [hjson] at htoken
                  rw [Option.some.inj htoken]
                | _ =>
                  rw [hjson] at htoken
                  cases htoken
              exact ⟨clientId, token, claims, hclient, hstr, hvouched⟩
      · next hfalse =>
        obtain rfl := Except.ok.inj hclaims
        exact Bool.eq_false_iff.2 hfalse
    · cases h

end AxiamSdk.Login
