import AxiamSdk.Login.AuthorizationUrl
import AxiamSdk.Login.TokenSet

/-! # Pushing the authorization request (`oidc_par` of `_oidc.py`)

* `parForm`: what is pushed for a request that `oidc_begin` has built.
* `buildPushedRequest`: the answer, and the URL that the browser is sent to.
* `par_pushes_begun`: what is pushed is what the begun URL carries, and the browser carries none of it. -/

namespace AxiamSdk.Login
open PyLib
open OidcRefresh (OidcClient requireOidcClientId)
set_option autoImplicit false

/-! ## The form -/

/-- The first hint that is not blank. -/
def hintAmong (pairs : List (PyStr × PyStr)) : Option PyStr :=
  (pairs.find? (fun p => decide (p.1 = authorizeIdpHintParam) && !p.2.isEmpty)).map Prod.snd

/-- `_argsurl_idp_hint` -/
def beginUrlIdpHint (checks : UrlChecks) (url : PyStr) : Except Exc (Option PyStr) :=
  match urlsplit checks url with
  | none => .error .valueError
  | some parts => .ok (hintAmong (parseQsl parts.query))

/-- The hint that is pushed: the argument, and else the one of the begun URL. -/
def pushedHint (checks : UrlChecks) (url : PyStr) : Option PyStr → Except Exc (Option PyStr)
  | some hint => .ok (some hint)
  | none => beginUrlIdpHint checks url

/-- The arguments of `oidc_par` that the form reads. -/
structure ParArgs where
  redirectUri : PyStr
  scope : ScopeArg
  dpopJkt : Option PyStr
  idpHint : Option PyStr

/-- `_par_form` -/
def parForm (C : OidcClient) (sha256 : Bytes → Bytes) (request : AuthorizationRequest) (args : ParArgs) :
    Except Exc (List (PyStr × PyStr)) := do
  let clientId ← requireOidcClientId C
  let challenge ← computeCodeChallenge sha256 request.codeVerifier
  let given ← validateIdpHint args.idpHint
  let hint ← pushedHint C.urlChecks request.url given
  return [(lit "client_id", clientId), (lit "response_type", lit "code"), (lit "redirect_uri", args.redirectUri),
      (lit "scope", normalizeScope args.scope), (lit "state", request.state), (lit "nonce", request.nonce),
      (lit "code_challenge", challenge), (lit "code_challenge_method", lit "S256")]
    ++ (args.dpopJkt.map fun jkt => (lit "dpop_jkt", jkt)).toList
    ++ hintParams hint
    ++ (C.clientSecret.map fun secret => (lit "client_secret", secret)).toList

/-! ## The answer -/

/-- `PushedAuthorizationRequest`; `expires_in` is what the model validation makes of it. -/
structure PushedAuthorizationRequest where
  authorizationUrl : PyStr
  requestUri : PyStr
  expiresIn : ℤ
  state : PyStr
  nonce : PyStr
  codeVerifier : PyStr

/-- `_build_pushed_request`; `validate` is the model validation of `request_uri` and `expires_in`. -/
def buildPushedRequest (C : OidcClient) (H : HttpPlatform) (validate : Json → Json → Except Exc (PyStr × ℤ))
    (r : HttpResponse) (cfg : OidcConfiguration) (request : AuthorizationRequest) :
    Except Exc PushedAuthorizationRequest :=
  if r.status ≠ 201 then .error (raisedForOauth2 H false (lit "pushed authorization request failed") r)
  else
    match r.json H.toPlatform with
    | .error e => .error e
    | .ok (.obj wire) =>
      match Assoc.get? wire (lit "request_uri") with
      | none => .error .keyError
      | some requestUri =>
        match requireOidcClientId C with
        | .error e => .error e
        | .ok clientId =>
          match requestUri.asStr? with
          -- `quote` refuses what is no text
          | none => .error .typeError
          | some uri =>
            match appendQuery C.urlChecks cfg.authorizationEndpoint
                [(lit "client_id", clientId), (lit "request_uri", uri)] with
            | .error e => .error e
            | .ok url =>
              match Assoc.get? wire (lit "expires_in") with
              | none => .error .keyError
              | some expiresIn =>
                match validate requestUri expiresIn with
                | .error e => .error e
                | .ok (_, seconds) =>
                  .ok ⟨url, uri, seconds, request.state, request.nonce, request.codeVerifier⟩
    | .ok _ => .error .typeError

/-! ## What is pushed -/

theorem hintAmong_append (ps qs : List (PyStr × PyStr)) :
    hintAmong (ps ++ qs) = (hintAmong ps).or (hintAmong qs) := by
  unfold hintAmong
  rw [List.find?_append]
  cases ps.find? (fun p => decide (p.1 = authorizeIdpHintParam) && !p.2.isEmpty) with
  | none => rfl
  | some p => rfl

theorem hintAmong_eq_none {ps : List (PyStr × PyStr)} (h : ∀ p ∈ ps, p.1 ≠ authorizeIdpHintParam) :
    hintAmong ps = none := by
  unfold hintAmong
  rw [List.find?_eq_none.2]
  · rfl
  · intro p hp
    rw [decide_eq_false (h p hp)]
    exact Bool.false_ne_true

theorem hintAmong_owned (clientId redirectUri scope state nonce challenge : PyStr) :
    hintAmong (ownedParams clientId redirectUri scope state nonce challenge) = none := by
  refine hintAmong_eq_none fun p hp => ?_
  have hname : p.1 ∈ reservedAuthorizeParams := by
    rw [← ownedParams_names clientId redirectUri scope state nonce challenge]
    exact List.mem_map_of_mem hp
  rintro hp
  rw [hp] at hname
  revert hname
  decide

theorem hintAmong_hintParams {hint : PyStr} (h : hint ≠ []) : hintAmong (hintParams (some hint)) = some hint := by
  cases hint with
  | nil => exact absurd rfl h
  | cons c hint => rfl

theorem validateIdpHint_ne {idpHint : Option PyStr} {hint : PyStr} (h : validateIdpHint idpHint = .ok (some hint)) :
    hint ≠ [] := by
  obtain rfl := validateIdpHint_ok h
  rintro rfl
  cases h

/-- What is pushed names the same client, redirect URI, scope, state, nonce and challenge as the begun URL. -/
theorem parForm_owned {C : OidcClient} {sha256 : Bytes → Bytes} {request : AuthorizationRequest} {args : ParArgs}
    {form : List (PyStr × PyStr)} (h : parForm C sha256 request args = .ok form) :
    ∃ clientId challenge hint, requireOidcClientId C = .ok clientId ∧
      computeCodeChallenge sha256 request.codeVerifier = .ok challenge ∧
      pushedHint C.urlChecks request.url args.idpHint = .ok hint ∧
      (∀ p, p ∈ form ∧ p.1 ∈ authorizeIdpHintParam :: reservedAuthorizeParams ↔
        p ∈ ownedParams clientId args.redirectUri (normalizeScope args.scope) request.state request.nonce challenge ++
          hintParams hint) := by
  obtain ⟨clientId, hclient, h⟩ := bind_ok h
  obtain ⟨challenge, hchallenge, h⟩ := bind_ok h
  obtain ⟨given, hgiven, h⟩ := bind_ok h
  obtain ⟨hint, hhint, h⟩ := bind_ok h
  obtain rfl := Except.ok.inj h
  obtain rfl := validateIdpHint_ok hgiven
  refine ⟨clientId, challenge, hint, hclient, hchallenge, hhint, ?_⟩
  · have hjkt : lit "dpop_jkt" ∉ authorizeIdpHintParam :: reservedAuthorizeParams := by decide
    have hsecret : lit "client_secret" ∉ authorizeIdpHintParam :: reservedAuthorizeParams := by decide
    have howned : ∀ q ∈ ownedParams clientId args.redirectUri (normalizeScope args.scope) request.state request.nonce
        challenge, q.1 ∈ authorizeIdpHintParam :: reservedAuthorizeParams := by
      intro q hq
      refine List.mem_cons_of_mem _ ?_
      rw [← ownedParams_names clientId args.redirectUri (normalizeScope args.scope) request.state request.nonce
        challenge]
      exact List.mem_map_of_mem hq
    have hhints : ∀ q ∈ hintParams hint, q.1 ∈ authorizeIdpHintParam :: reservedAuthorizeParams := by
      intro q hq
      cases hint with
      | none => cases hq
      | some v =>
        obtain rfl := List.mem_singleton.1 hq
        exact List.mem_cons_self
    have hswap : ∀ q, q ∈ [(lit "client_id", clientId), (lit "response_type", lit "code"),
        (lit "redirect_uri", args.redirectUri), (lit "scope", normalizeScope args.scope), (lit "state", request.state),
        (lit "nonce", request.nonce), (lit "code_challenge", challenge), (lit "code_challenge_method", lit "S256")] ↔
        q ∈ ownedParams clientId args.redirectUri (normalizeScope args.scope) request.state request.nonce
          challenge := by
      intro q
      simp only [ownedParams, List.mem_cons, List.not_mem_nil, or_false]
      exact or_left_comm
    have hdpop : ∀ q ∈ (args.dpopJkt.map fun jkt => (lit "dpop_jkt", jkt)).toList,
        q.1 ∉ authorizeIdpHintParam :: reservedAuthorizeParams := by
      intro q hq
      cases hcase : args.dpopJkt with
      | none =>
        rw [hcase] at hq
        cases hq
      | some v =>
        rw [hcase] at hq
        obtain rfl := List.mem_singleton.1 hq
        exact hjkt
    have hclientSecret : ∀ q ∈ (C.clientSecret.map fun secret => (lit "client_secret", secret)).toList,
        q.1 ∉ authorizeIdpHintParam :: reservedAuthorizeParams := by
      intro q hq
      cases hcase : C.clientSecret with
      | none =>
        rw [hcase] at hq
        cases hq
      | some v =>
        rw [hcase] at hq
        obtain rfl := List.mem_singleton.1 hq
        exact hsecret
    intro p
    simp only [List.mem_append]
    constructor
    · rintro ⟨((hp | hp) | hp) | hp, hname⟩
      · exact .inl ((hswap p).1 hp)
      · exact absurd hname (hdpop p hp)
      · exact .inr hp
      · exact absurd hname (hclientSecret p hp)
    · rintro (hp | hp)
      · exact ⟨.inl (.inl (.inl ((hswap p).2 hp))), howned p hp⟩
      · exact ⟨.inl (.inr hp), hhints p hp⟩

/-- The hint that a begun URL carries: of the endpoint's own query, of the caller's parameters, or the argument. -/
theorem beginUrlIdpHint_begun {checks : UrlChecks} {url : PyStr} {parts : SplitResult} {own passed : List (PyStr × PyStr)}
    {clientId redirectUri scope state nonce challenge : PyStr} {idpHint : Option PyStr}
    (hsplit : urlsplit checks url = some parts)
    (hquery : parseQsl parts.query = own ++ (passed ++ (ownedParams clientId redirectUri scope state nonce challenge ++
      hintParams idpHint)))
    (hvalid : idpHint ≠ some []) :
    beginUrlIdpHint checks url = .ok ((hintAmong own).or ((hintAmong passed).or idpHint)) := by
  unfold beginUrlIdpHint
  rw [hsplit]
  dsimp only
  rw [hquery, hintAmong_append, hintAmong_append, hintAmong_append, hintAmong_owned, Option.none_or]
  cases idpHint with
  | none => rfl
  | some hint => rw [hintAmong_hintParams (fun h => hvalid (congrArg some h))]

theorem buildPushedRequest_ok {C : OidcClient} {H : HttpPlatform} {validate : Json → Json → Except Exc (PyStr × ℤ)}
    {r : HttpResponse} {cfg : OidcConfiguration} {request : AuthorizationRequest} {pushed : PushedAuthorizationRequest}
    (h : buildPushedRequest C H validate r cfg request = .ok pushed) :
    r.status = 201 ∧ pushed.state = request.state ∧ pushed.nonce = request.nonce ∧
      pushed.codeVerifier = request.codeVerifier ∧
      ∃ clientId, requireOidcClientId C = .ok clientId ∧
        appendQuery C.urlChecks cfg.authorizationEndpoint
          [(lit "client_id", clientId), (lit "request_uri", pushed.requestUri)] = .ok pushed.authorizationUrl := by
  unfold buildPushedRequest at h
  split at h
  · cases h
  · next hstatus =>
    refine ⟨not_not.1 hstatus, ?_⟩
    split at h
    · cases h
    · split at h
      · cases h
      · split at h
        · cases h
        · next clientId hclient =>
          split at h
          · cases h
          · split at h
            · cases h
            · next url hurl =>
              split at h
              · cases h
              · split at h
                · cases h
                · obtain rfl := Except.ok.inj h
                  exact ⟨rfl, rfl, rfl, clientId, hclient, hurl⟩
    · cases h

/-- The form holds the eight parameters of the begun URL, and one hint: the one given to the push, or else the
first that the begun URL carries. The URL that the browser is sent to adds to the endpoint's own query the client
and the handle, and nothing else. -/
def Pushes (C : OidcClient) (cfg cfg' : OidcConfiguration) (args : BeginArgs) (par : ParArgs)
    (request : AuthorizationRequest) (form : List (PyStr × PyStr)) (pushed : PushedAuthorizationRequest) : Prop :=
  ∃ (clientId : PyStr) (parts : SplitResult) (query : PyStr) (owned : List (PyStr × PyStr)) (hint : Option PyStr)
    (parts' : SplitResult) (query' : PyStr),
    urlsplit C.urlChecks cfg.authorizationEndpoint = some parts ∧
    urlsplit C.urlChecks request.url = some { parts with path := Url.rootedPath parts, query := query } ∧
    parseQsl query = parseQsl parts.query ++ (passedOn args ++ (owned ++ hintParams args.idpHint)) ∧
    owned.map Prod.fst = reservedAuthorizeParams ∧
    (∀ p, p ∈ form ∧ p.1 ∈ authorizeIdpHintParam :: reservedAuthorizeParams ↔ p ∈ owned ++ hintParams hint) ∧
    hint = par.idpHint.or ((hintAmong (parseQsl parts.query)).or ((hintAmong (passedOn args)).or args.idpHint)) ∧
    urlsplit C.urlChecks pushed.authorizationUrl =
      some { parts' with path := Url.rootedPath parts', query := query' } ∧
    urlsplit C.urlChecks cfg'.authorizationEndpoint = some parts' ∧
    parseQsl query' = parseQsl parts'.query ++ [(lit "client_id", clientId), (lit "request_uri", pushed.requestUri)] ∧
    pushed.state = request.state ∧ pushed.nonce = request.nonce ∧ pushed.codeVerifier = request.codeVerifier

/-- **A pushed request**, for the redirect URI and the scope of the begun one, pushes what the begun URL carries. -/
theorem par_pushes_begun {C : OidcClient} {sha256 : Bytes → Bytes} {H : HttpPlatform}
    {validate : Json → Json → Except Exc (PyStr × ℤ)} {cfg cfg' : OidcConfiguration} {args : BeginArgs} {drawn : Drawn}
    {request : AuthorizationRequest} {par : ParArgs} {form : List (PyStr × PyStr)} {r : HttpResponse}
    {pushed : PushedAuthorizationRequest} (hbegin : oidcBegin C sha256 cfg args drawn = .ok request)
    (hredirect : par.redirectUri = args.redirectUri) (hscope : par.scope = args.scope)
    (hform : parForm C sha256 request par = .ok form)
    (hpushed : buildPushedRequest C H validate r cfg' request = .ok pushed) :
    Pushes C cfg cfg' args par request form pushed := by
  obtain ⟨clientId, challenge, parts, query, params, hclient, hchallenge, hparts, hsplit, hquery, rfl, -⟩ :=
    oidcBegin_ok hbegin
  obtain ⟨clientId', challenge', hint, hclient', hchallenge', hhint, hmem⟩ := parForm_owned hform
  obtain ⟨-, hstate, hnonce, hverifier, clientId'', hclient'', happend⟩ := buildPushedRequest_ok hpushed
  obtain ⟨parts', query', hparts', hsplit', hquery'⟩ := appendQuery_spec happend
  obtain rfl : clientId = clientId' := Except.ok.inj (hclient.symm.trans hclient')
  obtain rfl : clientId = clientId'' := Except.ok.inj (hclient.symm.trans hclient'')
  obtain rfl : challenge = challenge' := Except.ok.inj (hchallenge.symm.trans hchallenge')
  rw [hredirect, hscope] at hmem
  have hblank : args.idpHint ≠ some [] := by
    obtain ⟨given, hgiven, -⟩ := bind_ok (bind_ok hbegin).choose_spec.2
    intro hnil
    rw [hnil] at hgiven
    cases hgiven
  refine ⟨clientId, parts, query, _, hint, parts', query', hparts, hsplit, hquery, ownedParams_names _ _ _ _ _ _, hmem, ?_,
    hsplit', hparts', hquery', hstate, hnonce, hverifier⟩
  cases hcase : par.idpHint with
  | some given =>
    rw [hcase] at hhint
    exact (Except.ok.inj hhint).symm
  | none =>
    rw [hcase] at hhint
    have hbegun := beginUrlIdpHint_begun hsplit hquery hblank
    rw [Option.none_or]
    exact Except.ok.inj (hhint.symm.trans hbegun)

namespace Begun

def platform : HttpPlatform :=
  ⟨⟨⟨4300, 990, 990, fun _ => []⟩, fun _ _ => List.replicate 32 0, fun _ => none⟩, fun _ => none,
    fun _ => .error .valueError⟩

def validate (requestUri expiresIn : Json) : Except Exc (PyStr × ℤ) :=
  match requestUri.asStr?, expiresIn with
  | some uri, .int seconds => .ok (uri, seconds)
  | _, _ => .error .valueError

def created : HttpResponse :=
  ⟨201, (encodeUtf8 (lit "\x7b\"request_uri\":\"urn:r:1\",\"expires_in\":60\x7d")).getD [], none, 0⟩

def par : ParArgs := ⟨args.redirectUri, args.scope, none, none⟩

/-- The URL that a push ends with. -/
def redirected : Except Exc PyStr := do
  let request ← oidcBegin OidcRefresh.TwoTokens.client (fun _ => digest) configuration args drawn
  let _ ← parForm OidcRefresh.TwoTokens.client (fun _ => digest) request par
  let pushed ← buildPushedRequest OidcRefresh.TwoTokens.client platform validate created configuration request
  return pushed.authorizationUrl

theorem redirected_eq :
    redirected = .ok (lit "https://op/authorize?p=q&client_id=rp&request_uri=urn%3Ar%3A1") :=
  eq_ok_of_toOption (by decide +kernel)

end Begun

open Begun in
theorem begun_pushed : ∃ request form pushed,
    pushed.authorizationUrl = lit "https://op/authorize?p=q&client_id=rp&request_uri=urn%3Ar%3A1" ∧
      Pushes OidcRefresh.TwoTokens.client configuration configuration args par request form pushed := by
  obtain ⟨request, hbegun, hrest⟩ := bind_ok redirected_eq
  obtain ⟨form, hform, hrest⟩ := bind_ok hrest
  obtain ⟨pushed, hpushed, hurl⟩ := bind_ok hrest
  exact ⟨request, form, pushed, Except.ok.inj hurl, par_pushes_begun hbegun rfl rfl hform hpushed⟩

end AxiamSdk.Login
