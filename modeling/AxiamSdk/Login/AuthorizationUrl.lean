import AxiamSdk.Lib.Base64
import AxiamSdk.Lib.Dict
import AxiamSdk.Lib.UrlParts
import AxiamSdk.OidcRefresh

/-! # The authorization request (`_oidc.py`, `_oidc_pkce.py`)

* `oidcBegin`: the URL with the caller's parameters, the SDK's own eight and the provider hint, and the state,
  nonce and PKCE verifier that go with it.
* `appendQuery_spec`: what a URL that parameters were appended to is read as.
* `oidcBegin_reads_back`: the URL, split and parsed again, names the endpoint with its own query and behind it
  exactly these parameters, each with one value. -/

namespace AxiamSdk.Login
open PyLib
open OidcRefresh (OidcClient requireOidcClientId)
set_option autoImplicit false

/-! ## The parameters -/

/-- What the authorization request reads of an `OidcConfiguration`. -/
structure OidcConfiguration extends OidcRefresh.OidcConfiguration where
  authorizationEndpoint : PyStr

/-- The `scope` argument: none, a string, or a sequence of strings. -/
inductive ScopeArg
  | none
  | text (scope : PyStr)
  | values (scopes : List PyStr)

/-- `_OPENID_SCOPE` -/
def openidScope : PyStr := lit "openid"

/-- The first occurrence of each text that is not among `seen`. -/
def dedupeGo : List PyStr → List PyStr → List PyStr
  | _, [] => []
  | seen, value :: values =>
    if value ∈ seen then dedupeGo seen values else value :: dedupeGo (value :: seen) values

def requestedScopes : ScopeArg → List PyStr
  | .none => []
  | .text scope => splitOn (ch ' ') scope
  | .values scopes => scopes

/-- The values of `_normalize_scope` before they are joined. -/
def scopeValues (scope : ScopeArg) : List PyStr :=
  let values := ((requestedScopes scope).map strip).filter (fun value => !value.isEmpty)
  dedupeGo [] (if openidScope ∈ values then values else openidScope :: values)

/-- `_normalize_scope` -/
def normalizeScope (scope : ScopeArg) : PyStr := List.intercalate [ch ' '] (scopeValues scope)

/-- `AUTHORIZE_IDP_HINT_PARAM` -/
def authorizeIdpHintParam : PyStr := lit "axiam_idp_hint"

/-- `IDP_HINT_MAX_BYTES` -/
def idpHintMaxBytes : ℕ := 256

/-- `_validate_idp_hint` -/
def validateIdpHint : Option PyStr → Except Exc (Option PyStr)
  | none => .ok none
  | some hint =>
    if hint.isEmpty then .error .valueError
    else
      match encodeUtf8 hint with
      | none => .error .unicodeEncodeError
      | some octets => if idpHintMaxBytes < octets.length then .error .valueError else .ok (some hint)

/-- `_RESERVED_AUTHORIZE_PARAMS` -/
def reservedAuthorizeParams : List PyStr :=
  [lit "response_type", lit "client_id", lit "redirect_uri", lit "scope", lit "state", lit "nonce",
    lit "code_challenge", lit "code_challenge_method"]

/-- `compute_code_challenge` -/
def computeCodeChallenge (sha256 : Bytes → Bytes) (codeVerifier : PyStr) : Except Exc PyStr :=
  match encodeAscii codeVerifier with
  | none => .error .unicodeEncodeError
  | some octets => .ok (Base64.urlsafeEncode (sha256 octets))

/-- The eight parameters of the SDK, in the order of its assignments. -/
def ownedParams (clientId redirectUri scope state nonce codeChallenge : PyStr) : List (PyStr × PyStr) :=
  [(lit "response_type", lit "code"), (lit "client_id", clientId), (lit "redirect_uri", redirectUri),
    (lit "scope", scope), (lit "state", state), (lit "nonce", nonce), (lit "code_challenge", codeChallenge),
    (lit "code_challenge_method", lit "S256")]

def hintParams (hint : Option PyStr) : List (PyStr × PyStr) :=
  (hint.map fun hint => (authorizeIdpHintParam, hint)).toList

/-- The loop over `extra_params`. -/
def addExtraParams (hinted : Bool) : List (PyStr × PyStr) → Dict PyStr PyStr → Except Exc (Dict PyStr PyStr)
  | [], query => .ok query
  | (key, value) :: rest, query =>
    if key ∈ reservedAuthorizeParams then .error .valueError
    else if hinted && decide (key = authorizeIdpHintParam) then addExtraParams hinted rest query
    else addExtraParams hinted rest (query.set key value)

/-- Assignments one after another. -/
def assignAll (query : Dict PyStr PyStr) (params : List (PyStr × PyStr)) : Dict PyStr PyStr :=
  params.foldl (fun query p => query.set p.1 p.2) query

/-- `_append_query` -/
def appendQuery (checks : UrlChecks) (endpoint : PyStr) (params : List (PyStr × PyStr)) : Except Exc PyStr :=
  match urlsplit checks endpoint with
  | none => .error .valueError
  | some parts =>
    match quotePairs params with
    | none => .error .unicodeEncodeError
    | some newQuery =>
      let combined := if parts.query.isEmpty then newQuery else parts.query ++ ch '&' :: newQuery
      .ok (urlunsplit { parts with query := combined })

/-! ## The request -/

structure AuthorizationRequest where
  url : PyStr
  state : PyStr
  nonce : PyStr
  codeVerifier : PyStr

/-- The arguments of `oidc_begin`. -/
structure BeginArgs where
  redirectUri : PyStr
  scope : ScopeArg
  extraParams : Dict PyStr PyStr
  idpHint : Option PyStr

/-- The octets drawn for the state, the nonce and the verifier. -/
structure Drawn where
  state : Bytes
  nonce : Bytes
  codeVerifier : Bytes

/-- `random_url_safe_token`, of the octets that were drawn. -/
def randomUrlSafeToken (octets : Bytes) : PyStr := Base64.urlsafeEncode octets

/-- `_oidc_begin_impl` -/
def oidcBegin (C : OidcClient) (sha256 : Bytes → Bytes) (cfg : OidcConfiguration) (args : BeginArgs)
    (drawn : Drawn) : Except Exc AuthorizationRequest := do
  let clientId ← requireOidcClientId C
  let hint ← validateIdpHint args.idpHint
  let state := randomUrlSafeToken drawn.state
  let nonce := randomUrlSafeToken drawn.nonce
  let codeVerifier := randomUrlSafeToken drawn.codeVerifier
  let codeChallenge ← computeCodeChallenge sha256 codeVerifier
  let extra ← addExtraParams hint.isSome args.extraParams.items Dict.empty
  let query := assignAll extra
    (ownedParams clientId args.redirectUri (normalizeScope args.scope) state nonce codeChallenge ++ hintParams hint)
  let url ← appendQuery C.urlChecks cfg.authorizationEndpoint query.items
  return ⟨url, state, nonce, codeVerifier⟩

/-! ## What is appended to a URL -/

theorem combined_clean {r : SplitResult} (hr : Url.Whole r) {params : List (PyStr × PyStr)} {newQuery : PyStr}
    (h : quotePairs params = some newQuery) :
    Url.Whole { r with query := if r.query.isEmpty then newQuery else r.query ++ ch '&' :: newQuery } := by
  have hnew : ∀ c ∈ newQuery, c ≠ ch '#' ∧ Url.isBreak c = false := by
    intro c hc
    have hchar := isPairChar_quotePairs h c hc
    refine ⟨?_, ?_⟩
    · rintro rfl
      revert hchar
      decide
    · rw [← Bool.not_eq_true]
      intro hbreak
      simp only [Url.isBreak, Bool.or_eq_true, decide_eq_true_eq] at hbreak
      revert hchar
      obtain (rfl | rfl) | rfl := hbreak <;> decide
  have hcombined : ∀ c ∈ (if r.query.isEmpty then newQuery else r.query ++ ch '&' :: newQuery),
      c ∈ r.query ∨ c = ch '&' ∨ c ∈ newQuery := by
    intro c hc
    split at hc
    · exact .inr (.inr hc)
    · rwa [List.mem_append, List.mem_cons] at hc
  have hclean : ∀ c ∈ r.scheme ++ r.netloc ++ r.path ++ r.query ++ r.fragment, Url.isBreak c = false := hr.clean
  simp only [List.mem_append] at hclean
  refine ⟨hr.scheme, hr.netloc, hr.path, ?_, hr.rooted, hr.plain, hr.head, ?_⟩
  · intro hc
    obtain hc | hc | hc := hcombined _ hc
    · exact hr.query hc
    · revert hc
      decide
    · exact (hnew _ hc).1 rfl
  · intro c hc
    simp only [List.mem_append] at hc
    obtain (((hc | hc) | hc) | hc) | hc := hc
    · exact hclean c (by simp [hc])
    · exact hclean c (by simp [hc])
    · exact hclean c (by simp [hc])
    · obtain hc | rfl | hc := hcombined c hc
      · exact hclean c (by simp [hc])
      · decide
      · exact (hnew c hc).2
    · exact hclean c (by simp [hc])

/-- **What a URL with appended parameters is read as**: the endpoint's own parts, and the parameters behind its
own query. -/
theorem appendQuery_spec {checks : UrlChecks} {endpoint url : PyStr} {params : List (PyStr × PyStr)}
    (h : appendQuery checks endpoint params = .ok url) :
    ∃ parts query, urlsplit checks endpoint = some parts ∧
      urlsplit checks url = some { parts with path := Url.rootedPath parts, query := query } ∧
      parseQsl query = parseQsl parts.query ++ params := by
  unfold appendQuery at h
  split at h
  · cases h
  · next parts hparts =>
    split at h
    · cases h
    · next newQuery hnew =>
      obtain rfl := Except.ok.inj h
      obtain ⟨haccepts, hwhole⟩ := Url.urlsplit_iff.1 hparts
      have hwhole : Url.Whole parts := hwhole ▸ Url.whole_partsOf endpoint
      have hnetloc : Url.accepts checks parts.netloc = true := by
        rw [← (Url.urlsplit_iff.1 hparts).2]
        exact haccepts
      refine ⟨parts, _, hparts, Url.urlsplit_urlunsplit (combined_clean hwhole hnew) hnetloc, ?_⟩
      cases hquery : parts.query with
      | nil =>
        rw [List.isEmpty_nil, if_pos rfl, parseQsl_quotePairs hnew]
        rfl
      | cons c query =>
        rw [List.isEmpty_cons, if_neg Bool.false_ne_true, parseQsl_append, parseQsl_quotePairs hnew]

/-! ## The assignments -/

theorem items_set_absent {κ ν : Type} [DecidableEq κ] {d : Dict κ ν} {k : κ} (hk : k ∉ d.keys) (v : ν) :
    (d.set k v).items = d.items ++ [(k, v)] := Assoc.set_absent hk v

theorem keys_eq {κ ν : Type} [DecidableEq κ] (d : Dict κ ν) : d.keys = d.items.map Prod.fst := rfl

theorem assignAll_items {query : Dict PyStr PyStr} {params : List (PyStr × PyStr)}
    (h : ((query.items ++ params).map Prod.fst).Nodup) : (assignAll query params).items = query.items ++ params := by
  induction params generalizing query with
  | nil => rw [assignAll, List.foldl_nil, List.append_nil]
  | cons p params ih =>
    have hfresh : p.1 ∉ query.keys := by
      rw [List.map_append, List.map_cons] at h
      intro hmem
      exact (List.nodup_append.1 h).2.2 p.1 hmem p.1 List.mem_cons_self rfl
    have hset : (query.set p.1 p.2).items = query.items ++ [p] := items_set_absent hfresh p.2
    have hnext : (((query.set p.1 p.2).items ++ params).map Prod.fst).Nodup := by
      rwa [hset, List.append_assoc, List.singleton_append]
    have hrest := ih hnext
    rw [hset, List.append_assoc, List.singleton_append] at hrest
    exact hrest

/-- The caller's parameters that are passed on. -/
def passedOn (args : BeginArgs) : List (PyStr × PyStr) :=
  args.extraParams.items.filter (fun p => !(args.idpHint.isSome && decide (p.1 = authorizeIdpHintParam)))

theorem addExtraParams_ok {hinted : Bool} {items : List (PyStr × PyStr)} {query extra : Dict PyStr PyStr}
    (h : addExtraParams hinted items query = .ok extra) (hnodup : ((query.items ++ items).map Prod.fst).Nodup) :
    extra.items = query.items ++ items.filter (fun p => !(hinted && decide (p.1 = authorizeIdpHintParam))) ∧
      ∀ p ∈ items, p.1 ∉ reservedAuthorizeParams := by
  induction items generalizing query with
  | nil =>
    obtain rfl := Except.ok.inj h
    rw [List.filter_nil, List.append_nil]
    exact ⟨rfl, fun p hp => absurd hp List.not_mem_nil⟩
  | cons p items ih =>
    obtain ⟨key, value⟩ := p
    rw [addExtraParams] at h
    split at h
    · cases h
    · next hfree =>
      have hall : (∀ p ∈ items, p.1 ∉ reservedAuthorizeParams) →
          ∀ p ∈ (key, value) :: items, p.1 ∉ reservedAuthorizeParams := by
        intro hrest p hp
        rw [List.mem_cons] at hp
        obtain rfl | hp := hp
        · exact hfree
        · exact hrest p hp
      split at h
      · next hskipped =>
        have hdrop : ((query.items ++ items).map Prod.fst).Nodup := by
          refine hnodup.sublist (List.Sublist.map _ ?_)
          exact List.Sublist.append_left (List.sublist_cons_self _ _) _
        obtain ⟨hitems, hrest⟩ := ih h hdrop
        refine ⟨?_, hall hrest⟩
        have hno : ¬ (!(hinted && decide (key = authorizeIdpHintParam))) = true := by
          rw [hskipped]
          decide
        rw [hitems, List.filter_cons_of_neg (p := fun p : PyStr × PyStr =>
          !(hinted && decide (p.1 = authorizeIdpHintParam))) hno]
      · next hkept =>
        have hfresh : key ∉ query.keys := by
          rw [List.map_append, List.map_cons] at hnodup
          intro hmem
          exact (List.nodup_append.1 hnodup).2.2 key hmem key List.mem_cons_self rfl
        have hset : (query.set key value).items = query.items ++ [(key, value)] := items_set_absent hfresh value
        have hnext : (((query.set key value).items ++ items).map Prod.fst).Nodup := by
          rwa [hset, List.append_assoc, List.singleton_append]
        obtain ⟨hitems, hrest⟩ := ih h hnext
        refine ⟨?_, hall hrest⟩
        have hyes : (!(hinted && decide (key = authorizeIdpHintParam))) = true := by
          rw [Bool.eq_false_iff.2 hkept]
          rfl
        rw [hitems, hset, List.filter_cons_of_pos (p := fun p : PyStr × PyStr =>
          !(hinted && decide (p.1 = authorizeIdpHintParam))) hyes, List.append_assoc]
        rfl

theorem validateIdpHint_ok {idpHint hint : Option PyStr} (h : validateIdpHint idpHint = .ok hint) :
    hint = idpHint := by
  unfold validateIdpHint at h
  split at h
  · exact (Except.ok.inj h).symm
  · split at h
    · cases h
    · split at h
      · cases h
      · split at h
        · cases h
        · exact (Except.ok.inj h).symm

theorem ownedParams_names (clientId redirectUri scope state nonce codeChallenge : PyStr) :
    (ownedParams clientId redirectUri scope state nonce codeChallenge).map Prod.fst = reservedAuthorizeParams := rfl

theorem names_nodup {passed : List (PyStr × PyStr)} (hnodup : (passed.map Prod.fst).Nodup)
    (hfree : ∀ p ∈ passed, p.1 ∉ reservedAuthorizeParams) {hint : Option PyStr}
    (hhint : hint ≠ none → ∀ p ∈ passed, p.1 ≠ authorizeIdpHintParam)
    (clientId redirectUri scope state nonce codeChallenge : PyStr) :
    ((passed ++ (ownedParams clientId redirectUri scope state nonce codeChallenge ++ hintParams hint)).map
      Prod.fst).Nodup := by
  have hreserved : reservedAuthorizeParams.Nodup := by decide
  have hhintName : authorizeIdpHintParam ∉ reservedAuthorizeParams := by decide
  have hnames : (hintParams hint).map Prod.fst = if hint = none then [] else [authorizeIdpHintParam] := by
    cases hint <;> rfl
  rw [List.map_append, List.map_append, ownedParams_names, hnames]
  refine List.nodup_append.2 ⟨hnodup, ?_, ?_⟩
  · split
    · rwa [List.append_nil]
    · refine List.nodup_append.2 ⟨hreserved, List.nodup_singleton _, ?_⟩
      intro a ha b hb hab
      obtain rfl := List.mem_singleton.1 hb
      exact hhintName (hab ▸ ha)
  · intro a ha b hb hab
    obtain ⟨p, hp, rfl⟩ := List.mem_map.1 ha
    rw [List.mem_append] at hb
    obtain hb | hb := hb
    · exact hfree p hp (hab ▸ hb)
    · split at hb
      · cases hb
      · next hsome =>
        obtain rfl := List.mem_singleton.1 hb
        exact hhint hsome p hp hab

/-! ## The request is read back -/

theorem computeCodeChallenge_ok {sha256 : Bytes → Bytes} {codeVerifier challenge : PyStr}
    (h : computeCodeChallenge sha256 codeVerifier = .ok challenge) :
    ∃ octets, encodeAscii codeVerifier = some octets ∧ challenge = Base64.urlsafeEncode (sha256 octets) := by
  unfold computeCodeChallenge at h
  split at h
  · cases h
  · next octets hoctets => exact ⟨octets, hoctets, (Except.ok.inj h).symm⟩

/-- The endpoint's parts with its own query, and behind it the caller's parameters, the eight of the SDK and the
hint, no two under one name. -/
theorem oidcBegin_ok {C : OidcClient} {sha256 : Bytes → Bytes} {cfg : OidcConfiguration} {args : BeginArgs}
    {drawn : Drawn} {request : AuthorizationRequest} (h : oidcBegin C sha256 cfg args drawn = .ok request) :
    ∃ clientId challenge parts query params,
      requireOidcClientId C = .ok clientId ∧
      computeCodeChallenge sha256 request.codeVerifier = .ok challenge ∧
      urlsplit C.urlChecks cfg.authorizationEndpoint = some parts ∧
      urlsplit C.urlChecks request.url = some { parts with path := Url.rootedPath parts, query := query } ∧
      parseQsl query = parseQsl parts.query ++ params ∧
      params = passedOn args ++ (ownedParams clientId args.redirectUri (normalizeScope args.scope) request.state
        request.nonce challenge ++ hintParams args.idpHint) ∧
      (params.map Prod.fst).Nodup := by
  obtain ⟨clientId, hclient, h⟩ := bind_ok h
  obtain ⟨hint, hhint, h⟩ := bind_ok h
  obtain ⟨challenge, hchallenge, h⟩ := bind_ok h
  obtain ⟨extra, hextra, h⟩ := bind_ok h
  obtain ⟨url, hurl, h⟩ := bind_ok h
  obtain rfl := Except.ok.inj h
  obtain rfl := validateIdpHint_ok hhint
  obtain ⟨hitems, hfree⟩ := addExtraParams_ok hextra args.extraParams.nodup
  have hpassed : extra.items = passedOn args := hitems
  have hnames : ((extra.items ++ (ownedParams clientId args.redirectUri (normalizeScope args.scope)
      (randomUrlSafeToken drawn.state) (randomUrlSafeToken drawn.nonce) challenge ++
      hintParams args.idpHint)).map Prod.fst).Nodup := by
    refine names_nodup extra.nodup ?_ ?_ _ _ _ _ _ _
    · intro p hp
      rw [hpassed] at hp
      exact hfree p (List.mem_of_mem_filter hp)
    · intro hsome p hp hname
      rw [hpassed] at hp
      have hkept := (List.mem_filter.1 hp).2
      rw [Option.isSome_iff_ne_none.2 hsome, decide_eq_true hname] at hkept
      cases hkept
  rw [assignAll_items hnames, hpassed] at hurl
  rw [hpassed] at hnames
  obtain ⟨parts, query, hparts, hsplit, hquery⟩ := appendQuery_spec hurl
  exact ⟨clientId, challenge, parts, query, _, hclient, hchallenge, hparts, hsplit, hquery, rfl, hnames⟩

/-- The values of a parameter, as `parse_qs` gives them. -/
def valuesOf (name : PyStr) (params : List (PyStr × PyStr)) : List PyStr :=
  (params.filter (fun p => decide (p.1 = name))).map Prod.snd

theorem valuesOf_append (name : PyStr) (ps qs : List (PyStr × PyStr)) :
    valuesOf name (ps ++ qs) = valuesOf name ps ++ valuesOf name qs := by
  simp [valuesOf]

theorem valuesOf_distinct {params : List (PyStr × PyStr)} (h : (params.map Prod.fst).Nodup) (name : PyStr) :
    valuesOf name params = (Assoc.get? params name).toList := by
  induction params with
  | nil => rfl
  | cons p params ih =>
    rw [List.map_cons, List.nodup_cons] at h
    have hrest := ih h.2
    unfold valuesOf at hrest ⊢
    rw [Assoc.get?_cons]
    by_cases hname : p.1 = name
    · have hnone : Assoc.get? params name = none := Assoc.get?_eq_none_iff.2 (hname ▸ h.1)
      rw [hnone] at hrest
      rw [List.filter_cons, if_pos (decide_eq_true hname), List.map_cons, hrest, if_pos hname]
      rfl
    · rw [List.filter_cons, if_neg (by simpa using hname), hrest, if_neg hname]

/-- The URL, split and parsed, has the parts of the endpoint, and for every name the values that the endpoint's
own query gives it, and behind them at most one: the SDK's, the hint, or one that the caller passed on. -/
def ReadsBack (C : OidcClient) (sha256 : Bytes → Bytes) (cfg : OidcConfiguration) (args : BeginArgs)
    (request : AuthorizationRequest) : Prop :=
  ∃ clientId challenge parts query,
    requireOidcClientId C = .ok clientId ∧
    computeCodeChallenge sha256 request.codeVerifier = .ok challenge ∧
    urlsplit C.urlChecks cfg.authorizationEndpoint = some parts ∧
    urlsplit C.urlChecks request.url = some { parts with path := Url.rootedPath parts, query := query } ∧
    ∀ name, valuesOf name (parseQsl query) = valuesOf name (parseQsl parts.query) ++
      (Assoc.get? (passedOn args ++ (ownedParams clientId args.redirectUri (normalizeScope args.scope) request.state
        request.nonce challenge ++ hintParams args.idpHint)) name).toList

/-- **The authorization URL is read back**: no argument of the caller, whatever it holds, changes or repeats a
parameter of the SDK. -/
theorem oidcBegin_reads_back {C : OidcClient} {sha256 : Bytes → Bytes} {cfg : OidcConfiguration} {args : BeginArgs}
    {drawn : Drawn} {request : AuthorizationRequest} (h : oidcBegin C sha256 cfg args drawn = .ok request) :
    ReadsBack C sha256 cfg args request := by
  obtain ⟨clientId, challenge, parts, query, params, hclient, hchallenge, hparts, hsplit, hquery, rfl, hnodup⟩ :=
    oidcBegin_ok h
  refine ⟨clientId, challenge, parts, query, hclient, hchallenge, hparts, hsplit, ?_⟩
  intro name
  rw [hquery, valuesOf_append, valuesOf_distinct hnodup]

theorem eq_ok_of_toOption {ε α : Type} {x : Except ε α} {a : α} (h : x.toOption = some a) : x = .ok a := by
  cases x with
  | error e => cases h
  | ok b => rw [Option.some.inj h]

namespace Begun

/-- The octets of a code verifier, and the SHA-256 of its text. -/
def verifierOctets : Bytes :=
  [116, 24, 223, 180, 151, 153, 224, 37, 79, 250, 96, 125, 216, 173, 187, 186, 22, 212, 37, 77, 105, 214, 191,
    240, 91, 88, 5, 88, 83, 132, 141, 121]

def digest : Bytes :=
  [19, 211, 30, 150, 26, 26, 216, 236, 47, 22, 177, 12, 76, 152, 46, 8, 118, 168, 120, 173, 109, 241, 68, 86,
    110, 225, 137, 74, 203, 112, 249, 195]

def configuration : OidcConfiguration := ⟨OidcRefresh.TwoTokens.configuration, lit "https://op/authorize?p=q"⟩

/-- A parameter of the caller that looks like several. -/
def args : BeginArgs := ⟨lit "https://rp/cb", .none, Dict.empty.set (lit "ui") (lit "a&state=b"), some (lit "g#h")⟩

def drawn : Drawn := ⟨[1, 2, 3], [4, 5, 6], verifierOctets⟩

def url : PyStr :=
  lit "https://op/authorize?p=q&ui=a%26state%3Db" ++
    lit "&response_type=code&client_id=rp&redirect_uri=https%3A%2F%2Frp%2Fcb&scope=openid&state=AQID&nonce=BAUG" ++
    lit "&code_challenge=E9Melhoa2OwvFrEMTJguCHaoeK1t8URWbuGJSstw-cM&code_challenge_method=S256&axiam_idp_hint=g%23h"

theorem begun : ∃ request,
    oidcBegin OidcRefresh.TwoTokens.client (fun _ => digest) configuration args drawn = .ok request ∧
      request.url = url := by
  have hurl : (oidcBegin OidcRefresh.TwoTokens.client (fun _ => digest) configuration args drawn).toOption.map
      AuthorizationRequest.url = some url := by
    decide +kernel
  obtain ⟨request, hrequest, hread⟩ := Option.map_eq_some_iff.1 hurl
  exact ⟨request, eq_ok_of_toOption hrequest, hread⟩

end Begun

open Begun in
theorem begun_reads_back : ∃ request, request.url = url ∧
    ReadsBack OidcRefresh.TwoTokens.client (fun _ => digest) configuration args request := by
  obtain ⟨request, hbegun, hurl⟩ := begun
  exact ⟨request, hurl, oidcBegin_reads_back hbegun⟩

end AxiamSdk.Login
