import AxiamSdk.Errors
import AxiamSdk.Lib.Percent
import AxiamSdk.Mcp.Uri

/-! # The metadata document (`_mcp.py`)

* `protectedResourceMetadata`: the document with the path and the URL it is published under.
* `bearerChallenge`, `mcpGuardChallenges`: the challenges that point to it.
* `isMetadataDocumentRequest`: the requests that a global guard lets through to it.
* `document_reachable_iff`: for which resources the three agree. -/

namespace AxiamSdk.Mcp
open PyLib
set_option autoImplicit false

/-! ## The document -/

/-- `PROTECTED_RESOURCE_METADATA_PREFIX` -/
def metadataPrefix : PyStr := lit "/.well-known/oauth-protected-resource"

structure ProtectedResourceMetadataDocument where
  resource : PyStr
  authorizationServers : List PyStr
  scopesSupported : Option (List PyStr)
  bearerMethodsSupported : List PyStr
  resourceDocumentation : Option PyStr
  deriving DecidableEq

structure ProtectedResourceMetadata where
  document : ProtectedResourceMetadataDocument
  metadataPath : PyStr
  metadataUrl : PyStr
  deriving DecidableEq

/-- `_derive_metadata_path` -/
def deriveMetadataPath (resourcePath : PyStr) : PyStr :=
  if resourcePath = [] ∨ resourcePath = [ch '/'] then metadataPrefix else metadataPrefix ++ resourcePath

section
variable (repr : PyStr → PyStr)

/-- `repr` of a list of strings. -/
def reprList (l : List PyStr) : PyStr :=
  lit "[" ++ (lit ", ").intercalate (l.map repr) ++ lit "]"

def metadataOperation : PyStr := lit "protected_resource_metadata"

/-- The entries after those of `seen`, each an issuer and none twice. -/
def checkServers (seen : List PyStr) : List PyStr → Except ValidationError (List PyStr)
  | [] => .ok seen
  | issuer :: rest => do
    let _ ← requireAbsoluteUri repr metadataOperation (lit "authorization_servers") issuer identifier
    if issuer ∈ seen then
      .error (refuse metadataOperation (lit "authorization_servers") (lit "duplicate entry " ++ repr issuer))
    else checkServers (seen ++ [issuer]) rest

/-- The scopes after those of `seen`, each a token and none twice. -/
def checkScopes (seen : List PyStr) : List PyStr → Except ValidationError (List PyStr)
  | [] => .ok seen
  | scope :: rest =>
    if scope.isEmpty || !scope.all isNqchar then
      .error (refuse metadataOperation (lit "scopes_supported")
        (repr scope ++ lit " is not a scope token — one or more NQCHAR (no space, "
          ++ lit "no '\"', no '\\\\', no control character, no non-ASCII)"))
    else if scope ∈ seen then
      .error (refuse metadataOperation (lit "scopes_supported") (lit "duplicate scope " ++ repr scope))
    else checkScopes (seen ++ [scope]) rest

def checkMethods (methods : List PyStr) : Except ValidationError Unit :=
  if methods = [lit "header"] then .ok ()
  else .error (refuse metadataOperation (lit "bearer_methods_supported")
    (lit "must be exactly ['header'] in this contract version — §10's guard "
      ++ lit "reads a bearer credential from the Authorization header alone, so "
      ++ reprList repr methods ++ lit " would describe behaviour this SDK does not have"))

def checkDocumentation : Option PyStr → Except ValidationError Unit
  | none => .ok ()
  | some url => do
    let _ ← requireAbsoluteUri repr metadataOperation (lit "resource_documentation") url locator
    .ok ()

/-- `protected_resource_metadata` -/
def protectedResourceMetadata (resource : PyStr) (authorizationServers scopesSupported : List PyStr)
    (bearerMethodsSupported : List PyStr) (resourceDocumentation : Option PyStr) :
    Except ValidationError ProtectedResourceMetadata := do
  let parsed ← requireAbsoluteUri repr metadataOperation (lit "resource") resource identifier
  if authorizationServers.isEmpty then
    .error (refuse metadataOperation (lit "authorization_servers")
      (lit "must name at least one authorization server — a document that names "
        ++ lit "none answers none of the question the client asked"))
  else do
    let servers ← checkServers repr [] authorizationServers
    let scopes ← checkScopes repr [] scopesSupported
    checkMethods repr bearerMethodsSupported
    checkDocumentation repr resourceDocumentation
    let metadataPath := deriveMetadataPath parsed.path
    .ok { document :=
            { resource := resource
              authorizationServers := servers
              scopesSupported := if scopes.isEmpty then none else some scopes
              bearerMethodsSupported := [lit "header"]
              resourceDocumentation := resourceDocumentation }
          metadataPath := metadataPath
          metadataUrl := spell parsed.scheme parsed.authority metadataPath }

/-! ## The challenge -/

/-- `_BEARER_CHALLENGE_ERRORS` -/
def bearerChallengeErrors : List PyStr :=
  [lit "invalid_request", lit "invalid_token", lit "insufficient_scope"]

def challengeOperation : PyStr := lit "bearer_challenge"

/-- `name="value"` -/
def quoted (name value : PyStr) : PyStr := name ++ lit "=\"" ++ value ++ lit "\""

def errorParam : Option PyStr → Except ValidationError (List PyStr)
  | none => .ok []
  | some error =>
    if error ∈ bearerChallengeErrors then .ok [quoted (lit "error") error]
    else .error (refuse challengeOperation (lit "error")
      (lit "must be one of invalid_request, invalid_token, insufficient_scope — "
        ++ lit "RFC 6750 §3.1 defines no others, and " ++ repr error ++ lit " is not among them"))

def descriptionParam : Option PyStr → Except ValidationError (List PyStr)
  | none => .ok []
  | some description =>
    if description.isEmpty || !description.all isNqschar then
      .error (refuse challengeOperation (lit "error_description")
        (lit "must be one or more NQSCHAR (no '\"', no '\\\\', no control character, "
          ++ lit "no non-ASCII) — a value needing an escape does not belong in a challenge"))
    else .ok [quoted (lit "error_description") description]

def scopeParam : Option PyStr → Except ValidationError (List PyStr)
  | none => .ok []
  | some scope =>
    if scope.isEmpty then
      .error (refuse challengeOperation (lit "scope")
        (lit "must be one or more scope tokens joined by a single space"))
    else if (splitOn (ch ' ') scope).all (fun token => !token.isEmpty && token.all isNqchar) then
      .ok [quoted (lit "scope") scope]
    else .error (refuse challengeOperation (lit "scope")
      (repr scope ++ lit " is not a space-joined list of scope tokens — no leading, "
        ++ lit "trailing or doubled space, and no empty token"))

/-- The parameters before `resource_metadata`. -/
def challengeParams (error errorDescription scope : Option PyStr) : Except ValidationError (List PyStr) := do
  let errors ← errorParam repr error
  let descriptions ← descriptionParam errorDescription
  let scopes ← scopeParam repr scope
  .ok (errors ++ descriptions ++ scopes)

/-- `bearer_challenge` -/
def bearerChallenge (resourceMetadataUrl : PyStr) (error errorDescription scope : Option PyStr) :
    Except ValidationError PyStr := do
  let params ← challengeParams repr error errorDescription scope
  let _ ← requireAbsoluteUri repr challengeOperation (lit "resource_metadata") resourceMetadataUrl locator
  if resourceMetadataUrl.all isNqchar then
    .ok (lit "Bearer "
      ++ (lit ", ").intercalate (params ++ [quoted (lit "resource_metadata") resourceMetadataUrl]))
  else .error (refuse challengeOperation (lit "resource_metadata")
    (lit "must carry no '\"', no '\\\\', no space and no control character — a "
      ++ lit "correctly encoded URL cannot, so one that does has not been encoded"))

/-! ## The guard -/

structure McpGuardChallenges where
  noCredential : PyStr
  invalidToken : PyStr
  insufficientScope : Option PyStr
  metadataPath : PyStr
  deriving DecidableEq

/-- The challenge of a route that names a scope. -/
def scopeChallenge (resourceMetadataUrl : PyStr) : Option PyStr → Except ValidationError (Option PyStr)
  | none => .ok none
  | some scope =>
    (bearerChallenge repr resourceMetadataUrl (some (lit "insufficient_scope")) none (some scope)).map some

/-- `mcp_guard_challenges` -/
def mcpGuardChallenges (expectedAudience resourceMetadataUrl : Option PyStr) (operation : PyStr)
    (scope : Option PyStr) : Except ValidationError (Option McpGuardChallenges) :=
  match resourceMetadataUrl with
  | none => .ok none
  | some url =>
    if (expectedAudience.getD []).isEmpty then
      .error (refuse operation (lit "resource_metadata_url")
        (lit "requires expected_audience to be set on the same guard (CONTRACT.md "
          ++ lit "§28.5 rule 2) — announcing a resource identifier obliges this server "
          ++ lit "to check that an inbound token's aud is that identifier, and a "
          ++ lit "resource server that announces itself without checking is opened by "
          ++ lit "a token minted for somebody else"))
    else do
      let parsed ← requireAbsoluteUri repr operation (lit "resource_metadata_url") url locator
      let insufficientScope ← scopeChallenge repr url scope
      let noCredential ← bearerChallenge repr url none none none
      let invalidToken ← bearerChallenge repr url (some (lit "invalid_token")) none none
      .ok (some
        { noCredential := noCredential
          invalidToken := invalidToken
          insufficientScope := insufficientScope
          metadataPath := if parsed.path.isEmpty then lit "/" else parsed.path })

end

/-- The methods that read the document. -/
def readMethods : List PyStr := [lit "GET", lit "HEAD"]

/-- `is_metadata_document_request` -/
def isMetadataDocumentRequest (challenges : Option McpGuardChallenges) (method path : Option PyStr) : Bool :=
  match challenges, path with
  | some challenges, some path =>
    decide (upperAscii (method.getD []) ∈ readMethods) && decide (path = challenges.metadataPath)
  | _, _ => false

/-! ## What is published -/

variable {repr : PyStr → PyStr}

theorem derive_cases (path : PyStr) :
    deriveMetadataPath path = metadataPrefix ∧ (path = [] ∨ path = [ch '/'])
      ∨ deriveMetadataPath path = metadataPrefix ++ path := by
  unfold deriveMetadataPath
  split
  · next h => exact Or.inl ⟨rfl, h⟩
  · exact Or.inr rfl

theorem derive_head (path : PyStr) : (deriveMetadataPath path).head? = some (ch '/') := by
  obtain ⟨hd, -⟩ | hd := derive_cases path
  · rw [hd]
    rfl
  · rw [hd]
    rfl

theorem Pieces.derive {scheme authority path : PyStr} (h : Pieces scheme authority path) :
    Pieces scheme authority (deriveMetadataPath path) := by
  have hprefix : metadataPrefix.all isPathChar = true := by decide
  refine ⟨h.letter, h.schemeChars, h.authority_ne, h.authorityChars, ?_, Or.inr (derive_head path)⟩
  obtain ⟨hd, -⟩ | hd := derive_cases path
  · rw [hd, hprefix]
  · rw [hd, List.all_append, hprefix, h.pathChars]
    rfl

/-- What an accepted resource publishes. -/
structure Published (resource : PyStr) (m : ProtectedResourceMetadata) (uri : ParsedUri) : Prop where
  parsed : parseAbsoluteUri resource = some uri
  spelled : resource = spell uri.scheme uri.authority uri.path
  pieces : Pieces uri.scheme uri.authority uri.path
  secure : Mcp.secure uri = true
  metadataPath : m.metadataPath = deriveMetadataPath uri.path
  metadataUrl : m.metadataUrl = spell uri.scheme uri.authority (deriveMetadataPath uri.path)

variable {resource : PyStr} {authorizationServers scopesSupported bearerMethodsSupported : List PyStr}
  {resourceDocumentation : Option PyStr} {m : ProtectedResourceMetadata}

theorem published_of_ok (h : protectedResourceMetadata repr resource authorizationServers scopesSupported
      bearerMethodsSupported resourceDocumentation = .ok m) : ∃ uri, Published resource m uri := by
  obtain ⟨uri, huri, h⟩ := bind_ok h
  obtain ⟨hparsed, hq, hf, hsecure⟩ := requireAbsoluteUri_ok_iff.1 huri
  simp only [identifier, Bool.not_false, Bool.and_true] at hq hf
  obtain ⟨hspell, hpieces⟩ := spell_of_parse hparsed hq hf
  split at h
  · cases h
  · obtain ⟨servers, -, h⟩ := bind_ok h
    obtain ⟨scopes, -, h⟩ := bind_ok h
    obtain ⟨-, -, h⟩ := bind_ok h
    obtain ⟨-, -, h⟩ := bind_ok h
    obtain rfl := Except.ok.inj h
    exact ⟨uri, hparsed, hspell, hpieces, hsecure, rfl, rfl⟩

theorem Published.parse_url {uri : ParsedUri} (h : Published resource m uri) :
    parseAbsoluteUri m.metadataUrl = some ⟨uri.scheme, uri.authority, m.metadataPath, false, false⟩ := by
  rw [h.metadataUrl, h.metadataPath]
  exact parseAbsoluteUri_spell h.pieces.derive

/-- The URI rule accepts the URL wherever it is applied to it as a locator. -/
theorem Published.require_url {uri : ParsedUri} (h : Published resource m uri) (operation field : PyStr) :
    requireAbsoluteUri repr operation field m.metadataUrl locator
      = .ok ⟨uri.scheme, uri.authority, m.metadataPath, false, false⟩ :=
  requireAbsoluteUri_ok_iff.2 ⟨h.parse_url, rfl, rfl, h.secure⟩

theorem spell_all {p : CodePoint → Bool} (scheme authority path : PyStr) :
    (spell scheme authority path).all p
      = (scheme.all p && (lit "://").all p && authority.all p && path.all p) := by
  simp only [spell, List.all_append]

theorem derive_all_isNqchar (path : PyStr) :
    (deriveMetadataPath path).all isNqchar = path.all isNqchar := by
  have hprefix : metadataPrefix.all isNqchar = true := by decide
  obtain ⟨hd, rfl | rfl⟩ | hd := derive_cases path
  · rw [hd, hprefix]
    rfl
  · rw [hd, hprefix]
    rfl
  · rw [hd, List.all_append, hprefix, Bool.true_and]

/-- The URL is spelled in the characters of a challenge exactly if the resource is. -/
theorem Published.url_isNqchar {uri : ParsedUri} (h : Published resource m uri) :
    m.metadataUrl.all isNqchar = resource.all isNqchar := by
  rw [h.metadataUrl, h.spelled, spell_all, spell_all, derive_all_isNqchar]

/-! ## Acceptance -/

theorem bearerChallenge_ok_iff (error errorDescription scope : Option PyStr) {url : PyStr} {uri : ParsedUri}
    (huri : requireAbsoluteUri repr challengeOperation (lit "resource_metadata") url locator = .ok uri) :
    (∃ value, bearerChallenge repr url error errorDescription scope = .ok value) ↔
      (∃ params, challengeParams repr error errorDescription scope = .ok params)
        ∧ url.all isNqchar = true := by
  unfold bearerChallenge
  cases challengeParams repr error errorDescription scope with
  | error e =>
    constructor
    · rintro ⟨value, h⟩
      cases h
    · rintro ⟨⟨params, h⟩, -⟩
      cases h
  | ok params =>
    rw [huri]
    change (∃ value, (if url.all isNqchar = true then _ else _) = _) ↔ _
    split
    · next hchars => exact ⟨fun _ => ⟨⟨params, rfl⟩, hchars⟩, fun _ => ⟨_, rfl⟩⟩
    · next hchars =>
      constructor
      · rintro ⟨value, h⟩
        cases h
      · rintro ⟨-, h⟩
        exact absurd h hchars

theorem challengeParams_error (error : PyStr) {scope : Option PyStr} {params : List PyStr}
    (herror : error ∈ bearerChallengeErrors) (hscope : scopeParam repr scope = .ok params) :
    challengeParams repr (some error) none scope = .ok ([quoted (lit "error") error] ++ [] ++ params) := by
  have he : errorParam repr (some error) = .ok [quoted (lit "error") error] := if_pos herror
  simp only [challengeParams, he, descriptionParam, hscope]
  rfl

theorem Published.scopeChallenge_ok {uri : ParsedUri} (h : Published resource m uri)
    (hchars : resource.all isNqchar = true) {scope : Option PyStr} {params : List PyStr}
    (hscope : scopeParam repr scope = .ok params) :
    ∃ value, scopeChallenge repr m.metadataUrl scope = .ok value := by
  cases scope with
  | none => exact ⟨none, rfl⟩
  | some scope =>
    have hparams := challengeParams_error (lit "insufficient_scope") (by decide) hscope
    obtain ⟨value, hvalue⟩ := (bearerChallenge_ok_iff _ _ _ (h.require_url _ _)).2
      ⟨⟨_, hparams⟩, h.url_isNqchar.trans hchars⟩
    exact ⟨some value, by rw [scopeChallenge, hvalue]; rfl⟩

theorem Published.metadataPath_ne_nil {uri : ParsedUri} (h : Published resource m uri) :
    m.metadataPath.isEmpty = false := by
  rw [h.metadataPath, List.isEmpty_eq_false_iff]
  intro hnil
  have hhead := derive_head uri.path
  rw [hnil] at hhead
  cases hhead

/-- The guard takes the URL, and takes from it the path that was published. -/
theorem Published.guard_ok {uri : ParsedUri} (h : Published resource m uri)
    (hchars : resource.all isNqchar = true) {audience operation : PyStr} (haudience : audience ≠ [])
    {scope : Option PyStr} {params : List PyStr} (hscope : scopeParam repr scope = .ok params) :
    ∃ challenges, mcpGuardChallenges repr (some audience) (some m.metadataUrl) operation scope
        = .ok (some challenges) ∧ challenges.metadataPath = m.metadataPath := by
  have hurl : m.metadataUrl.all isNqchar = true := h.url_isNqchar.trans hchars
  have huri : requireAbsoluteUri repr challengeOperation (lit "resource_metadata") m.metadataUrl locator
      = .ok ⟨uri.scheme, uri.authority, m.metadataPath, false, false⟩ := h.require_url _ _
  obtain ⟨insufficientScope, hinsufficient⟩ := h.scopeChallenge_ok hchars hscope
  obtain ⟨noCredential, hno⟩ := (bearerChallenge_ok_iff none none none huri).2 ⟨⟨[], rfl⟩, hurl⟩
  obtain ⟨invalidToken, hinvalid⟩ := (bearerChallenge_ok_iff (some (lit "invalid_token")) none none huri).2
    ⟨⟨_, challengeParams_error _ (by decide) rfl⟩, hurl⟩
  have hempty : ((some audience).getD []).isEmpty = false := by simpa using haudience
  refine ⟨⟨noCredential, invalidToken, insufficientScope, m.metadataPath⟩, ?_, rfl⟩
  simp only [mcpGuardChallenges, hempty, h.require_url, hinsufficient, hno, hinvalid, Bool.false_eq_true,
    if_false, bind, Except.bind, h.metadataPath_ne_nil]

/-! ## Reaching the document -/

/-- `request.path` is documented as the path of the requested URL, percent-decoded: the text that the
octets of the path spell in UTF-8. What becomes of other octets is left open. -/
structure Decodes (requestPath : PyStr → PyStr) : Prop where
  utf8 : ∀ path text, path.head? = some (ch '/') → unquoteUtf8 path = some text → requestPath path = text

/-- **The published document can be reached.** A challenge can point to its URL, whatever else it
says; a guard takes the URL, and from it the published path; and such a guard lets through exactly the
`GET`s and `HEAD`s of the URL, as they present its path. -/
structure Reachable (repr requestPath : PyStr → PyStr) (m : ProtectedResourceMetadata) : Prop where
  challenge : ∀ error errorDescription scope params,
    challengeParams repr error errorDescription scope = .ok params →
      ∃ value, bearerChallenge repr m.metadataUrl error errorDescription scope = .ok value
  guard : ∀ audience operation scope params, audience ≠ [] → scopeParam repr scope = .ok params →
    ∃ challenges uri,
      mcpGuardChallenges repr (some audience) (some m.metadataUrl) operation scope = .ok (some challenges)
        ∧ challenges.metadataPath = m.metadataPath
        ∧ parseAbsoluteUri m.metadataUrl = some uri
        ∧ ∀ method path, isMetadataDocumentRequest (some challenges) (some method) (some path) = true ↔
            upperAscii method ∈ readMethods ∧ path = requestPath uri.path

/-- The resource is spelled in the characters of a challenge, and its path holds no escape, unless one
of octets that are not UTF-8 and that the request path gives back as they were written. -/
def Encoded (requestPath : PyStr → PyStr) (resource : PyStr) : Prop :=
  resource.all isNqchar = true ∧ ∀ uri, parseAbsoluteUri resource = some uri →
    hasEscape uri.path = false
      ∨ unquoteUtf8 uri.path = none ∧ requestPath (deriveMetadataPath uri.path) = deriveMetadataPath uri.path

theorem derive_hasEscape (path : PyStr) : hasEscape (deriveMetadataPath path) = hasEscape path := by
  have hprefix : ch '%' ∉ metadataPrefix := by decide
  obtain ⟨hd, rfl | rfl⟩ | hd := derive_cases path
  · rw [hd]
    decide
  · rw [hd]
    decide
  · rw [hd, hasEscape_append hprefix]

theorem derive_unquoteUtf8_eq_none (path : PyStr) :
    unquoteUtf8 (deriveMetadataPath path) = none ↔ unquoteUtf8 path = none := by
  have hprefix : ch '%' ∉ metadataPrefix := by decide
  have hempty : unquoteUtf8 metadataPrefix = some metadataPrefix :=
    unquoteUtf8_eq_self (noSurrogate_lit _) (by decide)
  obtain ⟨hd, rfl | rfl⟩ | hd := derive_cases path
  · rw [hd, hempty, unquoteUtf8_eq_self rfl rfl]
    simp
  · rw [hd, hempty, unquoteUtf8_eq_self rfl rfl]
    simp
  · rw [hd, unquoteUtf8_append hprefix (noSurrogate_lit _), Option.map_eq_none_iff]

/-- The path of the document is presented as it is published exactly if nothing in it is decoded. -/
theorem requestPath_derive_iff {requestPath : PyStr → PyStr} (hdecodes : Decodes requestPath) {path : PyStr}
    (hchars : path.all isNqchar = true) :
    requestPath (deriveMetadataPath path) = deriveMetadataPath path ↔
      hasEscape path = false
        ∨ unquoteUtf8 path = none ∧ requestPath (deriveMetadataPath path) = deriveMetadataPath path := by
  have hascii : (deriveMetadataPath path).all isAscii = true :=
    all_isAscii_of_isNqchar ((derive_all_isNqchar path).trans hchars)
  have hslash : (deriveMetadataPath path).head? = some (ch '/') := derive_head path
  constructor
  · intro hself
    cases hescape : hasEscape path with
    | false => exact Or.inl rfl
    | true =>
      refine Or.inr ⟨?_, hself⟩
      rw [← derive_unquoteUtf8_eq_none]
      cases htext : unquoteUtf8 (deriveMetadataPath path) with
      | none => rfl
      | some text =>
        -- what the octets spell is shorter than the path itself
        have hpath := hdecodes.utf8 _ _ hslash htext
        rw [hself] at hpath
        rw [← hpath] at htext
        exact absurd htext (unquoteUtf8_ne_self hascii ((derive_hasEscape path).trans hescape))
  · rintro (hescape | ⟨-, hself⟩)
    · have hself := unquoteUtf8_eq_self (noSurrogate_of_ascii hascii)
        ((derive_hasEscape path).trans hescape)
      exact hdecodes.utf8 _ _ hslash hself
    · exact hself

theorem isMetadataDocumentRequest_iff (challenges : McpGuardChallenges) (method path : PyStr) :
    isMetadataDocumentRequest (some challenges) (some method) (some path) = true ↔
      upperAscii method ∈ readMethods ∧ path = challenges.metadataPath := by
  simp [isMetadataDocumentRequest]

/-- **When the published document can be reached**: exactly if the resource is given encoded and its
path holds nothing that the request path decodes. -/
theorem document_reachable_iff {requestPath : PyStr → PyStr} (hdecodes : Decodes requestPath)
    (h : protectedResourceMetadata repr resource authorizationServers scopesSupported
      bearerMethodsSupported resourceDocumentation = .ok m) :
    Reachable repr requestPath m ↔ Encoded requestPath resource := by
  obtain ⟨uri, hpub⟩ := published_of_ok h
  constructor
  · intro hreach
    have hurl := (bearerChallenge_ok_iff none none none (hpub.require_url _ _)).1
      (hreach.challenge none none none [] rfl)
    have hchars : resource.all isNqchar = true := hpub.url_isNqchar.symm.trans hurl.2
    refine ⟨hchars, ?_⟩
    intro uri' huri'
    obtain rfl : uri = uri' := Option.some.inj (hpub.parsed.symm.trans huri')
    obtain ⟨challenges, parsed, -, hpath, hparsed, hexempt⟩ :=
      hreach.guard (lit "a") [] none [] (by decide) rfl
    obtain rfl := Option.some.inj (hpub.parse_url.symm.trans hparsed)
    have hget := (isMetadataDocumentRequest_iff challenges (lit "GET") m.metadataPath).2
      ⟨by decide, hpath.symm⟩
    have hself : m.metadataPath = requestPath m.metadataPath := ((hexempt _ _).1 hget).2
    rw [hpub.metadataPath] at hself
    rw [hpub.spelled, spell_all, Bool.and_eq_true] at hchars
    exact (requestPath_derive_iff hdecodes hchars.2).1 hself.symm
  · rintro ⟨hchars, hpath⟩
    refine ⟨?_, ?_⟩
    · intro error errorDescription scope params hparams
      exact (bearerChallenge_ok_iff _ _ _ (hpub.require_url _ _)).2
        ⟨⟨params, hparams⟩, hpub.url_isNqchar.trans hchars⟩
    · intro audience operation scope params haudience hscope
      obtain ⟨challenges, hguard, hmetadataPath⟩ := hpub.guard_ok hchars haudience hscope
      refine ⟨challenges, _, hguard, hmetadataPath, hpub.parse_url, ?_⟩
      have hpathChars : uri.path.all isNqchar = true := by
        rw [hpub.spelled, spell_all, Bool.and_eq_true] at hchars
        exact hchars.2
      have hself := (requestPath_derive_iff hdecodes hpathChars).2 (hpath uri hpub.parsed)
      intro method path
      rw [isMetadataDocumentRequest_iff, hmetadataPath, hpub.metadataPath, hself]

/-! ## Witness and counterexample -/

/-- The octets that are not UTF-8 are left as they are written. -/
def decodedPath (path : PyStr) : PyStr := (unquoteUtf8 path).getD path

theorem decodes_decodedPath : Decodes decodedPath where
  utf8 := by
    intro path text _ htext
    rw [decodedPath, htext]
    rfl

/-- The document of a resource without scopes. -/
def publish (resource : PyStr) : Except ValidationError ProtectedResourceMetadata :=
  protectedResourceMetadata id resource [lit "https://as"] [] [lit "header"] none

def published (scheme authority path : PyStr) : ProtectedResourceMetadata where
  document :=
    { resource := spell scheme authority path
      authorizationServers := [lit "https://as"]
      scopesSupported := none
      bearerMethodsSupported := [lit "header"]
      resourceDocumentation := none }
  metadataPath := deriveMetadataPath path
  metadataUrl := spell scheme authority (deriveMetadataPath path)

theorem publish_ok {authority path : PyStr} (h : Pieces (lit "https") authority path) :
    publish (spell (lit "https") authority path) = .ok (published (lit "https") authority path) := by
  have hlower : lowerAscii (lit "https") = lit "https" := by decide
  have hsecure : secure ⟨lit "https", authority, path, false, false⟩ = true := by simp [secure, hlower]
  have hresource : requireAbsoluteUri id metadataOperation (lit "resource")
      (spell (lit "https") authority path) identifier = .ok ⟨lit "https", authority, path, false, false⟩ :=
    requireAbsoluteUri_ok_iff.2 ⟨parseAbsoluteUri_spell h, rfl, rfl, hsecure⟩
  have hservers : checkServers id [] [lit "https://as"] = .ok [lit "https://as"] := by decide
  rw [publish, protectedResourceMetadata, hresource]
  simp only [bind, Except.bind, hservers]
  rfl

theorem pieces_mcp : Pieces (lit "https") (lit "mcp.example.com") (lit "/mcp") :=
  ⟨by decide, by decide, by decide, by decide, by decide, by decide⟩

theorem document_reachable_mcp :
    Reachable id decodedPath (published (lit "https") (lit "mcp.example.com") (lit "/mcp")) := by
  refine (document_reachable_iff decodes_decodedPath (publish_ok pieces_mcp)).2 ⟨by decide, ?_⟩
  intro uri huri
  obtain rfl := Option.some.inj ((parseAbsoluteUri_spell pieces_mcp).symm.trans huri)
  exact Or.inl (by decide)

/-- The path of the resource, with an escaped space. -/
def spacePath : PyStr := lit "/a%20b"

theorem pieces_space : Pieces (lit "https") (lit "mcp.example.com") spacePath :=
  ⟨by decide, by decide, by decide, by decide, by decide, by decide⟩

theorem unquoteUtf8_spacePath : unquoteUtf8 spacePath = some (lit "/a b") := by
  have hoctets : unquoteToBytes spacePath = (lit "/a b").flatMap utf8Octets := by decide
  rw [unquoteUtf8, hoctets, decodeUtf8_utf8]
  exact Option.filter_some_pos (noSurrogate_lit _)

/-- A document whose path holds an escape is not reached: its request presents the path decoded. -/
theorem not_document_reachable :
    ¬ ∀ (repr requestPath : PyStr → PyStr) (resource : PyStr) (authorizationServers scopesSupported
        bearerMethodsSupported : List PyStr) (resourceDocumentation : Option PyStr)
        (m : ProtectedResourceMetadata), Decodes requestPath →
      protectedResourceMetadata repr resource authorizationServers scopesSupported bearerMethodsSupported
        resourceDocumentation = .ok m → Reachable repr requestPath m := by
  intro hall
  have hreach := hall id decodedPath _ _ _ _ _ _ decodes_decodedPath (publish_ok pieces_space)
  obtain ⟨challenges, uri, -, hpath, huri, hexempt⟩ := hreach.guard (lit "a") [] none [] (by decide) rfl
  obtain rfl := Option.some.inj ((parseAbsoluteUri_spell pieces_space.derive).symm.trans huri)
  have hget := (hexempt (lit "GET") (decodedPath (deriveMetadataPath spacePath))).2 ⟨by decide, rfl⟩
  rw [isMetadataDocumentRequest_iff, hpath] at hget
  obtain hescape | ⟨hnone, -⟩ := (requestPath_derive_iff decodes_decodedPath (by decide)).1 hget.2
  · exact absurd hescape (by decide)
  · rw [unquoteUtf8_spacePath] at hnone
    cases hnone

end AxiamSdk.Mcp
