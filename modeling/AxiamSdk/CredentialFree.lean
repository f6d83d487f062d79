import AxiamSdk.Lib.Json
import AxiamSdk.Lib.Rfc3986

/-! # Requests without the session (`_session.py`)

The two calls that enrol a first factor join their path to the base URL; every other call has the HTTP client merge
it in.

* `credentialFreeRequest`, `buildRequest`: the two ways to a request.
* `same_url_iff`: they lead to one URL exactly if the base URL has no path of its own. -/

namespace AxiamSdk.CredentialFree
open PyLib PyLib.Rfc3986
set_option autoImplicit false

/-! ## The HTTP library -/

/-- `URL.raw_path` -/
def rawPath (u : UriRef) : PyStr :=
  (if u.path.isEmpty then [ch '/'] else u.path) ++ (u.query.map (ch '?' :: ·)).getD []

/-- `URL.copy_with(raw_path=raw)` -/
def copyWithRawPath (u : UriRef) (raw : PyStr) : UriRef :=
  { u with path := (partitionAt (ch '?') raw).1, query := (partitionAt (ch '?') raw).2 }

/-- The client's base URL: `_enforce_trailing_slash`. -/
def enforceTrailingSlash (u : UriRef) : UriRef :=
  if (rawPath u).getLast? = some (ch '/') then u else copyWithRawPath u (rawPath u ++ [ch '/'])

def isAbsoluteUrl (u : UriRef) : Bool := u.scheme.any (!·.isEmpty) && u.authority.any (!·.isEmpty)

/-- `_merge_url` of the client, whose base URL ends with a slash. -/
def mergeUrl (base u : UriRef) : UriRef :=
  if isAbsoluteUrl u then u
  else copyWithRawPath base (rawPath base ++ (rawPath u).dropWhile (· = ch '/'))

/-! ## The session -/

/-- A base URL that is parsed: its path ends before the query. -/
structure BaseUrl where
  url : UriRef
  path : url.path.all (fun c => !Url.isMark c) = true

/-- What a session has for its requests. -/
structure Session where
  baseUrl : BaseUrl
  tenantSlug : PyStr

structure Request where
  method : PyStr
  url : UriRef
  tenantId : Option PyStr
  json : List (PyStr × Json)

/-- `_credential_free_request` -/
def credentialFreeRequest (s : Session) (method path : PyStr) (jsonBody : List (PyStr × Json)) : Request where
  method := method
  url := resolve s.baseUrl.url (UriRef.ofText path)
  tenantId := some s.tenantSlug
  json := jsonBody

/-- `sync_client.build_request`, before `_prepare_request`. -/
def buildRequest (s : Session) (method path : PyStr) (jsonBody : List (PyStr × Json)) : Request where
  method := method
  url := mergeUrl (enforceTrailingSlash s.baseUrl.url) (UriRef.ofText path)
  tenantId := none
  json := jsonBody

/-- An absolute path of the API: one slash at its start, no dot segment, and nothing after the path. -/
structure ApiPath where
  rest : PyStr
  slash : rest.head? ≠ some (ch '/')
  marks : rest.all (fun c => !Url.isMark c) = true
  dots : isDotFree rest = true

def ApiPath.text (p : ApiPath) : PyStr := ch '/' :: p.rest

theorem ApiPath.ofText (p : ApiPath) : UriRef.ofText p.text = ⟨none, none, p.text, none, none⟩ := by
  refine ofText_path p.slash fun c hc => ?_
  have hmark := List.all_eq_true.1 p.marks c hc
  simpa using hmark

/-- `_WA_SETUP_REGISTER_START` -/
def setupRegisterStart : ApiPath :=
  ⟨lit "api/v1/auth/webauthn/setup/register/start", by decide, by decide, by decide⟩

/-- `_WA_SETUP_REGISTER_FINISH` -/
def setupRegisterFinish : ApiPath :=
  ⟨lit "api/v1/auth/webauthn/setup/register/finish", by decide, by decide, by decide⟩

/-! ## The two URLs -/

/-- The base URL is no more than an origin. -/
structure IsRoot (u : UriRef) : Prop where
  path : u.path = [] ∨ u.path = [ch '/']
  query : u.query = none
  fragment : u.fragment = none

theorem joined (s : Session) (method : PyStr) (p : ApiPath) (jsonBody : List (PyStr × Json)) :
    (credentialFreeRequest s method p.text jsonBody).url =
      { s.baseUrl.url with path := p.text, query := none, fragment := none } := by
  show resolve s.baseUrl.url (UriRef.ofText p.text) = _
  rw [p.ofText]
  exact resolve_path s.baseUrl.url p.dots

theorem dropSlash (p : ApiPath) : (rawPath ⟨none, none, p.text, none, none⟩).dropWhile (· = ch '/') = p.rest := by
  show ((ch '/' :: p.rest) ++ []).dropWhile (· = ch '/') = p.rest
  rw [List.append_nil, List.dropWhile_cons_of_pos (by simp)]
  cases hrest : p.rest with
  | nil => rfl
  | cons c rest =>
    have hslash := p.slash
    rw [hrest] at hslash
    exact List.dropWhile_cons_of_neg (by simpa using hslash)

theorem merged (s : Session) (method : PyStr) (p : ApiPath) (jsonBody : List (PyStr × Json)) :
    (buildRequest s method p.text jsonBody).url =
      copyWithRawPath (enforceTrailingSlash s.baseUrl.url) (rawPath (enforceTrailingSlash s.baseUrl.url) ++ p.rest) := by
  show mergeUrl (enforceTrailingSlash s.baseUrl.url) (UriRef.ofText p.text) = _
  rw [p.ofText, mergeUrl, if_neg (by exact Bool.false_ne_true), dropSlash]

/-! ### A base URL without a query -/

/-- The raw path of a URL without a query. -/
def plainPath (u : UriRef) : PyStr := if u.path.isEmpty then [ch '/'] else u.path

/-- The same with a slash at its end. -/
def slashed (u : UriRef) : PyStr :=
  if (plainPath u).getLast? = some (ch '/') then plainPath u else plainPath u ++ [ch '/']

theorem rawPath_plain {u : UriRef} (h : u.query = none) : rawPath u = plainPath u := by
  rw [rawPath, h]
  exact List.append_nil _

theorem copyWithRawPath_plain (u : UriRef) {raw : PyStr} (h : ch '?' ∉ raw) :
    copyWithRawPath u raw = { u with path := raw, query := none } := by
  rw [copyWithRawPath, partitionAt_of_not_mem h]

theorem not_mem_plainPath (b : BaseUrl) : ch '?' ∉ plainPath b.url := by
  intro hmem
  rw [plainPath] at hmem
  split at hmem
  · exact absurd hmem (by decide)
  · have hmark := List.all_eq_true.1 b.path _ hmem
    exact absurd hmark (by decide)

theorem not_mem_slashed (b : BaseUrl) : ch '?' ∉ slashed b.url := by
  rw [slashed]
  split
  · exact not_mem_plainPath b
  · rw [List.mem_append, not_or]
    exact ⟨not_mem_plainPath b, by decide⟩

theorem ApiPath.not_mem (p : ApiPath) : ch '?' ∉ p.rest := by
  intro hmem
  have hmark := List.all_eq_true.1 p.marks _ hmem
  exact absurd hmark (by decide)

/-- Without a query the path is put after the base URL's own. -/
theorem merged_plain (b : BaseUrl) (p : ApiPath) (h : b.url.query = none) :
    copyWithRawPath (enforceTrailingSlash b.url) (rawPath (enforceTrailingSlash b.url) ++ p.rest) =
      { b.url with path := slashed b.url ++ p.rest, query := none } := by
  have hno : ch '?' ∉ slashed b.url ++ p.rest := by
    rw [List.mem_append, not_or]
    exact ⟨not_mem_slashed b, p.not_mem⟩
  have hslashed := not_mem_slashed b
  rw [enforceTrailingSlash, rawPath_plain h]
  rw [slashed] at hno hslashed ⊢
  split
  · next hlast =>
    rw [if_pos hlast] at hno
    rw [rawPath_plain h, copyWithRawPath_plain _ hno]
  · next hlast =>
    rw [if_neg hlast] at hno hslashed
    have hraw : rawPath { b.url with path := plainPath b.url ++ [ch '/'], query := none } =
        plainPath b.url ++ [ch '/'] := by
      rw [rawPath_plain rfl, plainPath, if_neg (by simp)]
    rw [copyWithRawPath_plain _ hslashed, hraw, copyWithRawPath_plain _ hno]

theorem slashed_eq_root {u : UriRef} : slashed u = [ch '/'] ↔ u.path = [] ∨ u.path = [ch '/'] := by
  rw [slashed, plainPath]
  cases hpath : u.path with
  | nil => simp
  | cons c rest =>
    have hnonempty : (c :: rest).isEmpty = false := rfl
    rw [hnonempty, if_neg Bool.false_ne_true]
    split
    · simp
    · next hlast =>
      constructor
      · intro h
        have hlength := congrArg List.length h
        simp at hlength
      · rintro (h | h)
        · cases h
        · rw [h] at hlast
          exact absurd rfl hlast

/-! ### A base URL with a query -/

theorem mem_rawPath {u : UriRef} (h : u.query.isSome = true) : ch '?' ∈ rawPath u := by
  obtain ⟨q, hq⟩ := Option.isSome_iff_exists.1 h
  rw [rawPath, hq]
  exact List.mem_append_right _ List.mem_cons_self

theorem copyWithRawPath_query (u : UriRef) {raw : PyStr} (h : ch '?' ∈ raw) :
    (copyWithRawPath u raw).query.isSome = true := by
  have hcontains : raw.contains (ch '?') = true := List.contains_iff_mem.2 h
  rw [copyWithRawPath, partitionAt, if_pos hcontains]
  rfl

/-- A query of the base URL stays, and takes the path in. -/
theorem merged_query {u : UriRef} (h : u.query.isSome = true) (rest : PyStr) :
    (copyWithRawPath (enforceTrailingSlash u) (rawPath (enforceTrailingSlash u) ++ rest)).query.isSome = true := by
  have henforced : (enforceTrailingSlash u).query.isSome = true := by
    rw [enforceTrailingSlash]
    split
    · exact h
    · exact copyWithRawPath_query u (List.mem_append_left _ (mem_rawPath h))
  exact copyWithRawPath_query _ (List.mem_append_left _ (mem_rawPath henforced))

/-! ## One server path -/

/-- **The two requests agree** exactly at the root of an origin. -/
theorem same_url_iff (s : Session) (method : PyStr) (p : ApiPath) (jsonBody : List (PyStr × Json)) :
    (credentialFreeRequest s method p.text jsonBody).url = (buildRequest s method p.text jsonBody).url ↔
      IsRoot s.baseUrl.url := by
  rw [joined, merged]
  cases hquery : s.baseUrl.url.query with
  | some q =>
    have hsome := merged_query (by rw [hquery]; rfl) p.rest
    constructor
    · intro h
      rw [← h] at hsome
      cases hsome
    · intro h
      rw [h.query] at hquery
      cases hquery
  | none =>
    rw [merged_plain s.baseUrl p hquery, UriRef.mk.injEq]
    constructor
    · rintro ⟨-, -, hpath, -, hfragment⟩
      have hroot : slashed s.baseUrl.url = [ch '/'] := List.append_cancel_right (hpath.symm : _ = [ch '/'] ++ p.rest)
      exact ⟨slashed_eq_root.1 hroot, hquery, hfragment.symm⟩
    · intro h
      rw [slashed_eq_root.2 h.path, h.fragment]
      exact ⟨rfl, rfl, rfl, rfl, rfl⟩

/-! ## Behind a path prefix -/

/-- A session at `https://host.example/axiam`. -/
def prefixed : Session :=
  ⟨⟨⟨some (lit "https"), some (lit "host.example"), lit "/axiam", none, none⟩, by decide⟩, lit "acme"⟩

/-- The setup token goes to `/api/v1` of the host, the session's own requests to `/axiam/api/v1`. -/
theorem not_same_url : ¬ ∀ (s : Session) (method : PyStr) (p : ApiPath) (jsonBody : List (PyStr × Json)),
    (credentialFreeRequest s method p.text jsonBody).url = (buildRequest s method p.text jsonBody).url := by
  intro h
  have hsame := h prefixed (lit "POST") setupRegisterFinish []
  have hjoined : (credentialFreeRequest prefixed (lit "POST") setupRegisterFinish.text []).url.path =
      lit "/api/v1/auth/webauthn/setup/register/finish" := by decide
  have hmerged : (buildRequest prefixed (lit "POST") setupRegisterFinish.text []).url.path =
      lit "/axiam/api/v1/auth/webauthn/setup/register/finish" := by decide
  rw [hsame, hmerged] at hjoined
  exact absurd hjoined (by decide)

end AxiamSdk.CredentialFree
