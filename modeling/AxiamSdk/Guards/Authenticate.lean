import AxiamSdk.Errors

/-! # The authentication guards (`fastapi/__init__.py`, `django/middleware.py`)

* `Fastapi.authenticate`, `Django.authenticate`: the two pipelines, from the credential to the user.
* `authenticate_agree`: outside the metadata document they are the same function of the request and of
  the verification.
* `guards_answer`: when both answer with the same user, 401 or 403. -/

namespace AxiamSdk.Guards
open PyLib
set_option autoImplicit false

/-! ## Requests, claims and answers -/

/-- What the guards read of a request. -/
structure Request where
  method : PyStr
  path : PyStr
  authorization : Option PyStr
  accessCookie : Option PyStr
  csrfHeader : Option PyStr
  csrfCookie : Option PyStr

/-- Claims that the verifier returns: their `tenant_id` is the tenant it was asked for. -/
structure VerifiedClaims (tenant : PyStr) where
  members : List (PyStr × Json)
  tenantId : Json.get members (lit "tenant_id") = .str tenant

/-- The configured tenant, and the path of the metadata document if one is served. -/
structure GuardConfig where
  configuredTenant : PyStr
  configured : configuredTenant ≠ []
  metadataPath : Option PyStr

/-- `verify_access_token` -/
abbrev Verify (C : GuardConfig) := PyStr → Except Exc (VerifiedClaims C.configuredTenant)

/-- `AxiamUser` -/
structure AxiamUser where
  userId : Json
  tenantId : Json
  roles : List Json

/-- How a guard ends: with a user, with a 401 or a 403, or by letting the request pass without one. -/
inductive Outcome
  | user (u : AxiamUser)
  | unauthorized (detail : PyStr)
  | forbidden (detail : PyStr)
  | exempt

def missingCredentials : Outcome := .unauthorized (lit "missing authentication credentials")

def invalidToken : Outcome := .unauthorized (lit "invalid or expired token")

def csrfFailed : Outcome := .forbidden (lit "CSRF validation failed")

/-! ## The steps the two pipelines share -/

/-- `_Credential` -/
structure Credential where
  value : PyStr
  fromCookie : Bool

/-- `_extract_token`: the bearer header first, the cookie only without a header. -/
def extractToken (r : Request) : Option Credential :=
  match r.authorization.getD [] with
  | c :: cs =>
    let header := strip (c :: cs)
    let scheme := header.takeWhile (· ≠ ch ' ')
    let credentials := strip ((header.dropWhile (· ≠ ch ' ')).drop 1)
    if lowerAscii scheme = lit "bearer" ∧ credentials ≠ [] then some ⟨credentials, false⟩ else none
  | [] =>
    match r.accessCookie with
    | none | some [] => none
    | some cookie => some ⟨cookie, true⟩

/-- `str.upper` as far as it gives one ASCII letter: that of a lower case letter, of the dotless i and
of the long s. -/
def upperChar (c : CodePoint) : CodePoint :=
  if 97 ≤ c.val ∧ c.val ≤ 122 then Fin.ofNat 0x110000 (c.val - 32)
  else if c.val = 0x131 then ch 'I'
  else if c.val = 0x17F then ch 'S'
  else c

/-- `method.upper() in _SAFE_METHODS` -/
def isSafe (method : PyStr) : Bool :=
  decide (method.map upperChar ∈ [lit "GET", lit "HEAD", lit "OPTIONS"])

/-- Both values are there and equal; `compare_digest` raises on a non-ASCII one. -/
def csrfMatches (header cookie : Option PyStr) : Except Exc Bool :=
  if (header.getD []).isEmpty || (cookie.getD []).isEmpty then .ok false
  else compareDigest (header.getD []) (cookie.getD [])

/-- The roles of a `scope` claim: the words of a string, else its `list(...)`. -/
def rolesOf (claims : List (PyStr × Json)) : Except Exc (List Json) :=
  let scope := Json.get claims (lit "scope")
  if !scope.truthy then .ok []
  else match scope with
    | .str s => .ok ((splitSpace s).map .str)
    | .arr xs => .ok xs
    | .obj ms => .ok (ms.map (fun m => .str m.1))
    | _ => .error .typeError

/-! ## FastAPI -/

namespace Fastapi

/-- `_assert_csrf_valid` -/
def assertCsrfValid (r : Request) : Except Exc Bool := csrfMatches r.csrfHeader r.csrfCookie

/-- `_authenticate` after the CSRF check. -/
def identify (C : GuardConfig) (verify : Verify C) (token : PyStr) : Except Exc Outcome :=
  match verify token with
  | .error _ => .ok invalidToken
  | .ok claims =>
    let tenantId := Json.get claims.members (lit "tenant_id")
    match rolesOf claims.members with
    | .error e => .error e
    | .ok roles =>
      let subject := Json.get claims.members (lit "sub")
      if subject.truthy then .ok (.user ⟨subject, tenantId, roles⟩) else .ok invalidToken

/-- `_authenticate` -/
def authenticate (C : GuardConfig) (verify : Verify C) (r : Request) : Except Exc Outcome :=
  match extractToken r with
  | none => .ok missingCredentials
  | some credential =>
    if credential.fromCookie && !isSafe r.method then
      match assertCsrfValid r with
      | .error e => .error e
      | .ok true => identify C verify credential.value
      | .ok false => .ok csrfFailed
    else identify C verify credential.value

end Fastapi

/-! ## Django -/

namespace Django

/-- `_is_csrf_valid` -/
def isCsrfValid (r : Request) : Except Exc Bool := csrfMatches r.csrfHeader r.csrfCookie

/-- `_build_user`; none is its `_MalformedClaims`. -/
def buildUser (claims : List (PyStr × Json)) : Except Exc (Option AxiamUser) :=
  match rolesOf claims with
  | .error e => .error e
  | .ok roles =>
    let subject := Json.get claims (lit "sub")
    let tenantId := Json.get claims (lit "tenant_id")
    if subject.truthy && tenantId.truthy then .ok (some ⟨subject, tenantId, roles⟩) else .ok none

/-- `is_metadata_document_request` -/
def isMetadataDocumentRequest (C : GuardConfig) (r : Request) : Bool :=
  match C.metadataPath with
  | none => false
  | some path => decide (r.method.map upperChar ∈ [lit "GET", lit "HEAD"] ∧ r.path = path)

/-- `_authenticate` after the CSRF check. -/
def identify (C : GuardConfig) (verify : Verify C) (token : PyStr) : Except Exc Outcome :=
  match verify token with
  | .error _ => .ok invalidToken
  | .ok claims =>
    match buildUser claims.members with
    | .error e => .error e
    | .ok (some user) => .ok (.user user)
    | .ok none => .ok invalidToken

/-- `AxiamAuthMiddleware._authenticate` -/
def authenticate (C : GuardConfig) (verify : Verify C) (r : Request) : Except Exc Outcome :=
  if isMetadataDocumentRequest C r then .ok .exempt
  else
    match extractToken r with
    | none => .ok missingCredentials
    | some credential =>
      if credential.fromCookie && !isSafe r.method then
        match isCsrfValid r with
        | .error e => .error e
        | .ok true => identify C verify credential.value
        | .ok false => .ok csrfFailed
      else identify C verify credential.value

end Django

/-! ## What the guards owe a request -/

/-- A cookie credential on a method that changes state. -/
def NeedsCsrf (r : Request) : Prop :=
  ∃ credential, extractToken r = some credential ∧ credential.fromCookie = true ∧ isSafe r.method = false

/-- Both guards end with the same user, 401 or 403, and a user that comes from a cookie on a method
that changes state comes with a CSRF header equal to the CSRF cookie. -/
structure Answers (C : GuardConfig) (verify : Verify C) (r : Request) : Prop where
  agree : ∃ o, Fastapi.authenticate C verify r = .ok o ∧ Django.authenticate C verify r = .ok o ∧
    o ≠ .exempt
  csrf : ∀ u, (Fastapi.authenticate C verify r = .ok (.user u) ∨
      Django.authenticate C verify r = .ok (.user u)) →
    NeedsCsrf r → ∃ v, v ≠ [] ∧ r.csrfHeader = some v ∧ r.csrfCookie = some v

/-- Two non-empty values, one of which holds a non-ASCII character. -/
def NonAsciiPair (header cookie : Option PyStr) : Prop :=
  ∃ h c, header = some h ∧ cookie = some c ∧ h ≠ [] ∧ c ≠ [] ∧ (h.all isAscii && c.all isAscii) = false

/-- The CSRF values are compared, and one of them is not ASCII. -/
def ComparesNonAscii (r : Request) : Prop := NeedsCsrf r ∧ NonAsciiPair r.csrfHeader r.csrfCookie

/-- A truthy value that `list(...)` does not take: `true`, or a number other than zero. -/
def Unlistable (scope : Json) : Prop :=
  scope.truthy = true ∧ ((∃ b, scope = .bool b) ∨ (∃ n, scope = .int n) ∨ ∃ x, scope = .float x)

/-- The credential gets past the CSRF check: none is needed, or header and cookie are equal. -/
def PassesCsrf (r : Request) : Prop :=
  NeedsCsrf r → ∃ v, v ≠ [] ∧ r.csrfHeader = some v ∧ r.csrfCookie = some v

/-- The credential is verified, with a scope that has no roles to list. -/
def ScopeUnlistable (C : GuardConfig) (verify : Verify C) (r : Request) : Prop :=
  PassesCsrf r ∧ ∃ credential claims, extractToken r = some credential ∧
    verify credential.value = .ok claims ∧ Unlistable (Json.get claims.members (lit "scope"))

variable {C : GuardConfig} {verify : Verify C} {r : Request}

/-! ### The shared steps -/

theorem csrfMatches_true {header cookie : Option PyStr} (h : csrfMatches header cookie = .ok true) :
    ∃ v, v ≠ [] ∧ header = some v ∧ cookie = some v := by
  unfold csrfMatches at h
  split at h
  · cases h
  · next hne =>
    unfold compareDigest at h
    split at h
    · cases header with
      | none => simp at hne
      | some v =>
        cases cookie with
        | none => simp at hne
        | some w =>
          obtain rfl : v = w := by simpa using h
          exact ⟨v, by simpa using hne, rfl, rfl⟩
    · cases h

theorem csrfMatches_self {v : PyStr} (hne : v ≠ []) (hascii : v.all isAscii = true) :
    csrfMatches (some v) (some v) = .ok true := by
  simp [csrfMatches, compareDigest, hne, hascii]

theorem nonAsciiPair_some {h c : PyStr} (hh : h ≠ []) (hc : c ≠ []) :
    NonAsciiPair (some h) (some c) ↔ (h.all isAscii && c.all isAscii) = false := by
  constructor
  · rintro ⟨h', c', hh', hc', _, _, hfalse⟩
    rw [Option.some.inj hh', Option.some.inj hc']
    exact hfalse
  · intro hfalse
    exact ⟨h, c, rfl, rfl, hh, hc, hfalse⟩

theorem csrfMatches_isOk (header cookie : Option PyStr) :
    (∃ b, csrfMatches header cookie = .ok b) ↔ ¬ NonAsciiPair header cookie := by
  cases header with
  | none => simp [csrfMatches, NonAsciiPair]
  | some h =>
    cases cookie with
    | none => simp [csrfMatches, NonAsciiPair]
    | some c =>
      by_cases hh : h = []
      · simp [csrfMatches, NonAsciiPair, hh]
      · by_cases hc : c = []
        · simp [csrfMatches, NonAsciiPair, hc]
        · have hempty : (h.isEmpty || c.isEmpty) = false := by simp [hh, hc]
          rw [nonAsciiPair_some hh hc]
          simp only [csrfMatches, compareDigest, Option.getD_some, hempty, Bool.false_eq_true, if_false]
          cases h.all isAscii && c.all isAscii with
          | true => simp
          | false => simp

theorem rolesOf_isOk (claims : List (PyStr × Json)) :
    (∃ roles, rolesOf claims = .ok roles) ↔ ¬ Unlistable (Json.get claims (lit "scope")) := by
  unfold rolesOf Unlistable
  by_cases ht : (Json.get claims (lit "scope")).truthy = true
  · simp only [ht]
    revert ht
    cases Json.get claims (lit "scope") <;> simp [Json.truthy]
  · simp [ht]

theorem identify_ok (C : GuardConfig) (verify : Verify C) (token : PyStr) :
    (∃ o, Fastapi.identify C verify token = .ok o) ↔
      ¬ ∃ claims, verify token = .ok claims ∧ Unlistable (Json.get claims.members (lit "scope")) := by
  unfold Fastapi.identify
  cases hv : verify token with
  | error e => simp
  | ok claims =>
    have hroles := rolesOf_isOk claims.members
    cases hr : rolesOf claims.members with
    | error e =>
      have hun : Unlistable (Json.get claims.members (lit "scope")) := by simpa [hr] using hroles
      simp [hr, hun]
    | ok roles =>
      have hlist : ¬ Unlistable (Json.get claims.members (lit "scope")) := by simpa [hr] using hroles
      by_cases hsub : (Json.get claims.members (lit "sub")).truthy = true
      · simp [hr, hlist, hsub]
      · simp [hr, hlist, hsub]

theorem identify_ne_exempt (token : PyStr) : Fastapi.identify C verify token ≠ .ok .exempt := by
  unfold Fastapi.identify
  cases verify token with
  | error e => simp [invalidToken]
  | ok claims =>
    cases hr : rolesOf claims.members with
    | error e => simp [hr]
    | ok roles =>
      by_cases hsub : (Json.get claims.members (lit "sub")).truthy = true
      · simp [hr, hsub]
      · simp [hr, hsub, invalidToken]

/-- The tenant of verified claims is the configured one, so Django's test of it never fails. -/
theorem identify_agree (token : PyStr) :
    Django.identify C verify token = Fastapi.identify C verify token := by
  unfold Django.identify Fastapi.identify Django.buildUser
  cases verify token with
  | error e => rfl
  | ok claims =>
    have htenant : (Json.get claims.members (lit "tenant_id")).truthy = true := by
      rw [claims.tenantId]
      simpa [Json.truthy] using C.configured
    cases hr : rolesOf claims.members with
    | error e => simp [hr]
    | ok roles =>
      by_cases hsub : (Json.get claims.members (lit "sub")).truthy = true
      · simp [hr, hsub, htenant]
      · simp [hr, hsub]

/-! ### The two guards -/

/-- **The two pipelines agree** wherever the request is not the metadata document's. -/
theorem authenticate_agree (verify : Verify C) (h : Django.isMetadataDocumentRequest C r = false) :
    Django.authenticate C verify r = Fastapi.authenticate C verify r := by
  unfold Django.authenticate Fastapi.authenticate
  simp only [h, Bool.false_eq_true, if_false, identify_agree]
  rfl

theorem needsCsrf_iff {credential : Credential} (hc : extractToken r = some credential) :
    NeedsCsrf r ↔ (credential.fromCookie && !isSafe r.method) = true := by
  simp [NeedsCsrf, hc]

/-- What FastAPI's guard does with a credential: the CSRF comparison first, where it is due. -/
theorem authenticate_credential (C : GuardConfig) (verify : Verify C) {credential : Credential} (hc : extractToken r = some credential) :
    (NeedsCsrf r ∧ Fastapi.authenticate C verify r =
      match csrfMatches r.csrfHeader r.csrfCookie with
      | .error e => .error e
      | .ok true => Fastapi.identify C verify credential.value
      | .ok false => .ok csrfFailed) ∨
    (¬ NeedsCsrf r ∧ Fastapi.authenticate C verify r = Fastapi.identify C verify credential.value) := by
  by_cases hneeds : NeedsCsrf r
  · left
    refine ⟨hneeds, ?_⟩
    simp only [Fastapi.authenticate, hc, (needsCsrf_iff hc).1 hneeds, if_true, Fastapi.assertCsrfValid]
  · right
    refine ⟨hneeds, ?_⟩
    simp only [Fastapi.authenticate, hc]
    rw [if_neg (mt (needsCsrf_iff hc).2 hneeds)]

/-- A user from a cookie on a method that changes state passed the CSRF comparison. -/
theorem authenticate_csrf {u : AxiamUser} (h : Fastapi.authenticate C verify r = .ok (.user u)) :
    PassesCsrf r := by
  intro hneeds
  obtain ⟨credential, hc, _⟩ := id hneeds
  rcases authenticate_credential C verify hc with ⟨_, heq⟩ | ⟨hno, _⟩
  · rw [heq] at h
    split at h
    · cases h
    · next hm => exact csrfMatches_true hm
    · cases h
  · exact absurd hneeds hno

theorem authenticate_ne_exempt : Fastapi.authenticate C verify r ≠ .ok .exempt := by
  intro h
  cases hc : extractToken r with
  | none =>
    simp only [Fastapi.authenticate, hc] at h
    cases h
  | some credential =>
    rcases authenticate_credential C verify hc with ⟨_, heq⟩ | ⟨_, heq⟩
    · rw [heq] at h
      split at h
      · cases h
      · exact identify_ne_exempt _ h
      · cases h
    · rw [heq] at h
      exact identify_ne_exempt _ h

/-- FastAPI's guard answers unless it compares a non-ASCII value or reads an unlistable scope. -/
theorem authenticate_ok :
    (∃ o, Fastapi.authenticate C verify r = .ok o) ↔ ¬ ComparesNonAscii r ∧ ¬ ScopeUnlistable C verify r := by
  cases hc : extractToken r with
  | none => simp [Fastapi.authenticate, ComparesNonAscii, NeedsCsrf, ScopeUnlistable, hc]
  | some credential =>
    have hident := identify_ok C verify credential.value
    have hscope : ScopeUnlistable C verify r ↔ PassesCsrf r ∧ ∃ claims, verify credential.value = .ok claims ∧
        Unlistable (Json.get claims.members (lit "scope")) := by
      simp [ScopeUnlistable, hc]
    have hcmp := csrfMatches_isOk r.csrfHeader r.csrfCookie
    rcases authenticate_credential C verify hc with ⟨hneeds, heq⟩ | ⟨hno, heq⟩
    · rw [heq, hscope]
      have hnon : ComparesNonAscii r ↔ NonAsciiPair r.csrfHeader r.csrfCookie :=
        ⟨fun h => h.2, fun h => ⟨hneeds, h⟩⟩
      rw [hnon]
      cases hm : csrfMatches r.csrfHeader r.csrfCookie with
      | error e =>
        have hpair : NonAsciiPair r.csrfHeader r.csrfCookie := by simpa [hm] using hcmp
        simp [hpair]
      | ok valid =>
        have hpair : ¬ NonAsciiPair r.csrfHeader r.csrfCookie := hcmp.1 ⟨valid, hm⟩
        cases valid with
        | true =>
          have hpasses : PassesCsrf r := fun _ => csrfMatches_true hm
          rw [hident]
          simp [hpair, hpasses]
        | false =>
          -- equal values would have matched
          have hpasses : ¬ PassesCsrf r := by
            intro hp
            obtain ⟨v, hv, hheader, hcookie⟩ := hp hneeds
            rw [hheader, hcookie] at hm hpair
            rw [nonAsciiPair_some hv hv] at hpair
            rw [csrfMatches_self hv (by simpa using hpair)] at hm
            cases hm
          simp [hpair, hpasses]
    · rw [heq, hident, hscope]
      simp [ComparesNonAscii, hno, PassesCsrf]

/-- **The guards answer every request** with the same user, 401 or 403, unless it is the exempt
metadata document's, compares a non-ASCII CSRF value, or is verified with a scope that is no list;
on these they do not. -/
theorem guards_answer (C : GuardConfig) (verify : Verify C) (r : Request) :
    Answers C verify r ↔ Django.isMetadataDocumentRequest C r = false ∧ ¬ ComparesNonAscii r ∧
      ¬ ScopeUnlistable C verify r := by
  cases hexempt : Django.isMetadataDocumentRequest C r with
  | true =>
    have hdjango : Django.authenticate C verify r = .ok .exempt := by simp [Django.authenticate, hexempt]
    constructor
    · intro h
      obtain ⟨o, _, hd, hne⟩ := h.agree
      rw [hdjango] at hd
      exact absurd (Except.ok.inj hd).symm hne
    · intro h
      cases h.1
  | false =>
    have hagree := authenticate_agree verify hexempt
    constructor
    · intro h
      obtain ⟨o, hf, _, _⟩ := h.agree
      exact ⟨rfl, authenticate_ok.1 ⟨o, hf⟩⟩
    · rintro ⟨_, hok⟩
      obtain ⟨o, hf⟩ := authenticate_ok.2 hok
      constructor
      · refine ⟨o, hf, hagree ▸ hf, ?_⟩
        rintro rfl
        exact authenticate_ne_exempt hf
      · intro u hu
        rw [hagree, or_self] at hu
        exact authenticate_csrf hu

namespace NonAsciiCsrf

theorem configured : lit "t" ≠ [] := by decide

def config : GuardConfig := ⟨lit "t", configured, none⟩

/-- A POST with the session cookie, whose CSRF header and cookie are both an e with acute accent. -/
def request : Request := ⟨lit "POST", lit "/", none, some (lit "h.p.s"), some [0xE9], some [0xE9]⟩

def refusing : Verify config := fun _ => .error (.authError (lit "token verification failed") none)

end NonAsciiCsrf

open NonAsciiCsrf in
/-- Equal CSRF values that are not ASCII raise out of both guards. -/
theorem not_guards_answer : ¬ ∀ (C : GuardConfig) (verify : Verify C) (r : Request), Answers C verify r := by
  intro hall
  obtain ⟨o, hok, _⟩ := (hall config refusing request).agree
  have hraised : Fastapi.authenticate config refusing request = .error .typeError := by rfl
  rw [hraised] at hok
  cases hok

end AxiamSdk.Guards
