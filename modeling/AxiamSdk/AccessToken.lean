import Mathlib.Algebra.Order.Field.Rat
import Mathlib.Tactic.NormNum
import AxiamSdk.Guards.Authenticate
import AxiamSdk.Lib.PyInt
import AxiamSdk.RevocationFeed
import AxiamSdk.SigningKey
import AxiamSdk.TokenBinding

/-! # Access tokens (`verify_access_token` of `_jwks.py`)

* `verifyAccessToken`: the local checks, over what the JWT library enforces (`Enforced`).
* `Satisfies`: what a token must be; `Complete`: the call returns the claims of such tokens alone, and else
  raises an `AuthError`.
* `complete_iff`: it does so exactly if the token is not `Misjudged`.
* `guardVerify`: the verification that the guards are built from. -/

namespace AxiamSdk.AccessToken
open PyLib SigningKey
set_option autoImplicit false

abbrev Claims := List (PyStr × Json)

/-! ## The JWT library -/

/-- The options and arguments of `jwt.decode`, with `algorithms=["EdDSA"]`. -/
structure DecodeOptions where
  require : List PyStr
  verifyExp : Bool
  verifyNbf : Bool
  verifyAud : Bool
  leeway : ℚ
  issuer : Option PyStr
  audience : Option PyStr
  deriving DecidableEq

def IssuerHolds (issuer : Option PyStr) (claims : Claims) : Prop :=
  ∀ i, issuer = some i → (Json.get claims (lit "iss")).asStr? = some i

/-- The audience is the claim, or one of those that it lists. -/
def AudienceHolds (audience : Option PyStr) (claims : Claims) : Prop :=
  ∀ a, audience = some a → (Json.get claims (lit "aud")).asStr? = some a ∨
    ∃ audiences, Json.get claims (lit "aud") = .arr audiences ∧ .str a ∈ audiences

/-- What the library documents to have checked of claims that it returns. It reads a time claim with
`int`. -/
structure Enforced (I : Interp) (o : DecodeOptions) (now : ℚ) (claims : Claims) : Prop where
  required : ∀ name ∈ o.require, Assoc.get? claims name ≠ none
  exp : o.verifyExp = true → ∀ v, Assoc.get? claims (lit "exp") = some v →
    ∃ n : ℤ, pyInt I v = .ok n ∧ now - o.leeway < n
  nbf : o.verifyNbf = true → ∀ v, Assoc.get? claims (lit "nbf") = some v →
    ∃ n : ℤ, pyInt I v = .ok n ∧ n ≤ now + o.leeway
  issuer : IssuerHolds o.issuer claims
  audience : o.verifyAud = true → AudienceHolds o.audience claims

/-- The JWT library. `payload` gives the claims of a token whose signature verifies under a key; `repr` is the
text of a value (`none` is a `RecursionError`). -/
structure Library (Key : Type) where
  interp : Interp
  getUnverifiedHeader : PyStr → Outcome Claims
  decode : DecodeOptions → PyStr → Key → ℚ → Outcome Claims
  payload : PyStr → Key → Option Claims
  repr : Json → Option PyStr
  decode_signed : ∀ {o token key now claims}, decode o token key now = .ok claims →
    payload token key = some claims
  decode_enforced : ∀ {o token key now claims}, decode o token key now = .ok claims →
    Enforced interp o now claims

/-! ## The verifier -/

/-- A feed, with the entries that it holds once it has refreshed. -/
structure HeldFeed where
  feed : RevocationFeed.Feed
  entries : Option (Finset PyStr)

/-- `MAX_CLOCK_SKEW_SECONDS` -/
def maxClockSkewSeconds : ℚ := 60

/-- The settings of a `JwksVerifier`. -/
structure Settings where
  expectedIssuer : Option PyStr
  expectedAudience : Option PyStr
  clockSkewSeconds : ℚ
  bounded : 0 ≤ clockSkewSeconds ∧ clockSkewSeconds ≤ maxClockSkewSeconds
  revocationFeed : Option HeldFeed

/-- One call: the token, the expected tenant, and the readings of the two clocks. -/
structure Call where
  token : PyStr
  expectedTenantId : Option PyStr
  monotonic : ℚ
  now : ℚ

def authError {α : Type} (message : PyStr) : Except Exc α := .error (.authError message none)

/-- The `options` and arguments of `_verify_claims`. -/
def Settings.decodeOptions (S : Settings) : DecodeOptions where
  require := [lit "sub", lit "exp", lit "tenant_id"] ++ (if S.expectedIssuer.isSome then [lit "iss"] else []) ++
    (if S.expectedAudience.isSome then [lit "aud"] else [])
  verifyExp := true
  verifyNbf := true
  verifyAud := S.expectedAudience.isSome
  leeway := S.clockSkewSeconds
  issuer := S.expectedIssuer
  audience := S.expectedAudience

section Verify
variable {σ Key : Type} (L : Library Key) (C : KeyClient σ Key) (S : Settings)

/-- `jwt.get_unverified_header` under its handler. -/
def headerOf (token : PyStr) : Except Exc Claims :=
  match L.getUnverifiedHeader token with
  | .ok header => .ok header
  | .jwtError _ => authError (lit "malformed token header")
  | .escaped e => .error e.1

/-- Rule 1. -/
def checkAlg (header : Claims) : Except Exc Unit :=
  if (Json.get header (lit "alg")).asStr? = some (lit "EdDSA") then .ok ()
  else
    match L.repr (Json.get header (lit "alg")) with
    | some alg => authError (lit "unexpected alg " ++ alg ++ lit ": only EdDSA is accepted")
    | none => .error .recursionError

/-- The key lookup under its handler. -/
def keyOf (looked : Outcome Key) : Except Exc Key :=
  match looked with
  | .ok key => .ok key
  | .jwtError _ => authError (lit "no JWKS key matches the token")
  | .escaped e => .error e.1

/-- `jwt.decode` under its handlers. -/
def decodeClaims (c : Call) (key : Key) : Except Exc Claims :=
  match L.decode S.decodeOptions c.token key c.now with
  | .ok claims => .ok claims
  | .jwtError ⟨_, _, some claim⟩ =>
    authError (lit "token is missing the required " ++ claim ++ lit " claim")
  | .jwtError ⟨_, _, none⟩ => authError (lit "invalid or expired token")
  | .escaped e =>
    if e.1 = .typeError ∨ e.1.isValueError = true then authError (lit "token claims are malformed")
    else .error e.1

/-- `_assert_numeric_claim` -/
def assertNumericClaim (claims : Claims) (name : PyStr) (required : Bool) : Except Exc Unit :=
  match Json.get claims name with
  | .null =>
    if required then authError (lit "token is missing the required " ++ name ++ lit " claim") else .ok ()
  | .int _ | .float _ => .ok ()
  | _ => authError (lit "token " ++ name ++ lit " claim is not a JSON number")

/-- Rule 4. -/
def checkTenant (claims : Claims) (tenant : PyStr) : Except Exc Unit :=
  if (Json.get claims (lit "tenant_id")).asStr? = some tenant then .ok ()
  else authError (lit "token tenant_id does not match the configured tenant")

/-- The feed has its say on a session that a token names. -/
def checkFeed (claims : Claims) : Except Exc Unit :=
  match S.revocationFeed, (Json.get claims (lit "sid")).asStr? with
  | some held, some (c :: sid) =>
    match held.feed.isListed held.entries (c :: sid) with
    | .error e => .error e
    | .ok true =>
      authError (lit "the session behind this access token has been revoked (CONTRACT.md §10.4)")
    | .ok false => .ok ()
  | _, _ => .ok ()

/-- What `_verify_claims` checks of the claims it decoded. -/
def checkClaims (tenant : PyStr) (claims : Claims) : Except Exc Claims := do
  assertNumericClaim claims (lit "exp") true
  assertNumericClaim claims (lit "nbf") false
  checkTenant claims tenant
  checkFeed S claims
  return claims

/-- `_verify_claims`, and the verifier after it. -/
def verifyClaims (v : Verifier σ) (c : Call) : Except Exc Claims × Verifier σ :=
  match c.expectedTenantId with
  | none | some [] => (authError (lit "no configured tenant to assert the token's tenant_id against"), v)
  | some tenant =>
    match headerOf L c.token >>= checkAlg L with
    | .error e => (.error e, v)
    | .ok () =>
      let looked := getSigningKey C v c.monotonic c.token
      (keyOf looked.1 >>= decodeClaims L S c >>= checkClaims S tenant, looked.2)

/-- What `verify_access_token` does with the claims. -/
def checkBinding (claims : Claims) : Except Exc Claims := do
  TokenBinding.verifyTokenBinding claims none none
  return claims

/-- `verify_access_token`, and the verifier after it. -/
def verifyAccessToken (v : Verifier σ) (c : Call) : Except Exc Claims × Verifier σ :=
  let verified := verifyClaims L C S v c
  (verified.1 >>= checkBinding, verified.2)

end Verify

/-! ## What a token must be -/

/-- The exact value of a finite float. -/
def floatValue (x : Float) : Option ℚ :=
  match x.toModel.unpack with
  | .zero _ => some 0
  | .finite .positive m e _ => some (m * 2 ^ e)
  | .finite .negative m e _ => some (-(m * 2 ^ e))
  | _ => none

/-- The value of a JSON number. -/
def numberValue : Json → Option ℚ
  | .int n => some n
  | .float x => floatValue x
  | _ => none

/-- A JSON number, in whole seconds. -/
def wholeSeconds : Json → Option ℤ
  | .int n => some n
  | .float x => (PyInt.ofFloat x).toOption
  | _ => none

/-- The feed lists the session. -/
def Listed (held : HeldFeed) (sid : PyStr) : Prop :=
  ∃ listed entry, held.entries = some listed ∧ held.feed.entryFor sid = .ok entry ∧ entry ∈ listed

/-- The claims are those of a token that satisfies every rule. -/
structure Satisfies {Key : Type} (L : Library Key) (S : Settings) (c : Call) (named : Option Key)
    (claims : Claims) : Prop where
  alg : ∃ header, L.getUnverifiedHeader c.token = .ok header ∧
    (Json.get header (lit "alg")).asStr? = some (lit "EdDSA")
  signed : ∃ key, named = some key ∧ L.payload c.token key = some claims
  sub : Assoc.get? claims (lit "sub") ≠ none
  exp : ∃ v n, Assoc.get? claims (lit "exp") = some v ∧ wholeSeconds v = some n ∧
    c.now - S.clockSkewSeconds < n
  nbf : ∀ v, Assoc.get? claims (lit "nbf") = some v →
    ∃ q, numberValue v = some q ∧ q ≤ c.now + S.clockSkewSeconds
  tenant : ∃ tenant, c.expectedTenantId = some tenant ∧ tenant ≠ [] ∧
    Assoc.get? claims (lit "tenant_id") = some (.str tenant)
  issuer : IssuerHolds S.expectedIssuer claims
  audience : AudienceHolds S.expectedAudience claims
  unbound : Assoc.get? claims (lit "cnf") = none
  unrevoked : ∀ held sid, S.revocationFeed = some held → Assoc.get? claims (lit "sid") = some (.str sid) →
    ¬ Listed held sid

section Complete
variable {σ Key : Type} (L : Library Key) (C : KeyClient σ Key) (S : Settings) (v : Verifier σ) (c : Call)

/-- The call returns the claims of tokens that satisfy every rule, and fails with an `AuthError` alone. -/
structure Complete : Prop where
  returns : ∀ claims, (verifyAccessToken L C S v c).1 = .ok claims →
    Satisfies L S c (getSigningKey C v c.monotonic c.token).1.value? claims
  raises : ∀ e, (verifyAccessToken L C S v c).1 = .error e → e.isAuthError = true

/-! ## What is misjudged -/

/-- A time claim that is a JSON number. -/
def Numeric (v : Json) : Prop := (∃ n, v = .int n) ∨ ∃ x, v = .float x

/-- The session of the claims is revoked, as far as the feed is asked. -/
def Revoked (claims : Claims) : Prop :=
  ∃ held sid, S.revocationFeed = some held ∧ (Json.get claims (lit "sid")).asStr? = some sid ∧ sid ≠ [] ∧
    Listed held sid

/-- A feed that holds entries is asked for a session with a surrogate. -/
def UnencodableSession (claims : Claims) : Prop :=
  ∃ held listed sid, S.revocationFeed = some held ∧ held.entries = some listed ∧
    (Json.get claims (lit "sid")).asStr? = some sid ∧ sid ≠ [] ∧ noSurrogate sid = false

/-- Its whole seconds are in time, it is not. -/
def FractionallyEarly (claims : Claims) : Prop :=
  ∃ v q, Assoc.get? claims (lit "nbf") = some v ∧ numberValue v = some q ∧ c.now + S.clockSkewSeconds < q

/-- An empty session, which is not asked for, and is listed. -/
def EmptySession (claims : Claims) : Prop :=
  ∃ held, S.revocationFeed = some held ∧ Assoc.get? claims (lit "sid") = some (.str []) ∧ Listed held []

/-- Claims with numeric times and the expected tenant: the feed is asked for a session that cannot be
encoded; or it does not object, the confirmation is null, and a rule does not hold for it. -/
def MisjudgedClaims (tenant : PyStr) (claims : Claims) : Prop :=
  Numeric (Json.get claims (lit "exp")) ∧
    (Json.get claims (lit "nbf") = .null ∨ Numeric (Json.get claims (lit "nbf"))) ∧
    (Json.get claims (lit "tenant_id")).asStr? = some tenant ∧
    (UnencodableSession S claims ∨
      (¬ Revoked S claims ∧ Json.get claims (lit "cnf") = .null ∧
        (Assoc.get? claims (lit "cnf") ≠ none ∨ FractionallyEarly S c claims ∨ EmptySession S claims)))

/-- For an expected tenant: the header reader raises no `PyJWTError`; the header's `alg` is not `EdDSA` and
cannot be printed; or it is, and the key lookup raises no `PyJWTError`, or the decoding neither that nor a
`TypeError` or `ValueError`, or its claims are misjudged. -/
def Misjudged : Prop :=
  ∃ tenant, c.expectedTenantId = some tenant ∧ tenant ≠ [] ∧
    match L.getUnverifiedHeader c.token with
    | .jwtError _ => False
    | .escaped _ => True
    | .ok header =>
      if (Json.get header (lit "alg")).asStr? = some (lit "EdDSA") then
        match (getSigningKey C v c.monotonic c.token).1 with
        | .jwtError _ => False
        | .escaped _ => True
        | .ok key =>
          match L.decode S.decodeOptions c.token key c.now with
          | .jwtError _ => False
          | .escaped e => ¬ (e.1 = .typeError ∨ e.1.isValueError = true)
          | .ok claims => MisjudgedClaims S c tenant claims
      else L.repr (Json.get header (lit "alg")) = none

end Complete

/-! ## Check by check -/

theorem get_asStr?_eq {claims : Claims} {name s : PyStr} (h : (Json.get claims name).asStr? = some s) :
    Assoc.get? claims name = some (.str s) := by
  unfold Json.get at h
  cases hget : Assoc.get? claims name with
  | none =>
    rw [hget] at h
    cases h
  | some v =>
    rw [hget] at h
    cases v with
    | str t => rw [Option.some.inj h]
    | _ => cases h

theorem get_of_get? {claims : Claims} {name : PyStr} {v : Json} (h : Assoc.get? claims name = some v) :
    Json.get claims name = v := by
  rw [Json.get, h, Option.getD_some]

theorem foreign_not_authError (e : Foreign) : e.1.isAuthError = false := by
  obtain ⟨e, he⟩ := e
  simp only [Exc.mapped, Bool.or_eq_false_iff] at he
  exact he.1.1

theorem assertNumericClaim_cases (claims : Claims) (name : PyStr) (required : Bool) :
    ((Numeric (Json.get claims name) ∨ (required = false ∧ Json.get claims name = .null)) ∧
        assertNumericClaim claims name required = .ok ()) ∨
      (¬ (Numeric (Json.get claims name) ∨ (required = false ∧ Json.get claims name = .null)) ∧
        ∃ message, assertNumericClaim claims name required = authError message) := by
  unfold assertNumericClaim
  cases hv : Json.get claims name with
  | int n => exact Or.inl ⟨Or.inl (Or.inl ⟨n, rfl⟩), rfl⟩
  | float x => exact Or.inl ⟨Or.inl (Or.inr ⟨x, rfl⟩), rfl⟩
  | null =>
    cases required with
    | false => exact Or.inl ⟨Or.inr ⟨rfl, rfl⟩, rfl⟩
    | true =>
      refine Or.inr ⟨?_, _, rfl⟩
      simp [Numeric]
  | _ =>
    refine Or.inr ⟨?_, _, rfl⟩
    simp [Numeric]

theorem checkTenant_cases (claims : Claims) (tenant : PyStr) :
    ((Json.get claims (lit "tenant_id")).asStr? = some tenant ∧ checkTenant claims tenant = .ok ()) ∨
      ((Json.get claims (lit "tenant_id")).asStr? ≠ some tenant ∧
        ∃ message, checkTenant claims tenant = authError message) := by
  unfold checkTenant
  by_cases h : (Json.get claims (lit "tenant_id")).asStr? = some tenant
  · exact Or.inl ⟨h, if_pos h⟩
  · exact Or.inr ⟨h, _, if_neg h⟩

/-- What the feed answers: an entry that cannot be computed, a listed session, or another. -/
theorem isListed_cases (held : HeldFeed) (sid : PyStr) :
    (held.entries ≠ none ∧ noSurrogate sid = false ∧
        held.feed.isListed held.entries sid = .error .unicodeEncodeError) ∨
      ((held.entries = none ∨ noSurrogate sid = true) ∧
        ((Listed held sid ∧ held.feed.isListed held.entries sid = .ok true) ∨
          (¬ Listed held sid ∧ held.feed.isListed held.entries sid = .ok false))) := by
  unfold Listed RevocationFeed.Feed.isListed RevocationFeed.Feed.entryFor
  cases held.entries with
  | none => simp
  | some listed =>
    cases henc : encodeUtf8 sid with
    | none =>
      have hsurrogate := (encodeUtf8_eq_none_iff sid).1 henc
      exact Or.inl ⟨by simp, hsurrogate, rfl⟩
    | some bytes =>
      have hclean : noSurrogate sid = true := by
        cases hc : noSurrogate sid with
        | true => rfl
        | false =>
          rw [(encodeUtf8_eq_none_iff sid).2 hc] at henc
          cases henc
      refine Or.inr ⟨Or.inr hclean, ?_⟩
      by_cases hmem : Base64.urlsafeEncode (held.feed.sha256 bytes) ∈ listed
      · refine Or.inl ⟨⟨listed, _, rfl, rfl, hmem⟩, ?_⟩
        simp [Except.map, hmem]
      · refine Or.inr ⟨?_, ?_⟩
        · rintro ⟨listed', entry, hl, he, hin⟩
          cases hl
          cases he
          exact hmem hin
        · simp [Except.map, hmem]

section Claims
variable (S : Settings) (claims : Claims)

theorem checkFeed_cases :
    (UnencodableSession S claims ∧ checkFeed S claims = .error .unicodeEncodeError) ∨
      (¬ UnencodableSession S claims ∧ Revoked S claims ∧
        ∃ message, checkFeed S claims = authError message) ∨
      (¬ UnencodableSession S claims ∧ ¬ Revoked S claims ∧ checkFeed S claims = .ok ()) := by
  have hunasked : (∀ held sid, S.revocationFeed = some held → (Json.get claims (lit "sid")).asStr? = some sid →
      sid = []) → checkFeed S claims = .ok () → ¬ UnencodableSession S claims ∧ ¬ Revoked S claims ∧
      checkFeed S claims = .ok () := by
    intro hempty hok
    refine ⟨?_, ?_, hok⟩
    · rintro ⟨held, listed, sid, hfeed, -, hsid, hne, -⟩
      exact hne (hempty held sid hfeed hsid)
    · rintro ⟨held, sid, hfeed, hsid, hne, -⟩
      exact hne (hempty held sid hfeed hsid)
  cases hfeed : S.revocationFeed with
  | none =>
    refine Or.inr (Or.inr (hunasked (fun held sid hf => ?_) (by simp [checkFeed, hfeed])))
    rw [hfeed] at hf
    cases hf
  | some held =>
    cases hsid : (Json.get claims (lit "sid")).asStr? with
    | none =>
      refine Or.inr (Or.inr (hunasked (fun held sid _ hs => ?_) (by simp [checkFeed, hfeed, hsid])))
      rw [hsid] at hs
      cases hs
    | some sid =>
      cases sid with
      | nil =>
        refine Or.inr (Or.inr (hunasked (fun held sid _ hs => ?_) (by simp [checkFeed, hfeed, hsid])))
        rw [hsid] at hs
        exact (Option.some.inj hs).symm
      | cons ch sid =>
        have hrevoked : Revoked S claims ↔ Listed held (ch :: sid) := by
          simp [Revoked, hfeed, hsid]
        have hunencodable : UnencodableSession S claims ↔
            held.entries ≠ none ∧ noSurrogate (ch :: sid) = false := by
          simp [UnencodableSession, hfeed, hsid, Option.ne_none_iff_exists']
        rw [hrevoked, hunencodable]
        unfold checkFeed
        simp only [hfeed, hsid]
        rcases isListed_cases held (ch :: sid) with ⟨hne, hs, he⟩ | ⟨hor, ⟨hl, he⟩ | ⟨hl, he⟩⟩
        · rw [he]
          exact Or.inl ⟨⟨hne, hs⟩, rfl⟩
        · rw [he]
          refine Or.inr (Or.inl ⟨?_, hl, _, rfl⟩)
          rintro ⟨hne, hs⟩
          rcases hor with hnone | hclean
          · exact hne hnone
          · rw [hclean] at hs
            cases hs
        · rw [he]
          refine Or.inr (Or.inr ⟨?_, hl, rfl⟩)
          rintro ⟨hne, hs⟩
          rcases hor with hnone | hclean
          · exact hne hnone
          · rw [hclean] at hs
            cases hs

theorem checkBinding_cases :
    (Json.get claims (lit "cnf") = .null ∧ checkBinding claims = .ok claims) ∨
      (Json.get claims (lit "cnf") ≠ .null ∧ ∃ message, checkBinding claims = authError message) := by
  unfold checkBinding TokenBinding.verifyTokenBinding
  cases hcnf : Json.get claims (lit "cnf") with
  | null => exact Or.inl ⟨rfl, rfl⟩
  | obj cnf =>
    refine Or.inr ⟨by simp, ?_⟩
    dsimp only
    split
    · exact ⟨_, rfl⟩
    next hsome =>
      cases hc : TokenBinding.expected cnf TokenBinding.certificateMember with
      | some e => exact ⟨_, rfl⟩
      | none =>
        cases hk : TokenBinding.expected cnf TokenBinding.keyMember with
        | some e => exact ⟨_, rfl⟩
        | none => exact absurd ⟨hc, hk⟩ hsome
  | _ => exact Or.inr ⟨by simp, _, rfl⟩

/-- The times are numeric, and the tenant is the expected one. -/
def Typed (tenant : PyStr) : Prop :=
  Numeric (Json.get claims (lit "exp")) ∧
    (Json.get claims (lit "nbf") = .null ∨ Numeric (Json.get claims (lit "nbf"))) ∧
    (Json.get claims (lit "tenant_id")).asStr? = some tenant

/-- What becomes of the claims: a refusal, a session that cannot be encoded, or the claims. -/
theorem checked_cases (tenant : PyStr) :
    (¬ (Typed claims tenant ∧ UnencodableSession S claims) ∧
        ¬ (Typed claims tenant ∧ ¬ Revoked S claims ∧ Json.get claims (lit "cnf") = .null) ∧
        ∃ message, (checkClaims S tenant claims >>= checkBinding) = authError message) ∨
      ((Typed claims tenant ∧ UnencodableSession S claims) ∧
        (checkClaims S tenant claims >>= checkBinding) = .error .unicodeEncodeError) ∨
      ((Typed claims tenant ∧ ¬ UnencodableSession S claims ∧ ¬ Revoked S claims ∧
          Json.get claims (lit "cnf") = .null) ∧
        (checkClaims S tenant claims >>= checkBinding) = .ok claims) := by
  unfold checkClaims
  rcases assertNumericClaim_cases claims (lit "exp") true with ⟨hexp, he⟩ | ⟨hexp, message, he⟩
  · have hnumeric : Numeric (Json.get claims (lit "exp")) := by simpa using hexp
    rcases assertNumericClaim_cases claims (lit "nbf") false with ⟨hnbf, hn⟩ | ⟨hnbf, message, hn⟩
    · have hnbf' : Json.get claims (lit "nbf") = .null ∨ Numeric (Json.get claims (lit "nbf")) := by
        rcases hnbf with h | ⟨-, h⟩
        · exact Or.inr h
        · exact Or.inl h
      rcases checkTenant_cases claims tenant with ⟨ht, hc⟩ | ⟨ht, message, hc⟩
      · have htyped : Typed claims tenant := ⟨hnumeric, hnbf', ht⟩
        rw [he, hn, hc]
        rcases checkFeed_cases S claims with ⟨hu, hf⟩ | ⟨hu, hr, message, hf⟩ | ⟨hu, hr, hf⟩
        · rw [hf]
          exact Or.inr (Or.inl ⟨⟨htyped, hu⟩, rfl⟩)
        · rw [hf]
          exact Or.inl ⟨fun h => hu h.2, fun h => h.2.1 hr, message, rfl⟩
        · rw [hf]
          rcases checkBinding_cases claims with ⟨hcnf, hb⟩ | ⟨hcnf, message, hb⟩
          · exact Or.inr (Or.inr ⟨⟨htyped, hu, hr, hcnf⟩, hb⟩)
          · exact Or.inl ⟨fun h => hu h.2, fun h => hcnf h.2.2, message, hb⟩
      · rw [he, hn, hc]
        exact Or.inl ⟨fun h => ht h.1.2.2, fun h => ht h.1.2.2, message, rfl⟩
    · rw [he, hn]
      have hno : ¬ Typed claims tenant := by
        rintro ⟨-, h, -⟩
        rcases h with h | h
        · exact hnbf (Or.inr ⟨rfl, h⟩)
        · exact hnbf (Or.inl h)
      exact Or.inl ⟨fun h => hno h.1, fun h => hno h.1, message, rfl⟩
  · rw [he]
    have hno : ¬ Typed claims tenant := fun h => hexp (Or.inl h.1)
    exact Or.inl ⟨fun h => hno h.1, fun h => hno h.1, message, rfl⟩

end Claims

/-! ## What is returned -/

/-- A float that `int` reads has an exact value. -/
theorem floatValue_of_ofFloat {x : Float} {n : ℤ} (h : PyInt.ofFloat x = .ok n) : ∃ q, floatValue x = some q := by
  unfold PyInt.ofFloat at h
  unfold floatValue
  split at h
  · cases h
  · cases h
  next hu =>
    rw [hu]
    exact ⟨0, rfl⟩
  next s m e hm hu =>
    rw [hu]
    cases s with
    | positive => exact ⟨_, rfl⟩
    | negative => exact ⟨_, rfl⟩

theorem wholeSeconds_of_pyInt {I : Interp} {v : Json} {n : ℤ} (hnumeric : Numeric v) (h : pyInt I v = .ok n) :
    wholeSeconds v = some n := by
  rcases hnumeric with ⟨m, rfl⟩ | ⟨x, rfl⟩
  · rw [Except.ok.inj h.symm]
    rfl
  · have hx : PyInt.ofFloat x = .ok n := h
    rw [wholeSeconds, hx]
    rfl

section Returned
variable {Key : Type} (L : Library Key) (S : Settings) (c : Call) {claims : Claims}

/-- An `nbf` whose whole seconds are in time is in time itself, if it is not fractionally early. -/
theorem nbf_of_enforced (h : Enforced L.interp S.decodeOptions c.now claims)
    (hnumeric : Json.get claims (lit "nbf") = .null ∨ Numeric (Json.get claims (lit "nbf"))) :
    (∀ v, Assoc.get? claims (lit "nbf") = some v →
        ∃ q, numberValue v = some q ∧ q ≤ c.now + S.clockSkewSeconds) ↔ ¬ FractionallyEarly S c claims := by
  constructor
  · rintro hall ⟨v, q, hv, hq, hlt⟩
    obtain ⟨q', hq', hle⟩ := hall v hv
    rw [hq] at hq'
    rw [Option.some.inj hq'] at hlt
    exact absurd hle (not_le_of_gt hlt)
  · intro hnot v hv
    obtain ⟨n, hn, hle⟩ := h.nbf rfl v hv
    rw [get_of_get? hv] at hnumeric
    have hvalue : ∃ q, numberValue v = some q := by
      rcases hnumeric with rfl | ⟨m, rfl⟩ | ⟨x, rfl⟩
      · cases hn
      · exact ⟨m, rfl⟩
      · exact floatValue_of_ofFloat hn
    obtain ⟨q, hq⟩ := hvalue
    exact ⟨q, hq, not_lt.1 fun hlt => hnot ⟨v, q, hv, hq, hlt⟩⟩

/-- The feed lists no session of the claims, if it does not object and no empty session is listed. -/
theorem unrevoked_iff (hr : ¬ Revoked S claims) :
    (∀ held sid, S.revocationFeed = some held → Assoc.get? claims (lit "sid") = some (.str sid) →
        ¬ Listed held sid) ↔ ¬ EmptySession S claims := by
  constructor
  · rintro hall ⟨held, hfeed, hsid, hlisted⟩
    exact hall held [] hfeed hsid hlisted
  · intro hempty held sid hfeed hsid hlisted
    cases sid with
    | nil => exact hempty ⟨held, hfeed, hsid, hlisted⟩
    | cons ch sid =>
      have hget : (Json.get claims (lit "sid")).asStr? = some (ch :: sid) := by
        rw [get_of_get? hsid]
        rfl
      exact hr ⟨held, ch :: sid, hfeed, hget, List.cons_ne_nil ch sid, hlisted⟩

/-- The claims that are returned satisfy every rule exactly if no `cnf` is there, and the other two gaps are
not met. -/
theorem satisfies_iff {header : Claims} {key : Key} {tenant : PyStr}
    (htenant : c.expectedTenantId = some tenant) (hne : tenant ≠ [])
    (hheader : L.getUnverifiedHeader c.token = .ok header)
    (halg : (Json.get header (lit "alg")).asStr? = some (lit "EdDSA"))
    (hdecode : L.decode S.decodeOptions c.token key c.now = .ok claims) (htyped : Typed claims tenant)
    (hr : ¬ Revoked S claims) :
    Satisfies L S c (some key) claims ↔
      ¬ (Assoc.get? claims (lit "cnf") ≠ none ∨ FractionallyEarly S c claims ∨ EmptySession S claims) := by
  have henforced := L.decode_enforced hdecode
  have hnbf := nbf_of_enforced L S c henforced htyped.2.1
  have hsid := unrevoked_iff S hr
  constructor
  · rintro h (hcnf | hearly | hempty)
    · exact hcnf h.unbound
    · exact hnbf.1 h.nbf hearly
    · exact hsid.1 h.unrevoked hempty
  · intro hgaps
    rw [not_or, not_or, not_not] at hgaps
    have hrequired : ∀ name ∈ [lit "sub", lit "exp", lit "tenant_id"], Assoc.get? claims name ≠ none := by
      intro name hmem
      exact henforced.required name (List.mem_append_left _ (List.mem_append_left _ hmem))
    have hexp : ∃ v n, Assoc.get? claims (lit "exp") = some v ∧ wholeSeconds v = some n ∧
        c.now - S.clockSkewSeconds < n := by
      obtain ⟨v, hv⟩ := Option.ne_none_iff_exists'.1 (hrequired (lit "exp") (by simp))
      obtain ⟨n, hn, hlt⟩ := henforced.exp rfl v hv
      have hnumeric := htyped.1
      rw [get_of_get? hv] at hnumeric
      exact ⟨v, n, hv, wholeSeconds_of_pyInt hnumeric hn, hlt⟩
    have haudience : AudienceHolds S.expectedAudience claims := by
      intro a ha
      have hverify : S.decodeOptions.verifyAud = true := by
        show S.expectedAudience.isSome = true
        rw [ha]
        rfl
      exact henforced.audience hverify a ha
    exact ⟨⟨header, hheader, halg⟩, ⟨key, rfl, L.decode_signed hdecode⟩, hrequired (lit "sub") (by simp),
      hexp, hnbf.2 hgaps.2.1, ⟨tenant, htenant, hne, get_asStr?_eq htyped.2.2⟩, henforced.issuer, haudience,
      hgaps.1, hsid.2 hgaps.2.2⟩

/-- A result that is right: claims that satisfy every rule, or an `AuthError`. -/
def Right (named : Option Key) (x : Except Exc Claims) : Prop :=
  (∀ claims, x = .ok claims → Satisfies L S c named claims) ∧ ∀ e, x = .error e → e.isAuthError = true

variable (named : Option Key)

theorem right_authError (message : PyStr) : Right L S c named (authError message) := by
  constructor
  · intro claims h
    cases h
  · intro e h
    rw [← Except.error.inj h]
    rfl

theorem not_right_error {e : Exc} (h : e.isAuthError = false) : ¬ Right L S c named (.error e) := by
  intro hright
  rw [hright.2 e rfl] at h
  cases h

variable {named}

/-- What becomes of claims that decode: they are returned rightly or refused, exactly if they are not
misjudged. -/
theorem right_claims {header : Claims} {key : Key} {tenant : PyStr}
    (htenant : c.expectedTenantId = some tenant) (hne : tenant ≠ [])
    (hheader : L.getUnverifiedHeader c.token = .ok header)
    (halg : (Json.get header (lit "alg")).asStr? = some (lit "EdDSA"))
    (hdecode : L.decode S.decodeOptions c.token key c.now = .ok claims) :
    Right L S c (some key) (checkClaims S tenant claims >>= checkBinding) ↔
      ¬ MisjudgedClaims S c tenant claims := by
  have hmisjudged : MisjudgedClaims S c tenant claims ↔ Typed claims tenant ∧ (UnencodableSession S claims ∨
      (¬ Revoked S claims ∧ Json.get claims (lit "cnf") = .null ∧
        (Assoc.get? claims (lit "cnf") ≠ none ∨ FractionallyEarly S c claims ∨ EmptySession S claims))) := by
    unfold MisjudgedClaims Typed
    rw [and_assoc, and_assoc]
  rw [hmisjudged]
  rcases checked_cases S claims tenant with ⟨hu, hr, message, he⟩ | ⟨⟨ht, hu⟩, he⟩ | ⟨⟨ht, hu, hr, hcnf⟩, he⟩
  · rw [he]
    refine iff_of_true (right_authError L S c _ message) ?_
    rintro ⟨ht, h | ⟨hr', hcnf, -⟩⟩
    · exact hu ⟨ht, h⟩
    · exact hr ⟨ht, hr', hcnf⟩
  · rw [he]
    exact iff_of_false (not_right_error L S c _ rfl) fun h => h ⟨ht, Or.inl hu⟩
  · rw [he]
    have hsat := satisfies_iff L S c htenant hne hheader halg hdecode ht hr
    simp only [ht, hu, hr, hcnf, not_false_eq_true, true_and, false_or]
    rw [← hsat]
    constructor
    · exact fun h => h.1 claims rfl
    · intro h
      refine ⟨fun claims' hc => ?_, fun e hc => by cases hc⟩
      rw [← Except.ok.inj hc]
      exact h

theorem right_decoded {header : Claims} {tenant : PyStr} (htenant : c.expectedTenantId = some tenant)
    (hne : tenant ≠ []) (hheader : L.getUnverifiedHeader c.token = .ok header)
    (halg : (Json.get header (lit "alg")).asStr? = some (lit "EdDSA")) (key : Key) :
    Right L S c (some key)
        (decodeClaims L S c key >>= fun claims => checkClaims S tenant claims >>= checkBinding) ↔
      ¬ match L.decode S.decodeOptions c.token key c.now with
        | .jwtError _ => False
        | .escaped e => ¬ (e.1 = .typeError ∨ e.1.isValueError = true)
        | .ok claims => MisjudgedClaims S c tenant claims := by
  unfold decodeClaims
  cases hdecode : L.decode S.decodeOptions c.token key c.now with
  | ok claims => exact right_claims L S c htenant hne hheader halg hdecode
  | jwtError e =>
    obtain ⟨name, text, missing⟩ := e
    cases missing with
    | none => exact iff_of_true (right_authError L S c _ _) id
    | some claim => exact iff_of_true (right_authError L S c _ _) id
  | escaped e =>
    dsimp only
    by_cases hhandled : e.1 = .typeError ∨ e.1.isValueError = true
    · rw [if_pos hhandled]
      exact iff_of_true (right_authError L S c _ _) fun h => h hhandled
    · rw [if_neg hhandled]
      exact iff_of_false (not_right_error L S c _ (foreign_not_authError e)) fun h => h hhandled

end Returned

theorem verifyAccessToken_result {σ Key : Type} (L : Library Key) (C : KeyClient σ Key) (S : Settings)
    (v : Verifier σ) {c : Call} {tenant : PyStr} (htenant : c.expectedTenantId = some tenant)
    (hne : tenant ≠ []) :
    (verifyAccessToken L C S v c).1 =
      (headerOf L c.token >>= fun header => checkAlg L header >>= fun _ =>
        keyOf (getSigningKey C v c.monotonic c.token).1 >>= fun key => decodeClaims L S c key >>= fun claims =>
          checkClaims S tenant claims >>= checkBinding) := by
  obtain ⟨ch, rest, rfl⟩ := List.exists_cons_of_ne_nil hne
  unfold verifyAccessToken verifyClaims
  simp only [htenant]
  rw [← bind_assoc]
  cases headerOf L c.token >>= checkAlg L with
  | error e => rfl
  | ok u => simp only [bind_assoc]; rfl

/-- **When the whole set is applied**: the call returns the claims of tokens that satisfy it and fails with an
`AuthError` alone, exactly if the token is not misjudged. -/
theorem complete_iff {σ Key : Type} (L : Library Key) (C : KeyClient σ Key) (S : Settings) (v : Verifier σ)
    (c : Call) : Complete L C S v c ↔ ¬ Misjudged L C S v c := by
  have hright : Complete L C S v c ↔
      Right L S c (getSigningKey C v c.monotonic c.token).1.value? (verifyAccessToken L C S v c).1 :=
    ⟨fun h => ⟨h.returns, h.raises⟩, fun h => ⟨h.1, h.2⟩⟩
  rw [hright]
  by_cases hasked : ∃ tenant, c.expectedTenantId = some tenant ∧ tenant ≠ []
  · obtain ⟨tenant, htenant, hne⟩ := hasked
    have hmis : Misjudged L C S v c ↔ match L.getUnverifiedHeader c.token with
        | .jwtError _ => False
        | .escaped _ => True
        | .ok header =>
          if (Json.get header (lit "alg")).asStr? = some (lit "EdDSA") then
            match (getSigningKey C v c.monotonic c.token).1 with
            | .jwtError _ => False
            | .escaped _ => True
            | .ok key =>
              match L.decode S.decodeOptions c.token key c.now with
              | .jwtError _ => False
              | .escaped e => ¬ (e.1 = .typeError ∨ e.1.isValueError = true)
              | .ok claims => MisjudgedClaims S c tenant claims
          else L.repr (Json.get header (lit "alg")) = none := by
      constructor
      · rintro ⟨tenant', ht', -, h⟩
        rw [htenant] at ht'
        cases ht'
        exact h
      · exact fun h => ⟨tenant, htenant, hne, h⟩
    rw [hmis, verifyAccessToken_result L C S v htenant hne]
    cases hheader : L.getUnverifiedHeader c.token with
    | jwtError e =>
      rw [headerOf, hheader]
      exact iff_of_true (right_authError L S c _ _) id
    | escaped e =>
      rw [headerOf, hheader]
      exact iff_of_false (not_right_error L S c _ (foreign_not_authError e)) fun h => h trivial
    | ok header =>
      rw [headerOf, hheader]
      show Right L S c _ (checkAlg L header >>= fun _ => _) ↔ _
      unfold checkAlg
      dsimp only
      by_cases halg : (Json.get header (lit "alg")).asStr? = some (lit "EdDSA")
      · rw [if_pos halg, if_pos halg]
        show Right L S c _ (keyOf (getSigningKey C v c.monotonic c.token).1 >>= fun key => _) ↔ _
        cases hlooked : (getSigningKey C v c.monotonic c.token).1 with
        | ok key => exact right_decoded L S c htenant hne hheader halg key
        | jwtError e => exact iff_of_true (right_authError L S c _ _) id
        | escaped e =>
          exact iff_of_false (not_right_error L S c _ (foreign_not_authError e)) fun h => h trivial
      · rw [if_neg halg, if_neg halg]
        cases L.repr (Json.get header (lit "alg")) with
        | none => exact iff_of_false (not_right_error L S c _ rfl) fun h => h rfl
        | some alg => exact iff_of_true (right_authError L S c _ _) (by simp)
  · have hno : ¬ Misjudged L C S v c := fun ⟨tenant, ht, hne, _⟩ => hasked ⟨tenant, ht, hne⟩
    have hmessage : ∃ message, (verifyAccessToken L C S v c).1 = authError message := by
      unfold verifyAccessToken verifyClaims
      split
      · exact ⟨_, rfl⟩
      · exact ⟨_, rfl⟩
      next tenant hnil ht =>
        refine absurd ⟨tenant, ht, ?_⟩ hasked
        rintro rfl
        exact hnil rfl
    obtain ⟨message, hm⟩ := hmessage
    rw [hm]
    exact iff_of_true (right_authError L S c _ message) hno

/-! ## The verification of the guards -/

theorem verified_tenant {σ Key : Type} {L : Library Key} {C : KeyClient σ Key} {S : Settings} {v : Verifier σ}
    {c : Call} {tenant : PyStr} {claims : Claims} (htenant : c.expectedTenantId = some tenant)
    (hne : tenant ≠ []) (h : (verifyAccessToken L C S v c).1 = .ok claims) :
    Json.get claims (lit "tenant_id") = .str tenant := by
  rw [verifyAccessToken_result L C S v htenant hne] at h
  obtain ⟨header, -, h⟩ := bind_ok h
  obtain ⟨u, -, h⟩ := bind_ok h
  obtain ⟨key, -, h⟩ := bind_ok h
  obtain ⟨decoded, -, h⟩ := bind_ok h
  rcases checked_cases S decoded tenant with ⟨-, -, message, he⟩ | ⟨-, he⟩ | ⟨⟨ht, -⟩, he⟩
  · rw [he] at h
    cases h
  · rw [he] at h
    cases h
  · rw [he] at h
    rw [← Except.ok.inj h]
    exact get_of_get? (get_asStr?_eq ht.2.2)

/-- The verification that a guard is built from: `verify_access_token` for the guard's tenant. -/
def guardVerify {σ Key : Type} (L : Library Key) (C : KeyClient σ Key) (S : Settings) (v : Verifier σ)
    (monotonic now : ℚ) (G : Guards.GuardConfig) : Guards.Verify G := fun token =>
  match h : (verifyAccessToken L C S v ⟨token, some G.configuredTenant, monotonic, now⟩).1 with
  | .error e => .error e
  | .ok claims => .ok ⟨claims, verified_tenant rfl G.configured h⟩

/-! ## A null confirmation -/

namespace NullConfirmation

def claims : Claims :=
  [(lit "sub", .str (lit "u1")), (lit "exp", .int 2000000000), (lit "tenant_id", .str (lit "t1")),
    (lit "cnf", .null)]

def settings : Settings := ⟨none, none, 60, by decide, none⟩

def call : Call := ⟨lit "h.p.s", some (lit "t1"), 0, 1700000000⟩

def invalid : PyJwtError := ⟨lit "InvalidTokenError", lit "Invalid token", none⟩

theorem enforced : Enforced ⟨4300, 990, 990, fun _ => []⟩ settings.decodeOptions call.now claims where
  required := by
    intro name hmem
    have hmem' : name ∈ [lit "sub", lit "exp", lit "tenant_id"] := hmem
    simp only [List.mem_cons, List.not_mem_nil, or_false] at hmem'
    rcases hmem' with rfl | rfl | rfl
    · exact Option.some_ne_none (Json.str (lit "u1"))
    · exact Option.some_ne_none (Json.int 2000000000)
    · exact Option.some_ne_none (Json.str (lit "t1"))
  exp := by
    intro _ v hv
    have hexp : Assoc.get? claims (lit "exp") = some (.int 2000000000) := by rfl
    obtain rfl := Option.some.inj (hexp.symm.trans hv)
    have hlater : (1700000000 : ℚ) - 60 < ((2000000000 : ℤ) : ℚ) := by norm_num
    exact ⟨2000000000, rfl, hlater⟩
  nbf := by
    intro _ v hv
    have hnbf : Assoc.get? claims (lit "nbf") = none := by rfl
    rw [hnbf] at hv
    cases hv
  issuer := fun i hi => by cases hi
  audience := fun h => Bool.noConfusion h

def library : Library Unit where
  interp := ⟨4300, 990, 990, fun _ => []⟩
  getUnverifiedHeader := fun _ => .ok [(lit "alg", .str (lit "EdDSA"))]
  decode := fun o _ _ now =>
    if o = settings.decodeOptions ∧ now = call.now then .ok claims else .jwtError invalid
  payload := fun _ _ => some claims
  repr := fun _ => none
  decode_signed := by
    intro o token key now returned h
    split at h
    · cases h
      rfl
    · cases h
  decode_enforced := by
    intro o token key now returned h
    split at h
    next heq =>
      obtain ⟨rfl, rfl⟩ := heq
      cases h
      exact enforced
    · cases h

def client : KeyClient Unit Unit := ⟨fun s _ => (.ok (), s), id⟩

end NullConfirmation

open NullConfirmation in
/-- A token whose `cnf` is null is returned as one without a confirmation. -/
theorem not_complete : ¬ ∀ (σ Key : Type) (L : Library Key) (C : KeyClient σ Key) (S : Settings)
    (v : Verifier σ) (c : Call), Complete L C S v c := by
  intro hall
  have hdecode : library.decode settings.decodeOptions call.token () call.now = .ok claims := by
    show (if settings.decodeOptions = settings.decodeOptions ∧ call.now = call.now then Outcome.ok claims
      else .jwtError invalid) = _
    exact if_pos ⟨rfl, rfl⟩
  have hresult : (verifyAccessToken library client settings ⟨(), none⟩ call).1 = .ok claims := by
    have hclaims : decodeClaims library settings call () = .ok claims := by
      unfold decodeClaims
      rw [hdecode]
    rw [verifyAccessToken_result library client settings ⟨(), none⟩ rfl (List.cons_ne_nil _ _)]
    show (decodeClaims library settings call () >>= _) = _
    rw [hclaims]
    rfl
  have hcnf := ((hall Unit Unit library client settings ⟨(), none⟩ call).returns claims hresult).unbound
  cases hcnf

end AxiamSdk.AccessToken
