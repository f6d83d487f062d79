import AxiamSdk.Lib.Checklist
import AxiamSdk.Lib.FloatOrder
import AxiamSdk.SigningKey

/-! # ID token validation (`_oidc_idtoken.py`)

* `validateIdToken`: the checks in their order, over what the JWT library and the model validation do.
* `firstFailure`: the rules in their order, and the first that fails.
* `checklist_iff`: the call judges the rules right exactly if the token is not `Misjudged`. -/

namespace AxiamSdk.IdToken
open PyLib SigningKey
set_option autoImplicit false

/-! ## The source -/

/-- `ID_TOKEN_ALG` -/
def idTokenAlg : PyStr := lit "EdDSA"

/-- `MAX_CLOCK_SKEW_SEC` -/
def maxClockSkewSec : Float := 60.0

/-- The reason codes. -/
inductive Reason
  | invalidAlg | unknownKid | invalidSignature | invalidIssuer | invalidAudience | tokenExpired
  | nonceMismatch
  deriving DecidableEq

def Reason.value : Reason → PyStr
  | .invalidAlg => lit "invalid_alg"
  | .unknownKid => lit "unknown_kid"
  | .invalidSignature => lit "invalid_signature"
  | .invalidIssuer => lit "invalid_issuer"
  | .invalidAudience => lit "invalid_audience"
  | .tokenExpired => lit "token_expired"
  | .nonceMismatch => lit "nonce_mismatch"

/-- `id_token_auth_error` -/
def idTokenAuthError (reason : Reason) (message : PyStr) : Exc :=
  .authError (lit "id_token validation failed (" ++ reason.value ++ lit "): " ++ message) (some reason.value)

/-- `raise id_token_auth_error(...)` -/
def refuse {α : Type} (reason : Reason) (message : PyStr) : Except Exc α :=
  .error (idTokenAuthError reason message)

abbrev Claims := List (PyStr × Json)

/-- `IdTokenClaims` -/
structure IdTokenClaims where
  iss : PyStr
  sub : PyStr
  aud : PyStr ⊕ List PyStr
  exp : ℤ
  iat : ℤ
  nbf : Option ℤ
  nonce : Option PyStr
  azp : Option PyStr
  extra : Claims

/-- What the JWT library does with a token, and the model validation of its claims (`none` is a
`ValidationError`). `payload` gives the claims of a token whose signature verifies under a key: the library
returns no others. `repr` is that of a string. -/
structure Library (Key : Type) where
  getUnverifiedHeader : PyStr → Outcome Claims
  decode : PyStr → Key → Outcome Claims
  payload : PyStr → Key → Option Claims
  modelValidate : Claims → Option IdTokenClaims
  repr : PyStr → PyStr
  decode_signed : ∀ {token key claims}, decode token key = .ok claims → payload token key = some claims

/-- The arguments of `validate_id_token`, with the reading of its clock. -/
structure Call where
  token : PyStr
  issuer : PyStr
  clientId : PyStr
  nonce : Option PyStr
  clockSkewSec : Option Float
  now : Float

/-- `resolve_clock_skew_sec` -/
def resolveClockSkewSec (clockSkewSec : Option Float) : Float :=
  match clockSkewSec with
  | none => maxClockSkewSec
  | some sec =>
    let positive := if sec < 0.0 then 0.0 else sec
    if maxClockSkewSec < positive then maxClockSkewSec else positive

/-- `constant_time_equals` -/
def constantTimeEquals (a b : PyStr) : Except Exc Bool :=
  match encodeUtf8 a with
  | none => .error .unicodeEncodeError
  | some a =>
    match encodeUtf8 b with
    | none => .error .unicodeEncodeError
    | some b => .ok (decide (a = b))

/-- `assert_id_token_alg` -/
def assertIdTokenAlg (repr : PyStr → PyStr) (alg : Json) : Except Exc Unit :=
  if alg.asStr? = some idTokenAlg then .ok ()
  else
    refuse .invalidAlg (lit "expected alg \"EdDSA\", got " ++
      match alg.asStr? with
      | some s => repr s
      | none => lit "no alg header")

section Signature
variable {σ Key : Type} (L : Library Key) (C : KeyClient σ Key)

/-- `jwt.decode` under the handler of `verify_id_token_signature`. -/
def decodeSigned (token : PyStr) (key : Key) : Except Exc Claims :=
  match L.decode token key with
  | .ok claims => .ok claims
  | .jwtError _ => refuse .invalidSignature (lit "ID token signature verification failed")
  | .escaped e => .error e.1

/-- `get_signing_key` under the handler of `verify_id_token_signature`. -/
def keyOf (looked : Outcome Key) : Except Exc Key :=
  match looked with
  | .ok key => .ok key
  | .jwtError _ => refuse .unknownKid (lit "no JWKS key matches the token's kid")
  | .escaped e => .error e.1

/-- `jwt.get_unverified_header`, which nothing handles. -/
def headerOf (token : PyStr) : Except Exc Claims :=
  match L.getUnverifiedHeader token with
  | .ok header => .ok header
  | .jwtError e => .error e.exc
  | .escaped e => .error e.1

/-- `verify_id_token_signature`, and the verifier after it. -/
def verifyIdTokenSignature (v : Verifier σ) (monotonic : ℚ) (token : PyStr) :
    Except Exc Claims × Verifier σ :=
  match headerOf L token with
  | .error e => (.error e, v)
  | .ok header =>
    match assertIdTokenAlg L.repr (Json.get header (lit "alg")) with
    | .error e => (.error e, v)
    | .ok () =>
      let looked := getSigningKey C v monotonic token
      (keyOf looked.1 >>= decodeSigned L token, looked.2)

end Signature

/-! ### The claims -/

section Checks
variable (c : Call) (claims : Claims)

def skew : Float := resolveClockSkewSec c.clockSkewSec

/-- Rule 3. -/
def checkIssuer : Except Exc Unit :=
  if (Json.get claims (lit "iss")).asStr? = some c.issuer then .ok ()
  else refuse .invalidIssuer (lit "iss does not equal the discovery document issuer")

def audiences : List Json :=
  match Json.get claims (lit "aud") with
  | .arr audiences => audiences
  | aud => [aud]

/-- The client is one of the audiences. -/
def containsClient : Bool := (audiences claims).any (fun a => decide (a.asStr? = some c.clientId))

/-- Rule 4. -/
def checkAudience : Except Exc Unit :=
  if containsClient c claims = false then
    refuse .invalidAudience (lit "aud does not contain this client_id")
  else if 1 < (audiences claims).length ∧ (Json.get claims (lit "azp")).asStr? ≠ some c.clientId then
    refuse .invalidAudience
      (lit "aud holds multiple audiences and azp is absent or does not equal this client_id")
  else .ok ()

/-- A value that passes `isinstance(v, (int, float))`, in float arithmetic; an integer may be too large for
it. -/
def arithmetic (v : Json) : Option (Except Exc Float) :=
  match v with
  | .int n =>
    match FloatOrder.ofInt? n with
    | some x => some (.ok x)
    | none => some (.error .overflowError)
  | .float x => some (.ok x)
  | .bool b => some (.ok (if b then 1.0 else 0.0))
  | _ => none

/-- One time claim: what is no number, and what is too late or too early. -/
def checkTimeClaim (v : Json) (fails : Float → Bool) (noNumber : Except Exc Unit) (message : PyStr) :
    Except Exc Unit :=
  match arithmetic v with
  | none => noNumber
  | some (.error e) => .error e
  | some (.ok x) => if fails x then refuse .tokenExpired message else .ok ()

def expFails (x : Float) : Bool := decide (x + skew c ≤ c.now)

def iatFails (x : Float) : Bool := decide (c.now < x - skew c)

def checkExp : Except Exc Unit :=
  checkTimeClaim (Json.get claims (lit "exp")) (expFails c)
    (refuse .tokenExpired (lit "exp claim is missing or not a number")) (lit "exp is in the past")

def checkIat : Except Exc Unit :=
  checkTimeClaim (Json.get claims (lit "iat")) (iatFails c)
    (refuse .tokenExpired (lit "iat claim is missing or not a number")) (lit "iat is in the future")

def checkNbf : Except Exc Unit :=
  checkTimeClaim (Json.get claims (lit "nbf")) (iatFails c) (.ok ()) (lit "nbf is in the future")

/-- Rule 5. -/
def checkTime : Except Exc Unit := do
  checkExp c claims
  checkIat c claims
  checkNbf c claims

/-- Rule 6. -/
def checkNonce : Except Exc Unit :=
  match c.nonce with
  | none => .ok ()
  | some nonce =>
    let mismatch := refuse .nonceMismatch (lit "nonce claim is absent or does not match the request nonce")
    match (Json.get claims (lit "nonce")).asStr? with
    | none => mismatch
    | some claimNonce => constantTimeEquals claimNonce nonce >>= fun equal => if equal then .ok () else mismatch

/-- `IdTokenClaims.model_validate` -/
def validateModel (modelValidate : Claims → Option IdTokenClaims) : Except Exc IdTokenClaims :=
  match modelValidate claims with
  | some model => .ok model
  | none => .error .valueError

/-- `check_id_token_claims` -/
def checkIdTokenClaims (modelValidate : Claims → Option IdTokenClaims) : Except Exc IdTokenClaims := do
  checkIssuer c claims
  checkAudience c claims
  checkTime c claims
  checkNonce c claims
  validateModel claims modelValidate

end Checks

/-- `validate_id_token`, and the verifier after it. -/
def validateIdToken {σ Key : Type} (L : Library Key) (C : KeyClient σ Key) (v : Verifier σ) (monotonic : ℚ)
    (c : Call) : Except Exc IdTokenClaims × Verifier σ :=
  let verified := verifyIdTokenSignature L C v monotonic c.token
  (verified.1 >>= fun claims => checkIdTokenClaims c claims L.modelValidate, verified.2)

/-! ## The rules -/

/-- The header's `alg` is `EdDSA`. -/
def eddsa (header : Claims) : Bool := decide ((Json.get header (lit "alg")).asStr? = some idTokenAlg)

section Rules
variable (c : Call) (claims : Claims)

def issuerRule : Bool := decide ((Json.get claims (lit "iss")).asStr? = some c.issuer)

def audienceRule : Bool :=
  containsClient c claims &&
    decide (¬ (1 < (audiences claims).length ∧ (Json.get claims (lit "azp")).asStr? ≠ some c.clientId))

/-- A JSON integer that passes a test, or is beyond the floats in the right direction. -/
def intWithin (n : ℤ) (test : Float → Bool) (beyond : ℤ → Bool) : Bool :=
  match FloatOrder.ofInt? n with
  | some x => test x
  | none => beyond n

/-- A finite JSON number that passes a test. -/
def within (v : Json) (test : Float → Bool) (beyond : ℤ → Bool) : Bool :=
  match v with
  | .int n => intWithin n test beyond
  | .float x => x.isFinite && test x
  | _ => false

def expRule : Bool :=
  within (Json.get claims (lit "exp")) (fun x => decide (c.now < x + skew c)) (fun n => decide (0 < n))

def notLate (x : Float) : Bool := decide (x - skew c ≤ c.now)

def iatRule : Bool := within (Json.get claims (lit "iat")) (notLate c) (fun n => decide (n < 0))

/-- It binds an `nbf` that is a number only. -/
def nbfRule : Bool :=
  match Json.get claims (lit "nbf") with
  | .int n => intWithin n (notLate c) (fun n => decide (n < 0))
  | .float x => notLate c x
  | _ => true

def timeRule : Bool := expRule c claims && iatRule c claims && nbfRule c claims

def nonceRule : Bool :=
  match c.nonce with
  | none => true
  | some nonce => decide ((Json.get claims (lit "nonce")).asStr? = some nonce)

end Rules

/-- The reason code that an `AuthError` carries. -/
def reasonOf : Exc → Option PyStr
  | .authError _ reason => reason
  | _ => none

section Misjudged
variable (c : Call) (claims : Claims)

/-- An integer too large for a float. -/
def TooLarge (v : Json) : Prop := ∃ n, v = .int n ∧ FloatOrder.ofInt? n = none

/-- A value that Python compares, and does not reject. -/
def Passes (v : Json) (fails : Float → Bool) : Prop :=
  ∃ x, arithmetic v = some (.ok x) ∧ fails x = false

/-- `nbf` is no number, or is not rejected. -/
def NbfPasses : Prop :=
  arithmetic (Json.get claims (lit "nbf")) = none ∨ Passes (Json.get claims (lit "nbf")) (iatFails c)

/-- A time claim that is reached is too large; or the three get past the comparisons, or not, against the
rule. -/
def MisjudgedTime : Prop :=
  TooLarge (Json.get claims (lit "exp")) ∨
    (Passes (Json.get claims (lit "exp")) (expFails c) ∧
      (TooLarge (Json.get claims (lit "iat")) ∨
        (Passes (Json.get claims (lit "iat")) (iatFails c) ∧
          (TooLarge (Json.get claims (lit "nbf")) ∨ ¬ (NbfPasses c claims ↔ timeRule c claims = true)))))

/-- A nonce is expected and claimed, and one of the two holds a surrogate. -/
def UnencodableNonce : Prop :=
  ∃ nonce claimed, c.nonce = some nonce ∧ (Json.get claims (lit "nonce")).asStr? = some claimed ∧
    (noSurrogate claimed = false ∨ noSurrogate nonce = false)

/-- Behind the rules before it: a misjudged time claim, a nonce that cannot be encoded, or claims that
satisfy every rule and are no `IdTokenClaims`. -/
def MisjudgedClaims (modelValidate : Claims → Option IdTokenClaims) : Prop :=
  issuerRule c claims = true ∧ audienceRule c claims = true ∧
    (MisjudgedTime c claims ∨
      (timeRule c claims = true ∧
        (UnencodableNonce c claims ∨ (nonceRule c claims = true ∧ modelValidate claims = none))))

/-- The header cannot be read; or it says `EdDSA`, and the key lookup or the decoding raises no `PyJWTError`,
or the decoding rejects a token whose signature verifies, or its claims are misjudged. -/
def Misjudged {σ Key : Type} (L : Library Key) (C : KeyClient σ Key) (v : Verifier σ) (monotonic : ℚ) : Prop :=
  match L.getUnverifiedHeader c.token with
  | .jwtError _ | .escaped _ => True
  | .ok header =>
    eddsa header = true ∧
      match (getSigningKey C v monotonic c.token).1 with
      | .jwtError _ => False
      | .escaped _ => True
      | .ok key =>
        match L.decode c.token key with
        | .escaped _ => True
        | .jwtError _ => L.payload c.token key ≠ none
        | .ok claims => MisjudgedClaims c claims L.modelValidate

end Misjudged

/-! ## One check at a time -/

open Checklist

@[simp] theorem value_inj (a b : Reason) : a.value = b.value ↔ a = b := by
  cases a <;> cases b <;> decide

theorem Within.other {α : Type} {x : Except Exc α} {a b : Reason} (h : Within reasonOf (· = a.value) x)
    (hne : a ≠ b) : Within reasonOf (· ≠ b.value) x := by
  refine Checklist.Within.mono h fun r hr => ?_
  rw [hr, ne_eq, value_inj]
  exact hne

@[simp] theorem reasonOf_idTokenAuthError (reason : Reason) (message : PyStr) :
    reasonOf (idTokenAuthError reason message) = some reason.value := rfl

theorem within_refuse {α : Type} {rs : PyStr → Prop} {reason : Reason} (message : PyStr) (h : rs reason.value) :
    Within reasonOf rs (refuse reason message : Except Exc α) := by
  refine within_error fun r hr => ?_
  rw [reasonOf_idTokenAuthError] at hr
  rw [← Option.some.inj hr]
  exact h

theorem judges_refuse {α : Type} (reason : Reason) (message : PyStr) (failing : Option PyStr) :
    Judges reasonOf (refuse reason message : Except Exc α) failing ↔ failing = some reason.value := by
  refine (judges_error _ _).trans ?_
  rw [reasonOf_idTokenAuthError]
  constructor
  · exact fun h => h.2.symm
  · rintro rfl
    exact ⟨by simp, rfl⟩

section Checks
variable (c : Call) (claims : Claims)

end Checks

section Token
variable {σ Key : Type} (L : Library Key) (C : KeyClient σ Key) (c : Call)

end Token

/-! ### A string that is no token -/

namespace NoToken

def library : Library Unit where
  getUnverifiedHeader := fun _ => .jwtError ⟨lit "DecodeError", lit "Not enough segments", none⟩
  decode := fun _ _ => .jwtError ⟨lit "DecodeError", lit "Not enough segments", none⟩
  payload := fun _ _ => none
  modelValidate := fun _ => none
  repr := fun s => s
  decode_signed := fun h => nomatch h

def client : KeyClient Unit Unit := ⟨fun s _ => (.jwtError noKey, s), id⟩

def call : Call := ⟨lit "not-a-jwt", lit "https://axiam.example.test", lit "rp-client-1", none, none, 1700000000.0⟩

end NoToken

end AxiamSdk.IdToken
