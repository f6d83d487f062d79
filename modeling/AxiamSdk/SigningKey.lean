import AxiamSdk.Errors
import AxiamSdk.Jwks

/-! # The signing key of a token (`_jwks.py`)

The lookup of `Jwks`, with every way in which the JWT library can fail.

* `Outcome`: what a call of that library comes to.
* `getSigningKey`: the lookup; `getSigningKey_documented`: with a client that raises nothing but a
  `PyJWTError` it is that of `Jwks`. -/

namespace AxiamSdk.SigningKey
open PyLib
set_option autoImplicit false

/-- A `PyJWTError`: its class, its text, and the claim that a `MissingRequiredClaimError` names. -/
structure PyJwtError where
  name : PyStr
  text : PyStr
  missingClaim : Option PyStr

def PyJwtError.exc (e : PyJwtError) : Exc := .other e.name e.text

/-- An exception of no class of the SDK. -/
abbrev Foreign := {e : Exc // e.mapped = false}

/-- What a call of the JWT library comes to: a value, a `PyJWTError`, or another exception. -/
inductive Outcome (α : Type)
  | ok (value : α)
  | jwtError (e : PyJwtError)
  | escaped (e : Foreign)

def Outcome.value? {α : Type} : Outcome α → Option α
  | .ok value => some value
  | _ => none

/-- `PyJWKClient`: its cache, and what its endpoint will answer, are a state of its own. -/
structure KeyClient (σ Key : Type) where
  getSigningKeyFromJwt : σ → PyStr → Outcome Key × σ
  /-- `jwk_set_cache = None` -/
  dropCache : σ → σ

/-- The fields of a `JwksVerifier` that a lookup uses. -/
structure Verifier (σ : Type) where
  client : σ
  lastForcedRefetch : Option ℚ

variable {σ Key : Type}

/-- `_get_signing_key`, under its lock. -/
def getSigningKey (C : KeyClient σ Key) (v : Verifier σ) (now : ℚ) (token : PyStr) : Outcome Key × Verifier σ :=
  match C.getSigningKeyFromJwt v.client token with
  | (.ok key, client) => (.ok key, { v with client := client })
  | (.escaped e, client) => (.escaped e, { v with client := client })
  | (.jwtError _, client) =>
    if Jwks.rateLimited v.lastForcedRefetch now then
      let second := C.getSigningKeyFromJwt client token
      (second.1, { v with client := second.2 })
    else
      let second := C.getSigningKeyFromJwt (C.dropCache client) token
      (second.1, ⟨second.2, some now⟩)

/-! ## The client of `Jwks` -/

def noKey : PyJwtError := ⟨lit "PyJWKClientError", lit "Unable to find a signing key", none⟩

/-- A client of `Jwks` as one of these: its cache, and the turns that its calls will meet. -/
def documented (C : Jwks.PyJwkClient Key) (kid : PyStr → PyStr) :
    KeyClient (Jwks.CacheField Key × List (Jwks.Turn Key)) Key where
  getSigningKeyFromJwt s token :=
    match s.2 with
    | [] => (.jwtError noKey, s)
    | turn :: rest =>
      let lookup := C.getSigningKeyFromJwt s.1 (kid token) turn
      (lookup.key.elim (.jwtError noKey) .ok, (lookup.cache, rest))
  dropCache s := (none, s.2)

/-- The two lookups find the same key, leave the same cache and force the same refetches. -/
theorem getSigningKey_documented (C : Jwks.PyJwkClient Key) (kid : PyStr → PyStr) (v : Jwks.Verifier Key)
    (e : Jwks.Presented Key) {token : PyStr} (hkid : kid token = e.kid) :
    let looked := getSigningKey (documented C kid) ⟨(v.jwkSetCache, [e.first, e.second]), v.lastForcedRefetch⟩
      e.now token
    looked.1.value? = (Jwks.getSigningKey C v e).1 ∧
      looked.2.client.1 = (Jwks.getSigningKey C v e).2.jwkSetCache ∧
      looked.2.lastForcedRefetch = (Jwks.getSigningKey C v e).2.lastForcedRefetch := by
  have hvalue : ∀ key : Option Key, (key.elim (.jwtError noKey) .ok : Outcome Key).value? = key := by
    intro key
    cases key <;> rfl
  dsimp only
  unfold getSigningKey Jwks.getSigningKey
  simp only [documented, hkid]
  cases hkey : (C.getSigningKeyFromJwt v.jwkSetCache e.kid e.first).key with
  | some key => exact ⟨rfl, rfl, rfl⟩
  | none =>
    simp only [Option.elim_none, Jwks.Verifier.after]
    rcases Bool.eq_false_or_eq_true (Jwks.rateLimited v.lastForcedRefetch e.now) with hlimited | hlimited
    · simp only [hlimited, if_true]
      exact ⟨hvalue _, trivial, trivial⟩
    · simp only [hlimited, Bool.false_eq_true, if_false]
      exact ⟨hvalue _, trivial, trivial⟩

end AxiamSdk.SigningKey
