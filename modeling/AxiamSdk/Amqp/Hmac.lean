import AxiamSdk.Errors

/-! # Message authentication (`amqp/_hmac.py`)

`verifyHmac` re-serializes the parsed body without its `hmac_signature`, keys in received order,
and compares the MAC of that text with the signature. -/

namespace AxiamSdk.Amqp
open PyLib
set_option autoImplicit false

/-- The `try` around `json.loads`: the classes it catches become `none`, any other escapes. -/
def loadsOrNone (P : Platform) (body : Bytes) : Except Exc (Option Json) :=
  match P.loads body with
  | .ok v => .ok (some v)
  | .error .jsonDecodeError => .ok none
  | .error .unicodeDecodeError => .ok none
  | .error e => .error e

/-- `verify_hmac`. -/
def verifyHmac (P : Platform) (signingKey : Bytes) (body : Bytes) : Except Exc Bool :=
  match loadsOrNone P body with
  | .error e => .error e
  | .ok (some (.obj msg)) =>
    match Json.get msg (lit "hmac_signature") with
    | .str sigHex =>
      match P.dumps true (.obj (Assoc.erase msg (lit "hmac_signature"))) with
      | .error e => .error e
      | .ok text =>
        match encodeUtf8 text with
        | none => .error .unicodeEncodeError
        | some canonical =>
          match fromHex sigHex with
          | none => .ok false
          | some expected => .ok (decide (P.hmacSha256 signingKey canonical = expected))
    | _ => .ok false
  | .ok _ => .ok false

theorem obj_of_verifyHmac {P : Platform} {key body : Bytes} (h : verifyHmac P key body = .ok true) :
    ∃ msg, P.loads body = .ok (.obj msg) := by
  unfold verifyHmac at h
  cases hl : P.loads body with
  | error e =>
    simp only [loadsOrNone, hl] at h
    cases e <;> cases h
  | ok v =>
    simp only [loadsOrNone, hl] at h
    cases v with
    | obj msg => exact ⟨msg, rfl⟩
    | _ => cases h

end AxiamSdk.Amqp
