import Mathlib.Data.Nat.Notation
import AxiamSdk.Lib.Text

/-! # Base64

`binascii.a2b_base64` in its lenient mode, which skips what is not in the alphabet, the URL-safe
decoding over it, and the unpadded URL-safe encoding. -/

namespace PyLib
set_option autoImplicit false

namespace Base64

/-- The value of an octet of the standard alphabet. -/
def value? (o : UInt8) : Option ℕ :=
  let n := o.toNat
  if 65 ≤ n ∧ n ≤ 90 then some (n - 65)
  else if 97 ≤ n ∧ n ≤ 122 then some (n - 71)
  else if 48 ≤ n ∧ n ≤ 57 then some (n + 4)
  else if n = 43 then some 62
  else if n = 47 then some 63
  else none

/-- The lenient decoder: `quad` sextets of the current group are read, `left` holds the bits not
yet written, `pads` counts the padding in a row, and the output is reversed. -/
def a2bGo : ℕ → ℕ → ℕ → Bytes → Bytes → Option Bytes
  | quad, _, _, out, [] => if quad = 0 then some out.reverse else none
  | quad, left, pads, out, c :: cs =>
    if c = 61 then
      -- enough padding ends the data, whatever follows
      if 2 ≤ quad ∧ 4 ≤ quad + (pads + 1) then some out.reverse
      else a2bGo quad left (if 2 ≤ quad then pads + 1 else pads) out cs
    else match value? c with
      | none => a2bGo quad left pads out cs
      | some v =>
        if quad = 0 then a2bGo 1 v 0 out cs
        else if quad = 1 then a2bGo 2 (v % 16) 0 (UInt8.ofNat (left * 4 + v / 16) :: out) cs
        else if quad = 2 then a2bGo 3 (v % 4) 0 (UInt8.ofNat (left * 16 + v / 4) :: out) cs
        else a2bGo 0 0 0 (UInt8.ofNat (left * 64 + v) :: out) cs

/-- `binascii.a2b_base64(b)`; `none` is `binascii.Error`, a `ValueError`. -/
def a2b (b : Bytes) : Option Bytes := a2bGo 0 0 0 [] b

/-- `-` and `_` become `+` and `/`. -/
def fromUrlSafe (o : UInt8) : UInt8 := if o = 45 then 43 else if o = 95 then 47 else o

/-- `base64.urlsafe_b64decode(b)` -/
def urlsafeDecodeBytes (b : Bytes) : Option Bytes := a2b (b.map fromUrlSafe)

/-- `base64.urlsafe_b64decode(s)` of a `str`; `none` is a `ValueError`. -/
def urlsafeDecode (s : PyStr) : Option Bytes := (encodeAscii s).bind urlsafeDecodeBytes

def urlSafeChar (n : ℕ) : CodePoint :=
  if n < 26 then Fin.ofNat 0x110000 (65 + n)
  else if n < 52 then Fin.ofNat 0x110000 (71 + n)
  else if n < 62 then Fin.ofNat 0x110000 (n - 4)
  else if n = 62 then ch '-' else ch '_'

/-- `base64.urlsafe_b64encode(b).rstrip(b"=")`, as text. -/
def urlsafeEncode : Bytes → PyStr
  | [] => []
  | [a] => [urlSafeChar (a.toNat / 4), urlSafeChar (a.toNat % 4 * 16)]
  | [a, b] => [urlSafeChar (a.toNat / 4), urlSafeChar (a.toNat % 4 * 16 + b.toNat / 16),
      urlSafeChar (b.toNat % 16 * 4)]
  | a :: b :: c :: rest =>
    urlSafeChar (a.toNat / 4) :: urlSafeChar (a.toNat % 4 * 16 + b.toNat / 16) ::
      urlSafeChar (b.toNat % 16 * 4 + c.toNat / 64) :: urlSafeChar (c.toNat % 64) ::
      urlsafeEncode rest

end Base64

/-- A segment with the padding it lacks. -/
def padBase64 {α : Type} (pad : α) (segment : List α) : List α :=
  segment ++ List.replicate ((4 - segment.length % 4) % 4) pad

end PyLib
