import Mathlib.Data.Nat.Notation
import AxiamSdk.Lib.Text

/-! # The text of a UUID

`uuid.UUID(s)` drops prefixes, braces and hyphens and gives the remaining 32 characters to
`int(_, 16)`, which reads decimal digits of every script, underscores between digits, a sign, a `0x`
and white space around. `isUuid` is whether it raises no `ValueError`. -/

namespace PyLib
set_option autoImplicit false

namespace Uuid

/-- The zero of each run of ten decimal digits outside ASCII. -/
def decimalZeros : List ℕ :=
  [0x660, 0x6F0, 0x7C0, 0x966, 0x9E6, 0xA66, 0xAE6, 0xB66, 0xBE6, 0xC66, 0xCE6, 0xD66, 0xDE6,
    0xE50, 0xED0, 0xF20, 0x1040, 0x1090, 0x17E0, 0x1810, 0x1946, 0x19D0, 0x1A80, 0x1A90, 0x1B50,
    0x1BB0, 0x1C40, 0x1C50, 0xA620, 0xA8D0, 0xA900, 0xA9D0, 0xA9F0, 0xAA50, 0xABF0, 0xFF10, 0x104A0,
    0x10D30, 0x11066, 0x110F0, 0x11136, 0x111D0, 0x112F0, 0x11450, 0x114D0, 0x11650, 0x116C0,
    0x11730, 0x118E0, 0x11950, 0x11C50, 0x11D50, 0x11DA0, 0x16A60, 0x16AC0, 0x16B50, 0x1D7CE,
    0x1D7D8, 0x1D7E2, 0x1D7EC, 0x1D7F6, 0x1E140, 0x1E2F0, 0x1E950, 0x1FBF0]

/-- The ASCII character that `int` reads for a code point. -/
def toAscii (c : CodePoint) : ℕ :=
  if c.val < 127 then c.val
  else if isSpace c then 32
  else match decimalZeros.find? (fun z => decide (z ≤ c.val ∧ c.val < z + 10)) with
    | some z => 48 + (c.val - z)
    | none => 63

def isBlank (o : ℕ) : Bool := decide (o = 32 ∨ (9 ≤ o ∧ o ≤ 13))

def isHexDigit (o : ℕ) : Bool :=
  decide ((48 ≤ o ∧ o ≤ 57) ∨ (65 ≤ o ∧ o ≤ 70) ∨ (97 ≤ o ∧ o ≤ 102))

def dropSign : List ℕ → List ℕ
  | 43 :: rest => rest
  | 45 :: rest => rest
  | s => s

/-- Without a leading `0x` and one underscore after it. -/
def dropBase : List ℕ → List ℕ
  | 48 :: x :: rest =>
    if x = 120 ∨ x = 88 then (if rest.head? = some 95 then rest.drop 1 else rest) else 48 :: x :: rest
  | s => s

/-- Digits with single underscores between them. -/
def isDigits : List ℕ → Bool
  | [] => false
  | [o] => isHexDigit o
  | o :: o' :: rest => (isHexDigit o || (o = 95 && isHexDigit o')) && isDigits (o' :: rest)

/-- `int(s, 16)` raises no `ValueError`. -/
def isIntBase16 (s : PyStr) : Bool :=
  let s := dropBase (dropSign ((s.map toAscii).dropWhile isBlank))
  let digits := s.takeWhile (fun o => isHexDigit o || o = 95)
  decide (digits.head? ≠ some 95) && isDigits digits && (s.drop digits.length).all isBlank

/-- The text without the occurrences of `pat`; `skip` characters of one are still to be dropped. -/
def removeGo (pat : PyStr) : ℕ → PyStr → PyStr
  | _, [] => []
  | skip + 1, _ :: cs => removeGo pat skip cs
  | 0, c :: cs =>
    if pat.isPrefixOf (c :: cs) then removeGo pat (pat.length - 1) cs else c :: removeGo pat 0 cs

/-- `s.replace(pat, "")` -/
def remove (pat s : PyStr) : PyStr := removeGo pat 0 s

def isBrace (c : CodePoint) : Bool := c.val = 0x7B || c.val = 0x7D

end Uuid

open Uuid in
/-- `uuid.UUID(s)` raises no `ValueError`. -/
def isUuid (s : PyStr) : Bool :=
  let bare := ((remove (lit "uuid:") (remove (lit "urn:") s)).dropWhile isBrace).reverse.dropWhile isBrace
  let hex := bare.reverse.filter (· ≠ ch '-')
  decide (hex.length = 32) && isIntBase16 hex

end PyLib
