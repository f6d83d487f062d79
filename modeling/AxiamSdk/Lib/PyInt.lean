import AxiamSdk.Lib.Json
import AxiamSdk.Lib.Uuid

/-! # `int(x)`

The integer that Python reads from a JSON value: the digits of a text, a float without its fraction, and
a Boolean as 0 or 1. -/

namespace PyLib
open Float.Model
set_option autoImplicit false

/-- What `int(x)` raises: `ValueError`, `TypeError` or `OverflowError`. -/
inductive IntError
  | value | type | overflow
  deriving DecidableEq

namespace PyInt

def isDigit (o : ℕ) : Bool := decide (48 ≤ o ∧ o ≤ 57)

/-- Digits with single underscores between them. -/
def isDigits : List ℕ → Bool
  | [] => false
  | [o] => isDigit o
  | o :: o' :: rest => (isDigit o || (o = 95 && isDigit o')) && isDigits (o' :: rest)

def value (digits : List ℕ) : ℕ :=
  (digits.filter isDigit).foldl (fun n o => 10 * n + (o - 48)) 0

/-- `int(s)` of a text, with the interpreter's limit on digits. -/
def ofText (I : Interp) (s : PyStr) : Except IntError ℤ :=
  let s := (s.map Uuid.toAscii).dropWhile Uuid.isBlank
  let unsigned := Uuid.dropSign s
  let digits := unsigned.takeWhile (fun o => isDigit o || o = 95)
  if digits.head? ≠ some 95 && isDigits digits && (unsigned.drop digits.length).all Uuid.isBlank &&
      I.digitsOk (digits.filter isDigit).length then
    .ok (if s.head? = some 45 then -(value digits : ℤ) else value digits)
  else .error .value

/-- `int(x)` of a float: the fraction is dropped. -/
def ofFloat (x : Float) : Except IntError ℤ :=
  match x.toModel.unpack with
  | .notANumber => .error .value
  | .infinity _ => .error .overflow
  | .zero _ => .ok 0
  | .finite s m e _ => .ok (UnpackedFloat.roundToInt s m e)

end PyInt

open PyInt in
/-- `int(v)` -/
def pyInt (I : Interp) : Json → Except IntError ℤ
  | .null => .error .type
  | .bool b => .ok (if b then 1 else 0)
  | .int n => .ok n
  | .float x => ofFloat x
  | .str s => ofText I s
  | .arr _ => .error .type
  | .obj _ => .error .type

end PyLib
