import AxiamSdk.Lib.Json

/-! # `json.loads`

The decoder of Python's standard library as a machine that reads one code point at a time. Its
state is where it stands in the grammar and the containers still open; `loadsStr` folds the step
over a text, `loads` first finds the encoding of a byte string.

What it accepts beyond the JSON grammar is Python's: the literals `NaN`, `Infinity` and
`-Infinity`, and a `\u` escape of a lone surrogate. A repeated member keeps its first position and
its last value. An integer literal over the digit limit raises a plain `ValueError`, before any
later syntax error is seen. -/

namespace PyLib
set_option autoImplicit false

/-- What `json.loads` raises. -/
inductive LoadsError
  /-- `json.JSONDecodeError` -/
  | decode
  /-- `UnicodeDecodeError`: the bytes are not text in the detected encoding -/
  | unicode
  /-- the plain `ValueError` of an integer literal over the digit limit -/
  | digits
  /-- `RecursionError` -/
  | recursion
  deriving DecidableEq, Repr

namespace JsonLoads

/-! ## The machine -/

/-- A container still open. -/
inductive Frame
  /-- A list, its elements reversed. -/
  | arr (rev : List Json)
  /-- An object and the name of the member being read. -/
  | obj (ms : List (PyStr × Json)) (key : PyStr)

/-- Where a number literal stands. -/
inductive NumPhase
  | minus | zero | int | dot | frac | exp | expSign | expDigits
  deriving DecidableEq

/-- A number literal so far: the digits of its integer and fraction parts as one integer, how many
of each, and the exponent. -/
structure Num where
  phase : NumPhase
  neg : Bool
  mant : ℕ
  intLen : ℕ
  fracLen : ℕ
  expNeg : Bool
  exp : ℕ

/-- Where the machine stands. -/
inductive Mode
  /-- Before a value. -/
  | value
  /-- After `[`. -/
  | arrFirst
  /-- After `{` with no member yet. -/
  | objFirst
  /-- After the comma between two members. -/
  | objKey (ms : List (PyStr × Json))
  /-- After a member's name. -/
  | colon (ms : List (PyStr × Json)) (key : PyStr)
  /-- After a complete value; `none` when the container itself holds it. -/
  | after (done : Option Json)
  /-- Inside a string: what it is read for, its code points reversed, and a high surrogate that
  an escape has just given. -/
  | str (key : Option (List (PyStr × Json))) (rev : PyStr) (high : Option CodePoint)
  /-- After a backslash. -/
  | esc (key : Option (List (PyStr × Json))) (rev : PyStr) (high : Option CodePoint)
  /-- Inside a `\u` escape: the digits still owed and the value so far. -/
  | hex (key : Option (List (PyStr × Json))) (rev : PyStr) (high : Option CodePoint)
      (owed : ℕ) (n : ℕ)
  /-- Inside a literal: the code points still owed and the value it stands for. -/
  | literal (owed : PyStr) (v : Json)
  | num (n : Num)

structure State where
  mode : Mode
  stack : List Frame

/-- White space between tokens. -/
def isWs (c : CodePoint) : Bool := c = ch ' ' || c = ch '\t' || c = ch '\n' || c = ch '\r'

/-- A complete value goes into the innermost open container. -/
def complete (v : Json) : List Frame → State
  | [] => ⟨.after (some v), []⟩
  | .arr rev :: st => ⟨.after none, .arr (v :: rev) :: st⟩
  | .obj ms key :: st => ⟨.after none, .obj (Assoc.set ms key v) key :: st⟩

/-- `float(text)` of a literal. -/
def Num.toFloat (n : Num) : Float :=
  let e : ℤ := (if n.expNeg then -(n.exp : ℤ) else n.exp) - n.fracLen
  let x := Float.ofScientific n.mant (decide (e < 0)) e.natAbs
  if n.neg then -x else x

/-- The value of the longest prefix that is a number; an integer may be over the limit. -/
def Num.convert (I : Interp) (n : Num) (isFloat : Bool) : Except LoadsError Json :=
  if isFloat then .ok (.float n.toFloat)
  else if I.digitsOk n.intLen then .ok (.int (if n.neg then -(n.mant : ℤ) else n.mant))
  else .error .digits

/-- What a number literal is when no further code point belongs to it. A sign alone is no number;
after a dot or an exponent mark without digits the number ended before it, so what follows it is a
syntax error, found after the conversion. -/
def Num.finish (I : Interp) (n : Num) : Except LoadsError Json :=
  match n.phase with
  | .minus => .error .decode
  | .zero | .int => n.convert I false
  | .frac | .expDigits => n.convert I true
  | .dot => n.convert I false >>= fun _ => .error .decode
  | .exp | .expSign => n.convert I (decide (n.fracLen ≠ 0)) >>= fun _ => .error .decode

/-- After a complete value: white space, a comma, or the end of the container. -/
def stepAfter (done : Option Json) (stack : List Frame) (c : CodePoint) :
    Except LoadsError State :=
  if isWs c then .ok ⟨.after done, stack⟩
  else match stack with
    | [] => .error .decode
    | .arr rev :: st =>
      if c = ch ',' then .ok ⟨.value, .arr rev :: st⟩
      else if c = ch ']' then .ok (complete (.arr rev.reverse) st)
      else .error .decode
    | .obj ms _ :: st =>
      if c = ch ',' then .ok ⟨.objKey ms, st⟩
      else if c = ch '}' then .ok (complete (.obj ms) st)
      else .error .decode

/-- At the first code point of a value. -/
def stepValue (I : Interp) (stack : List Frame) (c : CodePoint) : Except LoadsError State :=
  if isWs c then .ok ⟨.value, stack⟩
  else if c = ch '"' then .ok ⟨.str none [] none, stack⟩
  else if c = ch '{' then
    if I.loadsDepth ≤ stack.length then .error .recursion else .ok ⟨.objFirst, stack⟩
  else if c = ch '[' then
    if I.loadsDepth ≤ stack.length then .error .recursion else .ok ⟨.arrFirst, .arr [] :: stack⟩
  else if c = ch 'n' then .ok ⟨.literal (lit "ull") .null, stack⟩
  else if c = ch 't' then .ok ⟨.literal (lit "rue") (.bool true), stack⟩
  else if c = ch 'f' then .ok ⟨.literal (lit "alse") (.bool false), stack⟩
  else if c = ch 'N' then .ok ⟨.literal (lit "aN") (.float (0.0 / 0.0)), stack⟩
  else if c = ch 'I' then .ok ⟨.literal (lit "nfinity") (.float (1.0 / 0.0)), stack⟩
  else if c = ch '-' then .ok ⟨.num ⟨.minus, true, 0, 0, 0, false, 0⟩, stack⟩
  else match digit? c with
    | some 0 => .ok ⟨.num ⟨.zero, false, 0, 1, 0, false, 0⟩, stack⟩
    | some d => .ok ⟨.num ⟨.int, false, d, 1, 0, false, 0⟩, stack⟩
    | none => .error .decode

/-- Inside a number literal; a code point that does not belong to it ends it. -/
def stepNum (I : Interp) (n : Num) (stack : List Frame) (c : CodePoint) :
    Except LoadsError State :=
  let more (n : Num) : Except LoadsError State := .ok ⟨.num n, stack⟩
  let stop : Except LoadsError State := n.finish I >>= fun v =>
    let st := complete v stack
    match st.mode with
    | .after done => stepAfter done st.stack c
    | _ => .ok st
  let isE : Bool := c = ch 'e' || c = ch 'E'
  match n.phase, digit? c with
  | .minus, some 0 => more { n with phase := .zero, intLen := 1 }
  | .minus, some d => more { n with phase := .int, mant := d, intLen := 1 }
  | .minus, none =>
    if c = ch 'I' then .ok ⟨.literal (lit "nfinity") (.float (-(1.0 / 0.0))), stack⟩ else stop
  | .int, some d => more { n with mant := n.mant * 10 + d, intLen := n.intLen + 1 }
  | .zero, none | .int, none =>
    if c = ch '.' then more { n with phase := .dot }
    else if isE then more { n with phase := .exp }
    else stop
  | .dot, some d | .frac, some d =>
    more { n with phase := .frac, mant := n.mant * 10 + d, fracLen := n.fracLen + 1 }
  | .frac, none => if isE then more { n with phase := .exp } else stop
  | .exp, some d | .expSign, some d | .expDigits, some d =>
    more { n with phase := .expDigits, exp := n.exp * 10 + d }
  | .exp, none =>
    if c = ch '+' then more { n with phase := .expSign }
    else if c = ch '-' then more { n with phase := .expSign, expNeg := true }
    else stop
  | .zero, some _ | .dot, none | .expSign, none | .expDigits, none => stop

/-- A complete string is a member's name or a value. -/
def finishStr (key : Option (List (PyStr × Json))) (s : PyStr) (stack : List Frame) : State :=
  match key with
  | some ms => ⟨.colon ms s, stack⟩
  | none => complete (.str s) stack

/-- The code points read so far once the pending high surrogate stands alone. -/
def flush (rev : PyStr) : Option CodePoint → PyStr
  | none => rev
  | some h => h :: rev

/-- The escapes of one character. -/
def simpleEscape? (c : CodePoint) : Option CodePoint :=
  if c = ch '"' then some (ch '"')
  else if c = ch '\\' then some (ch '\\')
  else if c = ch '/' then some (ch '/')
  else if c = ch 'b' then some 8
  else if c = ch 'f' then some 12
  else if c = ch 'n' then some 10
  else if c = ch 'r' then some 13
  else if c = ch 't' then some 9
  else none

/-- A complete `\u` escape: a low surrogate joins the high one right before it. -/
def finishHex (key : Option (List (PyStr × Json))) (rev : PyStr) (high : Option CodePoint)
    (c : CodePoint) : Mode :=
  match high with
  | some h =>
    if isLowSurrogate c then .str key (joinSurrogates h c :: rev) none
    else if isHighSurrogate c then .str key (h :: rev) (some c)
    else .str key (c :: h :: rev) none
  | none => if isHighSurrogate c then .str key rev (some c) else .str key (c :: rev) none

/-- One code point. -/
def step (I : Interp) (s : State) (c : CodePoint) : Except LoadsError State :=
  match s.mode with
  | .value => stepValue I s.stack c
  | .arrFirst =>
    if isWs c then .ok s
    else if c = ch ']' then
      match s.stack with
      | .arr rev :: st => .ok (complete (.arr rev.reverse) st)
      | _ => .error .decode
    else stepValue I s.stack c
  | .objFirst =>
    if isWs c then .ok s
    else if c = ch '"' then .ok ⟨.str (some []) [] none, s.stack⟩
    else if c = ch '}' then .ok (complete (.obj []) s.stack)
    else .error .decode
  | .objKey ms =>
    if isWs c then .ok s
    else if c = ch '"' then .ok ⟨.str (some ms) [] none, s.stack⟩
    else .error .decode
  | .colon ms key =>
    if isWs c then .ok s
    else if c = ch ':' then .ok ⟨.value, .obj ms key :: s.stack⟩
    else .error .decode
  | .after done => stepAfter done s.stack c
  | .str key rev high =>
    if c = ch '"' then .ok (finishStr key (flush rev high).reverse s.stack)
    else if c = ch '\\' then .ok ⟨.esc key rev high, s.stack⟩
    else if c.val < 0x20 then .error .decode
    else .ok ⟨.str key (c :: flush rev high) none, s.stack⟩
  | .esc key rev high =>
    if c = ch 'u' then .ok ⟨.hex key rev high 4 0, s.stack⟩
    else match simpleEscape? c with
      | some d => .ok ⟨.str key (d :: flush rev high) none, s.stack⟩
      | none => .error .decode
  | .hex key rev high owed n =>
    match hexDigit? c with
    | none => .error .decode
    | some d =>
      if owed ≤ 1 then .ok ⟨finishHex key rev high (Fin.ofNat 0x110000 (n * 16 + d)), s.stack⟩
      else .ok ⟨.hex key rev high (owed - 1) (n * 16 + d), s.stack⟩
  | .literal owed v =>
    match owed with
    | [] => .error .decode
    | [d] => if c = d then .ok (complete v s.stack) else .error .decode
    | d :: owed => if c = d then .ok ⟨.literal owed v, s.stack⟩ else .error .decode
  | .num n => stepNum I n s.stack c

/-- What a text that ends here is. -/
def finish (I : Interp) (s : State) : Except LoadsError Json :=
  match s.mode, s.stack with
  | .after (some v), [] => .ok v
  | .num n, [] => n.finish I
  | .num n, _ :: _ => n.finish I >>= fun _ => .error .decode
  | _, _ => .error .decode

/-- Read a text from a state. -/
def run (I : Interp) (s : State) : PyStr → Except LoadsError Json
  | [] => finish I s
  | c :: cs => step I s c >>= fun s' => run I s' cs

end JsonLoads

/-! ## Texts and byte strings -/

/-- The decoder on a text: one value, white space around it. -/
def decodeJson (I : Interp) (s : PyStr) : Except LoadsError Json :=
  JsonLoads.run I ⟨.value, []⟩ s

/-- `json.loads` of a `str`: a byte order mark is refused. -/
def loadsStr (I : Interp) (s : PyStr) : Except LoadsError Json :=
  if s.head? = some 0xFEFF then .error .decode else decodeJson I s

/-- `json.detect_encoding` and the decoding it selects. -/
def decodeDetected (b : Bytes) : Decoded :=
  match b with
  | 0x00 :: 0x00 :: 0xFE :: 0xFF :: rest => decodeUtf32 true rest
  | 0xFF :: 0xFE :: 0x00 :: 0x00 :: rest => decodeUtf32 false rest
  | 0xFE :: 0xFF :: rest => decodeUtf16 true rest
  | 0xFF :: 0xFE :: rest => decodeUtf16 false rest
  | 0xEF :: 0xBB :: 0xBF :: rest => decodeUtf8 rest
  | b₀ :: b₁ :: b₂ :: b₃ :: _ =>
    if b₀ = 0 then if b₁ ≠ 0 then decodeUtf16 true b else decodeUtf32 true b
    else if b₁ = 0 then
      if b₂ ≠ 0 ∨ b₃ ≠ 0 then decodeUtf16 false b else decodeUtf32 false b
    else decodeUtf8 b
  | [b₀, b₁] =>
    if b₀ = 0 then decodeUtf16 true b else if b₁ = 0 then decodeUtf16 false b else decodeUtf8 b
  | _ => decodeUtf8 b

/-- `json.loads` of a `bytes`. -/
def loads (I : Interp) (b : Bytes) : Except LoadsError Json :=
  match decodeDetected b with
  | none => .error .unicode
  | some s => decodeJson I s

end PyLib
