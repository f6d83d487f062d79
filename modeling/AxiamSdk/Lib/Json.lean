import Mathlib.Data.Int.Notation
import Mathlib.Data.Nat.Notation
import AxiamSdk.Lib.Dict
import AxiamSdk.Lib.Text

/-! # JSON values

What `json.loads` builds and `json.dumps` takes: Python's `None`, `bool`, `int`, `float`, `str`,
`list` and `dict`, the numbers unbounded integers and binary64 floats, an object its members in
insertion order. -/

namespace PyLib
set_option autoImplicit false

/-- A JSON value as Python holds it. -/
inductive Json
  | null
  | bool (b : Bool)
  | int (n : ℤ)
  | float (x : Float)
  | str (s : PyStr)
  | arr (xs : List Json)
  | obj (ms : List (PyStr × Json))

namespace Json

/-- Induction over a value and everything inside it. -/
theorem nested {P : Json → Prop} (null : P .null) (bool : ∀ b, P (.bool b)) (int : ∀ n, P (.int n))
    (float : ∀ x, P (.float x)) (str : ∀ s, P (.str s))
    (arr : ∀ xs, (∀ x ∈ xs, P x) → P (.arr xs))
    (obj : ∀ ms : List (PyStr × Json), (∀ p ∈ ms, P p.2) → P (.obj ms)) (v : Json) : P v :=
  @Json.rec P (fun xs => ∀ x ∈ xs, P x) (fun ms => ∀ p ∈ ms, P p.2) (fun p => P p.2)
    null bool int float str arr obj
    (fun _ hx => absurd hx List.not_mem_nil) (fun _ _ hx hxs => List.forall_mem_cons.2 ⟨hx, hxs⟩)
    (fun _ hp => absurd hp List.not_mem_nil) (fun _ _ hp hms => List.forall_mem_cons.2 ⟨hp, hms⟩)
    (fun _ _ hx => hx) v

/-- Python's `bool(v)`. -/
def truthy : Json → Bool
  | .null => false
  | .bool b => b
  | .int n => n ≠ 0
  -- a comparison with NaN is false, so NaN is truthy
  | .float x => !(x == 0.0)
  | .str s => !s.isEmpty
  | .arr xs => !xs.isEmpty
  | .obj ms => !ms.isEmpty

/-- `d.get(k)` of a parsed object: a missing member and a `null` member both give `None`. -/
def get (ms : List (PyStr × Json)) (k : PyStr) : Json := (Assoc.get? ms k).getD .null

/-- `isinstance(v, str)`. -/
def asStr? : Json → Option PyStr
  | .str s => some s
  | _ => none

/-- `isinstance(v, int) and not isinstance(v, bool)`. -/
def asInt? : Json → Option ℤ
  | .int n => some n
  | _ => none

/-- `isinstance(v, dict)`. -/
def asObj? : Json → Option (List (PyStr × Json))
  | .obj ms => some ms
  | _ => none

/-! ## Nesting and surrogates -/

mutual
/-- How many containers enclose the deepest value. -/
def depth : Json → ℕ
  | .arr xs => depthList xs + 1
  | .obj ms => depthMembers ms + 1
  | _ => 0

def depthList : List Json → ℕ
  | [] => 0
  | x :: xs => max (depth x) (depthList xs)

def depthMembers : List (PyStr × Json) → ℕ
  | [] => 0
  | (_, x) :: ms => max (depth x) (depthMembers ms)
end

mutual
/-- No string and no member name holds a surrogate. -/
def clean : Json → Bool
  | .str s => noSurrogate s
  | .arr xs => cleanList xs
  | .obj ms => cleanMembers ms
  | _ => true

def cleanList : List Json → Bool
  | [] => true
  | x :: xs => clean x && cleanList xs

def cleanMembers : List (PyStr × Json) → Bool
  | [] => true
  | (k, x) :: ms => noSurrogate k && clean x && cleanMembers ms
end

theorem cleanMembers_iff (ms : List (PyStr × Json)) :
    cleanMembers ms = true ↔ ∀ p ∈ ms, noSurrogate p.1 = true ∧ p.2.clean = true := by
  induction ms with
  | nil => simp [cleanMembers]
  | cons p ms ih =>
    obtain ⟨k, x⟩ := p
    simp [cleanMembers, ih]

theorem depthMembers_le_iff (ms : List (PyStr × Json)) (n : ℕ) :
    depthMembers ms ≤ n ↔ ∀ p ∈ ms, p.2.depth ≤ n := by
  induction ms with
  | nil => simp [depthMembers]
  | cons p ms ih =>
    obtain ⟨k, x⟩ := p
    simp [depthMembers, Nat.max_le, ih]

theorem clean_of_get {ms : List (PyStr × Json)} (h : cleanMembers ms = true) (k : PyStr) :
    (get ms k).clean = true := by
  unfold get
  cases hg : Assoc.get? ms k with
  | none => rfl
  | some v => exact ((cleanMembers_iff ms).1 h _ (Assoc.mem_of_get? hg)).2

theorem depth_get_le (ms : List (PyStr × Json)) (k : PyStr) : (get ms k).depth ≤ depthMembers ms := by
  unfold get
  cases hg : Assoc.get? ms k with
  | none => exact Nat.zero_le _
  | some v => exact (depthMembers_le_iff ms _).1 (Nat.le_refl _) _ (Assoc.mem_of_get? hg)

theorem get_set_ne (ms : List (PyStr × Json)) {k k' : PyStr} (v : Json) (h : k ≠ k') :
    get (Assoc.set ms k v) k' = get ms k' := by
  rw [get, get, Assoc.get?_set_ne ms v h]

end Json

/-! ## The running interpreter -/

instance asciiPoints_pos : @NeZero ℕ Zero.ofOfNat0 0x80 := ⟨Nat.succ_ne_zero _⟩

/-- What depends on the running interpreter: `sys.get_int_max_str_digits()` (0 for no limit), how
many nested containers `json.loads` and `json.dumps` open before a `RecursionError`, and
`float.__repr__` on finite floats, whose text is ASCII. -/
structure Interp where
  intDigits : ℕ
  loadsDepth : ℕ
  dumpsDepth : ℕ
  floatRepr : Float → List (Fin 0x80)

/-- An integer of `n` decimal digits may be converted from or to text. -/
def Interp.digitsOk (I : Interp) (n : ℕ) : Bool := decide (I.intDigits = 0 ∨ n ≤ I.intDigits)

end PyLib
