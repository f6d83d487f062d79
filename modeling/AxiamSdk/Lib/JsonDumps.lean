import AxiamSdk.Lib.Json

/-! # `json.dumps` with compact separators

`dumps I ensureAscii v` is `json.dumps(v, separators=(",", ":"), ensure_ascii=..)`. It raises on a
value nested too deep and on an integer over the digit limit, and on nothing else
(`dumps_isOk`). Without `ensure_ascii` the text holds a surrogate exactly when the value does
(`noSurrogate_dumps`). -/

namespace PyLib
set_option autoImplicit false

/-- What `json.dumps` raises: a `RecursionError`, or the `ValueError` of `int.__repr__`. -/
inductive DumpsError
  | recursion
  | digits
  deriving DecidableEq, Repr

namespace JsonDumps

/-! ## Scalars -/

def decDigits (n : ℕ) : PyStr := (Nat.toDigits 10 n).map ch

/-- `int.__repr__` -/
def intRepr (n : ℤ) : PyStr := if n < 0 then ch '-' :: decDigits n.natAbs else decDigits n.natAbs

def asciiPoint (b : Fin 0x80) : CodePoint := ⟨b.val, by omega⟩

def floatText (I : Interp) (x : Float) : PyStr :=
  if x.isNaN then lit "NaN"
  else if x.isInf then (if x < 0.0 then lit "-Infinity" else lit "Infinity")
  else (I.floatRepr x).map asciiPoint

def hexDigit (n : ℕ) : CodePoint :=
  if n < 10 then Fin.ofNat 0x110000 (48 + n % 10) else Fin.ofNat 0x110000 (87 + n % 16)

def uEscape (n : ℕ) : PyStr :=
  [ch '\\', ch 'u', hexDigit (n / 4096 % 16), hexDigit (n / 256 % 16), hexDigit (n / 16 % 16),
    hexDigit (n % 16)]

def escapeChar (ensureAscii : Bool) (c : CodePoint) : PyStr :=
  if c = ch '"' then lit "\\\""
  else if c = ch '\\' then lit "\\\\"
  else if c = ch '\n' then lit "\\n"
  else if c = ch '\r' then lit "\\r"
  else if c = ch '\t' then lit "\\t"
  else if c.val = 12 then lit "\\f"
  else if c.val = 8 then lit "\\b"
  else if c.val < 0x20 then uEscape c.val
  else if ensureAscii && decide (0x7F ≤ c.val) then
    if c.val < 0x10000 then uEscape c.val
    else
      let v := c.val - 0x10000
      uEscape (0xD800 + v / 0x400) ++ uEscape (0xDC00 + v % 0x400)
  else [c]

/-- A string literal. -/
def quote (ensureAscii : Bool) (s : PyStr) : PyStr :=
  ch '"' :: s.flatMap (escapeChar ensureAscii) ++ [ch '"']

/-! ## The encoder -/

mutual
/-- The text of a value inside `n` more containers at most. -/
def go (I : Interp) (ea : Bool) : ℕ → Json → Except DumpsError PyStr
  | _, .null => .ok (lit "null")
  | _, .bool b => .ok (if b then lit "true" else lit "false")
  | _, .int n =>
    if I.digitsOk (decDigits n.natAbs).length then .ok (intRepr n) else .error .digits
  | _, .float x => .ok (floatText I x)
  | _, .str s => .ok (quote ea s)
  | 0, .arr _ => .error .recursion
  | 0, .obj _ => .error .recursion
  | n + 1, .arr xs => (goList I ea n xs).map (fun s => ch '[' :: s ++ [ch ']'])
  | n + 1, .obj ms => (goMembers I ea n ms).map (fun s => ch '{' :: s ++ [ch '}'])

def goList (I : Interp) (ea : Bool) (n : ℕ) : List Json → Except DumpsError PyStr
  | [] => .ok []
  | x :: xs => do
    let s ← go I ea n x
    let t ← goList I ea n xs
    return s ++ (if xs.isEmpty then t else ch ',' :: t)

def goMembers (I : Interp) (ea : Bool) (n : ℕ) : List (PyStr × Json) → Except DumpsError PyStr
  | [] => .ok []
  | (k, x) :: ms => do
    let s ← go I ea n x
    let t ← goMembers I ea n ms
    return quote ea k ++ ch ':' :: s ++ (if ms.isEmpty then t else ch ',' :: t)
end

end JsonDumps

/-- `json.dumps(v, separators=(",", ":"), ensure_ascii=ensureAscii)`. -/
def dumps (I : Interp) (ensureAscii : Bool) (v : Json) : Except DumpsError PyStr :=
  JsonDumps.go I ensureAscii I.dumpsDepth v

/-! ## When it raises -/

namespace Json

mutual
/-- Every integer is within the digit limit. -/
def intsOk (I : Interp) : Json → Bool
  | .int n => I.digitsOk (JsonDumps.decDigits n.natAbs).length
  | .arr xs => intsOkList I xs
  | .obj ms => intsOkMembers I ms
  | _ => true

def intsOkList (I : Interp) : List Json → Bool
  | [] => true
  | x :: xs => intsOk I x && intsOkList I xs

def intsOkMembers (I : Interp) : List (PyStr × Json) → Bool
  | [] => true
  | (_, x) :: ms => intsOk I x && intsOkMembers I ms
end

end Json

/-- Whether an `Except` value is a result. -/
def isOk {ε α : Type*} : Except ε α → Bool
  | .ok _ => true
  | .error _ => false

namespace JsonDumps

theorem isOk_map {ε α β : Type*} (f : α → β) (x : Except ε α) : isOk (x.map f) = isOk x := by
  cases x <;> rfl

theorem isOk_bind_pair {ε α : Type*} (x y : Except ε α) (f : α → α → α) :
    isOk (do let s ← x; let t ← y; return f s t) = (isOk x && isOk y) := by
  cases x <;> cases y <;> rfl

theorem goList_isOk {I : Interp} {ea : Bool} {n : ℕ} {xs : List Json}
    (h : ∀ x ∈ xs, isOk (go I ea n x) = (decide (x.depth ≤ n) && x.intsOk I)) :
    isOk (goList I ea n xs) = (decide (Json.depthList xs ≤ n) && Json.intsOkList I xs) := by
  induction xs with
  | nil => simp [goList, isOk, Json.depthList, Json.intsOkList]
  | cons x xs ih =>
    rw [goList, isOk_bind_pair, h x List.mem_cons_self, ih fun y hy => h y (List.mem_cons_of_mem _ hy)]
    simp only [Json.depthList, Json.intsOkList, Nat.max_le, Bool.decide_and]
    ac_rfl

theorem goMembers_isOk {I : Interp} {ea : Bool} {n : ℕ} {ms : List (PyStr × Json)}
    (h : ∀ p ∈ ms, isOk (go I ea n p.2) = (decide (p.2.depth ≤ n) && p.2.intsOk I)) :
    isOk (goMembers I ea n ms) = (decide (Json.depthMembers ms ≤ n) && Json.intsOkMembers I ms) := by
  induction ms with
  | nil => simp [goMembers, isOk, Json.depthMembers, Json.intsOkMembers]
  | cons p ms ih =>
    obtain ⟨k, x⟩ := p
    rw [goMembers, isOk_bind_pair, h _ List.mem_cons_self, ih fun q hq => h q (List.mem_cons_of_mem _ hq)]
    simp only [Json.depthMembers, Json.intsOkMembers, Nat.max_le, Bool.decide_and]
    ac_rfl

theorem go_isOk (I : Interp) (ea : Bool) (n : ℕ) (v : Json) :
    isOk (go I ea n v) = (decide (v.depth ≤ n) && v.intsOk I) := by
  induction v using Json.nested generalizing n with
  | null | bool b | float x | str s => simp [go, isOk, Json.depth, Json.intsOk]
  | int i =>
    rw [go]
    cases h : I.digitsOk (decDigits i.natAbs).length <;> simp [isOk, Json.depth, Json.intsOk, h]
  | arr xs ih =>
    cases n with
    | zero => simp [go, isOk, Json.depth]
    | succ n =>
      rw [go, isOk_map, goList_isOk fun x hx => ih x hx n]
      simp only [Json.depth, Json.intsOk, Nat.add_le_add_iff_right]
  | obj ms ih =>
    cases n with
    | zero => simp [go, isOk, Json.depth]
    | succ n =>
      rw [go, isOk_map, goMembers_isOk fun p hp => ih p hp n]
      simp only [Json.depth, Json.intsOk, Nat.add_le_add_iff_right]

end JsonDumps

/-- `json.dumps` returns exactly on a value within the nesting and the digit limit. -/
theorem dumps_isOk (I : Interp) (ea : Bool) (v : Json) :
    isOk (dumps I ea v) = (decide (v.depth ≤ I.dumpsDepth) && v.intsOk I) :=
  JsonDumps.go_isOk I ea I.dumpsDepth v

/-- The values that `json.dumps(v, ensure_ascii=False).encode("utf-8")` encodes. -/
def encodable (I : Interp) (v : Json) : Bool :=
  decide (v.depth ≤ I.dumpsDepth) && v.intsOk I && v.clean

/-! ## Surrogates in the text -/

namespace JsonDumps

theorem ascii_lit_ok {s : PyStr} (h : s.all isAscii = true) {c : CodePoint} (hc : c.val < 0x80) :
    noSurrogate s = !isSurrogate c := by
  rw [noSurrogate_of_ascii h]
  have hs : isSurrogate c = false := by
    simp only [isSurrogate, decide_eq_false_iff_not]
    omega
  rw [hs]
  rfl

theorem isAscii_hexDigit (n : ℕ) : isAscii (hexDigit n) = true := by
  unfold hexDigit isAscii
  split
  · simp only [Fin.ofNat, decide_eq_true_eq]
    omega
  · simp only [Fin.ofNat, decide_eq_true_eq]
    omega

theorem all_isAscii_uEscape (n : ℕ) : (uEscape n).all isAscii = true := by
  have hb : isAscii (ch '\\') = true := by decide
  have hu : isAscii (ch 'u') = true := by decide
  simp only [uEscape, List.all_cons, List.all_nil, isAscii_hexDigit, hb, hu, Bool.and_true]

theorem noSurrogate_escapeChar (c : CodePoint) :
    noSurrogate (escapeChar false c) = !isSurrogate c := by
  unfold escapeChar
  split
  · next h => subst h; exact ascii_lit_ok (by decide) (by decide)
  split
  · next h => subst h; exact ascii_lit_ok (by decide) (by decide)
  split
  · next h => subst h; exact ascii_lit_ok (by decide) (by decide)
  split
  · next h => subst h; exact ascii_lit_ok (by decide) (by decide)
  split
  · next h => subst h; exact ascii_lit_ok (by decide) (by decide)
  split
  · next h => exact ascii_lit_ok (by decide) (by omega)
  split
  · next h => exact ascii_lit_ok (by decide) (by omega)
  split
  · next h => exact ascii_lit_ok (all_isAscii_uEscape _) (by omega)
  · simp [noSurrogate]

theorem noSurrogate_flatMap_escape (s : PyStr) :
    noSurrogate (s.flatMap (escapeChar false)) = noSurrogate s := by
  induction s with
  | nil => rfl
  | cons c s ih =>
    rw [List.flatMap_cons, noSurrogate_append, ih, noSurrogate_escapeChar]
    rfl

theorem noSurrogate_cons (c : CodePoint) (s : PyStr) :
    noSurrogate (c :: s) = (!isSurrogate c && noSurrogate s) := rfl

@[simp] theorem noSurrogate_quote (s : PyStr) : noSurrogate (quote false s) = noSurrogate s := by
  have hq : isSurrogate (ch '"') = false := by decide
  rw [quote, List.cons_append, noSurrogate_cons, noSurrogate_append, noSurrogate_flatMap_escape,
    noSurrogate_cons, hq]
  simp [noSurrogate]

theorem all_isAscii_decDigits (n : ℕ) : (decDigits n).all isAscii = true := by
  rw [decDigits, List.all_map, List.all_eq_true]
  intro c hc
  have hd := Nat.isDigit_of_mem_toDigits (by omega) (by omega) hc
  simp only [Char.isDigit, Bool.and_eq_true, decide_eq_true_eq, ge_iff_le, UInt32.le_iff_toNat_le] at hd
  have hlt : c.toNat ≤ 57 := hd.2
  have hb : c.toNat < 0x80 := by omega
  show decide (c.toNat < 0x80) = true
  exact decide_eq_true hb

theorem all_isAscii_intRepr (n : ℤ) : (intRepr n).all isAscii = true := by
  unfold intRepr
  split
  · rw [List.all_cons, all_isAscii_decDigits]
    decide
  · exact all_isAscii_decDigits _

theorem all_isAscii_floatText (I : Interp) (x : Float) : (floatText I x).all isAscii = true := by
  unfold floatText
  split
  · decide
  split
  · split <;> decide
  · rw [List.all_map, List.all_eq_true]
    intro b _
    simp [isAscii, asciiPoint]

theorem noSurrogate_cons_of_ascii {c : CodePoint} (hc : isAscii c = true) (s : PyStr) :
    noSurrogate (c :: s) = noSurrogate s := by
  have h : noSurrogate [c] = true := noSurrogate_of_ascii (by simpa using hc)
  have h' : noSurrogate (c :: s) = (noSurrogate [c] && noSurrogate s) := noSurrogate_append [c] s
  rw [h', h, Bool.true_and]

theorem noSurrogate_bracket {a b : CodePoint} (ha : isAscii a = true) (hb : isAscii b = true)
    (s : PyStr) : noSurrogate (a :: s ++ [b]) = noSurrogate s := by
  rw [List.cons_append, noSurrogate_cons_of_ascii ha, noSurrogate_append,
    noSurrogate_cons_of_ascii hb]
  simp [noSurrogate]

mutual
theorem noSurrogate_go (I : Interp) : ∀ (n : ℕ) (v : Json) (t : PyStr),
    go I false n v = .ok t → noSurrogate t = v.clean
  | _, .null, t, h => by cases h; decide
  | _, .bool b, t, h => by cases b <;> cases h <;> decide
  | _, .int n, t, h => by
      rw [go] at h
      split at h
      · cases h; exact noSurrogate_of_ascii (all_isAscii_intRepr n)
      · cases h
  | _, .float x, t, h => by cases h; exact noSurrogate_of_ascii (all_isAscii_floatText I x)
  | _, .str s, t, h => by cases h; rw [noSurrogate_quote, Json.clean]
  | 0, .arr _, t, h => by cases h
  | 0, .obj _, t, h => by cases h
  | n + 1, .arr xs, t, h => by
      rw [go] at h
      cases hg : goList I false n xs with
      | error e => rw [hg] at h; cases h
      | ok u =>
        rw [hg] at h
        cases h
        rw [noSurrogate_bracket (by decide) (by decide), noSurrogate_goList I n xs u hg, Json.clean]
  | n + 1, .obj ms, t, h => by
      rw [go] at h
      cases hg : goMembers I false n ms with
      | error e => rw [hg] at h; cases h
      | ok u =>
        rw [hg] at h
        cases h
        rw [noSurrogate_bracket (by decide) (by decide), noSurrogate_goMembers I n ms u hg, Json.clean]

theorem noSurrogate_goList (I : Interp) (n : ℕ) : ∀ (xs : List Json) (t : PyStr),
    goList I false n xs = .ok t → noSurrogate t = Json.cleanList xs
  | [], t, h => by cases h; rfl
  | x :: xs, t, h => by
      rw [goList] at h
      cases hx : go I false n x with
      | error e => rw [hx] at h; cases h
      | ok s =>
        cases hxs : goList I false n xs with
        | error e => rw [hx, hxs] at h; cases h
        | ok u =>
          rw [hx, hxs] at h
          cases h
          have hs := noSurrogate_go I n x s hx
          have hu := noSurrogate_goList I n xs u hxs
          rw [noSurrogate_append, Json.cleanList, hs]
          split
          · rw [hu]
          · rw [noSurrogate_cons_of_ascii (by decide), hu]

theorem noSurrogate_goMembers (I : Interp) (n : ℕ) : ∀ (ms : List (PyStr × Json)) (t : PyStr),
    goMembers I false n ms = .ok t → noSurrogate t = Json.cleanMembers ms
  | [], t, h => by cases h; rfl
  | (k, x) :: ms, t, h => by
      rw [goMembers] at h
      cases hx : go I false n x with
      | error e => rw [hx] at h; cases h
      | ok s =>
        cases hms : goMembers I false n ms with
        | error e => rw [hx, hms] at h; cases h
        | ok u =>
          rw [hx, hms] at h
          cases h
          have hs := noSurrogate_go I n x s hx
          have hu := noSurrogate_goMembers I n ms u hms
          rw [noSurrogate_append, noSurrogate_append, noSurrogate_quote,
            noSurrogate_cons_of_ascii (by decide), hs, Json.cleanMembers]
          split
          · rw [hu]
          · rw [noSurrogate_cons_of_ascii (by decide), hu]
end

end JsonDumps

/-- Without `ensure_ascii` the text holds a surrogate exactly when the value does. -/
theorem noSurrogate_dumps {I : Interp} {v : Json} {t : PyStr} (h : dumps I false v = .ok t) :
    noSurrogate t = v.clean :=
  JsonDumps.noSurrogate_go I I.dumpsDepth v t h

end PyLib
