import Mathlib.Data.List.Basic

/-! # Python text and bytes

A Python `str` is a list of code points, lone surrogates included; `bytes` is a list of octets.

* `lit`: a source literal as a `str`.
* `encodeUtf8`: `str.encode("utf-8")`, which refuses a surrogate (`encodeUtf8_eq_none_iff`).
* `decodeUtf8`, `decodeUtf16`, `decodeUtf32`: `bytes.decode` with the `surrogatepass` handler.
* `strip`, `split`, `partition`, `lower`: the string methods with Python's meaning. -/

namespace PyLib
set_option autoImplicit false

/-- A Unicode code point; `0xD800 .. 0xDFFF` are the surrogates. -/
abbrev CodePoint := Fin 0x110000

/-- A Python `str`. -/
abbrev PyStr := List CodePoint

/-- A Python `bytes`. -/
abbrev Bytes := List UInt8

instance codePoints_pos : @NeZero ℕ Zero.ofOfNat0 0x110000 := ⟨Nat.succ_ne_zero _⟩

instance codePoint_lawfulBEq : LawfulBEq CodePoint := inferInstance

instance pyStr_lawfulBEq : LawfulBEq PyStr := inferInstance

theorem char_lt (c : Char) : c.toNat < 0x110000 := by
  have h := c.valid
  simp only [UInt32.isValidChar, Nat.isValidChar] at h
  change c.val.toNat < 0x110000
  omega

/-- The code point of a character. -/
def ch (c : Char) : CodePoint := ⟨c.toNat, char_lt c⟩

/-- A source literal. -/
def lit (s : String) : PyStr := s.toList.map ch

/-- The octets of an ASCII source literal. -/
def asciiBytes (s : String) : Bytes := s.toList.map (fun c => UInt8.ofNat c.toNat)

/-! ## Surrogates -/

def isHighSurrogate (c : CodePoint) : Bool := decide (0xD800 ≤ c.val ∧ c.val ≤ 0xDBFF)

def isLowSurrogate (c : CodePoint) : Bool := decide (0xDC00 ≤ c.val ∧ c.val ≤ 0xDFFF)

def isSurrogate (c : CodePoint) : Bool := decide (0xD800 ≤ c.val ∧ c.val ≤ 0xDFFF)

def isAscii (c : CodePoint) : Bool := decide (c.val < 0x80)

/-- The code point a surrogate pair stands for. -/
def joinSurrogates (h l : CodePoint) : CodePoint :=
  Fin.ofNat 0x110000 (0x10000 + (h.val - 0xD800) * 0x400 + (l.val - 0xDC00))

/-- No code point of the string is a surrogate. -/
def noSurrogate (s : PyStr) : Bool := s.all (fun c => !isSurrogate c)

theorem noSurrogate_append (s t : PyStr) :
    noSurrogate (s ++ t) = (noSurrogate s && noSurrogate t) :=
  List.all_append

theorem noSurrogate_of_ascii {s : PyStr} (h : s.all isAscii = true) : noSurrogate s = true := by
  rw [noSurrogate, List.all_eq_true]
  intro c hc
  have ha := List.all_eq_true.1 h c hc
  simp only [isAscii, decide_eq_true_eq] at ha
  simp only [isSurrogate, Bool.not_eq_true', decide_eq_false_iff_not]
  omega

theorem isSurrogate_ch (c : Char) : isSurrogate (ch c) = false := by
  have h := c.valid
  simp only [UInt32.isValidChar, Nat.isValidChar] at h
  have hnot : ¬ (0xD800 ≤ c.toNat ∧ c.toNat ≤ 0xDFFF) := by
    change ¬ (0xD800 ≤ c.val.toNat ∧ c.val.toNat ≤ 0xDFFF)
    omega
  exact decide_eq_false hnot

/-- A source literal holds no surrogate. -/
@[simp] theorem noSurrogate_lit (s : String) : noSurrogate (lit s) = true := by
  rw [noSurrogate, lit, List.all_map, List.all_eq_true]
  intro c _
  simp [isSurrogate_ch]

/-! ## Encoding -/

/-- The UTF-8 octets of one code point. -/
def utf8Octets (c : CodePoint) : Bytes :=
  if c.val < 0x80 then [UInt8.ofNat c.val]
  else if c.val < 0x800 then [UInt8.ofNat (0xC0 + c.val / 64), UInt8.ofNat (0x80 + c.val % 64)]
  else if c.val < 0x10000 then
    [UInt8.ofNat (0xE0 + c.val / 4096), UInt8.ofNat (0x80 + c.val / 64 % 64),
      UInt8.ofNat (0x80 + c.val % 64)]
  else
    [UInt8.ofNat (0xF0 + c.val / 262144), UInt8.ofNat (0x80 + c.val / 4096 % 64),
      UInt8.ofNat (0x80 + c.val / 64 % 64), UInt8.ofNat (0x80 + c.val % 64)]

/-- `s.encode("utf-8")`; `none` is the UnicodeEncodeError. -/
def encodeUtf8 (s : PyStr) : Option Bytes :=
  if noSurrogate s then some (s.flatMap utf8Octets) else none

/-- `s.encode("ascii")`. -/
def encodeAscii (s : PyStr) : Option Bytes :=
  if s.all isAscii then some (s.map (fun c => UInt8.ofNat c.val)) else none

theorem encodeUtf8_eq_none_iff (s : PyStr) : encodeUtf8 s = none ↔ noSurrogate s = false := by
  unfold encodeUtf8
  cases noSurrogate s <;> simp

theorem encodeUtf8_isSome (s : PyStr) : (encodeUtf8 s).isSome = noSurrogate s := by
  unfold encodeUtf8
  cases noSurrogate s <;> rfl

/-! ## Decoding, with surrogates passed through -/

/-- Decoding failures are all `UnicodeDecodeError`s. -/
abbrev Decoded := Option PyStr

def isTail (b : UInt8) : Bool := decide (0x80 ≤ b.toNat ∧ b.toNat ≤ 0xBF)

/-- `b.decode("utf-8", "surrogatepass")`. -/
def decodeUtf8 : Bytes → Decoded
  | [] => some []
  | a :: rest =>
    if a.toNat < 0x80 then (decodeUtf8 rest).map (Fin.ofNat 0x110000 a.toNat :: ·)
    else match rest with
      | [] => none
      | b :: rest =>
        if 0xC2 ≤ a.toNat ∧ a.toNat ≤ 0xDF then
          if isTail b then
            (decodeUtf8 rest).map (Fin.ofNat 0x110000 (a.toNat % 32 * 64 + b.toNat % 64) :: ·)
          else none
        else match rest with
          | [] => none
          | c :: rest =>
            if 0xE0 ≤ a.toNat ∧ a.toNat ≤ 0xEF then
              -- 0xED 0xA0..0xBF spells a surrogate, which the handler lets through
              if isTail b && isTail c && decide (a.toNat ≠ 0xE0 ∨ 0xA0 ≤ b.toNat) then
                (decodeUtf8 rest).map
                  (Fin.ofNat 0x110000 (a.toNat % 16 * 4096 + b.toNat % 64 * 64 + c.toNat % 64) :: ·)
              else none
            else match rest with
              | [] => none
              | d :: rest =>
                if 0xF0 ≤ a.toNat ∧ a.toNat ≤ 0xF4 then
                  if isTail b && isTail c && isTail d
                      && decide (a.toNat ≠ 0xF0 ∨ 0x90 ≤ b.toNat)
                      && decide (a.toNat ≠ 0xF4 ∨ b.toNat ≤ 0x8F) then
                    (decodeUtf8 rest).map
                      (Fin.ofNat 0x110000 (a.toNat % 8 * 262144 + b.toNat % 64 * 4096
                        + c.toNat % 64 * 64 + d.toNat % 64) :: ·)
                  else none
                else none

/-- The 16-bit units of a byte string; `big` is the byte order. -/
def units16 (big : Bool) : Bytes → Option (List ℕ)
  | [] => some []
  | [_] => none
  | a :: b :: rest =>
    (units16 big rest).map
      ((if big then a.toNat * 256 + b.toNat else b.toNat * 256 + a.toNat) :: ·)

/-- Join surrogate pairs; a unit without its partner stays a lone surrogate. -/
def joinUnits : Option CodePoint → List ℕ → PyStr
  | none, [] => []
  | some h, [] => [h]
  | none, u :: us =>
    let c : CodePoint := Fin.ofNat 0x110000 u
    if isHighSurrogate c then joinUnits (some c) us else c :: joinUnits none us
  | some h, u :: us =>
    let c : CodePoint := Fin.ofNat 0x110000 u
    if isLowSurrogate c then joinSurrogates h c :: joinUnits none us
    else if isHighSurrogate c then h :: joinUnits (some c) us
    else h :: c :: joinUnits none us

/-- `b.decode("utf-16-be" or "utf-16-le", "surrogatepass")`. -/
def decodeUtf16 (big : Bool) (b : Bytes) : Decoded := (units16 big b).map (joinUnits none)

/-- `b.decode("utf-32-be" or "utf-32-le", "surrogatepass")`. -/
def decodeUtf32 (big : Bool) : Bytes → Decoded
  | [] => some []
  | a :: b :: c :: d :: rest =>
    let n := if big then a.toNat * 16777216 + b.toNat * 65536 + c.toNat * 256 + d.toNat
      else d.toNat * 16777216 + c.toNat * 65536 + b.toNat * 256 + a.toNat
    if h : n < 0x110000 then (decodeUtf32 big rest).map (⟨n, h⟩ :: ·) else none
  | _ => none

/-! ## Decoding what was encoded -/

theorem toNat_octet {n : ℕ} (h : n < 256) : (UInt8.ofNat n).toNat = n := by
  rw [UInt8.toNat_ofNat']
  exact Nat.mod_eq_of_lt h

theorem isTail_octet {n : ℕ} (h : n < 64) : isTail (UInt8.ofNat (0x80 + n)) = true := by
  simp only [isTail, decide_eq_true_eq, toNat_octet (show 0x80 + n < 256 by omega)]
  omega

theorem ofNat_codePoint {n : ℕ} {c : CodePoint} (h : n = c.val) : Fin.ofNat 0x110000 n = c := by
  apply Fin.ext
  simp only [Fin.ofNat]
  omega

theorem decodeUtf8_octets (c : CodePoint) (rest : Bytes) :
    decodeUtf8 (utf8Octets c ++ rest) = (decodeUtf8 rest).map (c :: ·) := by
  have hc := c.isLt
  unfold utf8Octets
  split
  · next h1 =>
    have ha := toNat_octet (n := c.val) (by omega)
    have hv : Fin.ofNat 0x110000 c.val = c := ofNat_codePoint rfl
    rw [List.singleton_append, decodeUtf8.eq_def]
    simp only [ha, if_pos h1, hv]
  split
  · next h1 h2 =>
    have ha := toNat_octet (n := 0xC0 + c.val / 64) (by omega)
    have hb := toNat_octet (n := 0x80 + c.val % 64) (by omega)
    have hnot : ¬ 0xC0 + c.val / 64 < 0x80 := by omega
    have hlead : 0xC2 ≤ 0xC0 + c.val / 64 ∧ 0xC0 + c.val / 64 ≤ 0xDF := by omega
    have hv : Fin.ofNat 0x110000 ((0xC0 + c.val / 64) % 32 * 64 + (0x80 + c.val % 64) % 64) = c :=
      ofNat_codePoint (by omega)
    rw [List.cons_append, decodeUtf8.eq_def]
    simp only [List.cons_append, List.nil_append, ha, hb, if_neg hnot, if_pos hlead,
      isTail_octet (Nat.mod_lt c.val (by omega)), if_true, hv]
  split
  · next h1 h2 h3 =>
    have ha := toNat_octet (n := 0xE0 + c.val / 4096) (by omega)
    have hb := toNat_octet (n := 0x80 + c.val / 64 % 64) (by omega)
    have hd := toNat_octet (n := 0x80 + c.val % 64) (by omega)
    have hnot : ¬ 0xE0 + c.val / 4096 < 0x80 := by omega
    have hnot2 : ¬ (0xC2 ≤ 0xE0 + c.val / 4096 ∧ 0xE0 + c.val / 4096 ≤ 0xDF) := by omega
    have hlead : 0xE0 ≤ 0xE0 + c.val / 4096 ∧ 0xE0 + c.val / 4096 ≤ 0xEF := by omega
    have hmin : 0xE0 + c.val / 4096 ≠ 0xE0 ∨ 0xA0 ≤ 0x80 + c.val / 64 % 64 := by omega
    have hv : Fin.ofNat 0x110000 ((0xE0 + c.val / 4096) % 16 * 4096
        + (0x80 + c.val / 64 % 64) % 64 * 64 + (0x80 + c.val % 64) % 64) = c :=
      ofNat_codePoint (by omega)
    rw [List.cons_append, decodeUtf8.eq_def]
    simp only [List.cons_append, List.nil_append, ha, hb, hd, if_neg hnot, if_neg hnot2,
      if_pos hlead, isTail_octet (Nat.mod_lt c.val (by omega)),
      isTail_octet (Nat.mod_lt (c.val / 64) (by omega)), decide_eq_true hmin, Bool.and_true,
      if_true, hv]
  · next h1 h2 h3 =>
    have ha := toNat_octet (n := 0xF0 + c.val / 262144) (by omega)
    have hb := toNat_octet (n := 0x80 + c.val / 4096 % 64) (by omega)
    have hd := toNat_octet (n := 0x80 + c.val / 64 % 64) (by omega)
    have he := toNat_octet (n := 0x80 + c.val % 64) (by omega)
    have hnot : ¬ 0xF0 + c.val / 262144 < 0x80 := by omega
    have hnot2 : ¬ (0xC2 ≤ 0xF0 + c.val / 262144 ∧ 0xF0 + c.val / 262144 ≤ 0xDF) := by omega
    have hnot3 : ¬ (0xE0 ≤ 0xF0 + c.val / 262144 ∧ 0xF0 + c.val / 262144 ≤ 0xEF) := by omega
    have hlead : 0xF0 ≤ 0xF0 + c.val / 262144 ∧ 0xF0 + c.val / 262144 ≤ 0xF4 := by omega
    have hmin : 0xF0 + c.val / 262144 ≠ 0xF0 ∨ 0x90 ≤ 0x80 + c.val / 4096 % 64 := by omega
    have hmax : 0xF0 + c.val / 262144 ≠ 0xF4 ∨ 0x80 + c.val / 4096 % 64 ≤ 0x8F := by omega
    have hv : Fin.ofNat 0x110000 ((0xF0 + c.val / 262144) % 8 * 262144
        + (0x80 + c.val / 4096 % 64) % 64 * 4096 + (0x80 + c.val / 64 % 64) % 64 * 64
        + (0x80 + c.val % 64) % 64) = c := ofNat_codePoint (by omega)
    rw [List.cons_append, decodeUtf8.eq_def]
    simp only [List.cons_append, List.nil_append, ha, hb, hd, he, if_neg hnot,
      if_neg hnot2, if_neg hnot3, if_pos hlead, isTail_octet (Nat.mod_lt c.val (by omega)),
      isTail_octet (Nat.mod_lt (c.val / 64) (by omega)),
      isTail_octet (Nat.mod_lt (c.val / 4096) (by omega)), decide_eq_true hmin, decide_eq_true hmax,
      Bool.and_true, if_true, hv]

theorem decodeUtf8_utf8 (s : PyStr) : decodeUtf8 (s.flatMap utf8Octets) = some s := by
  induction s with
  | nil => rfl
  | cons c s ih => rw [List.flatMap_cons, decodeUtf8_octets, ih]; rfl

theorem utf8_injective {s t : PyStr} (h : s.flatMap utf8Octets = t.flatMap utf8Octets) : s = t := by
  have hs := decodeUtf8_utf8 s
  rw [h, decodeUtf8_utf8] at hs
  exact (Option.some.inj hs).symm

/-! ## String methods -/

/-- `str.isspace` on one code point: the set `str.strip()` and `str.split()` use. -/
def isSpace (c : CodePoint) : Bool :=
  decide ((0x09 ≤ c.val ∧ c.val ≤ 0x0D) ∨ (0x1C ≤ c.val ∧ c.val ≤ 0x20) ∨ c.val = 0x85 ∨
    c.val = 0xA0 ∨ c.val = 0x1680 ∨ (0x2000 ≤ c.val ∧ c.val ≤ 0x200A) ∨ c.val = 0x2028 ∨
    c.val = 0x2029 ∨ c.val = 0x202F ∨ c.val = 0x205F ∨ c.val = 0x3000)

/-- `s.strip()`. -/
def strip (s : PyStr) : PyStr := ((s.dropWhile isSpace).reverse.dropWhile isSpace).reverse

def isLetter (c : CodePoint) : Bool :=
  decide ((65 ≤ c.val ∧ c.val ≤ 90) ∨ (97 ≤ c.val ∧ c.val ≤ 122))

def lowerChar (c : CodePoint) : CodePoint :=
  if 65 ≤ c.val ∧ c.val ≤ 90 then Fin.ofNat 0x110000 (c.val + 32) else c

/-- `s.lower()` of ASCII letters. Outside ASCII only the Kelvin sign and the dotted capital I have an
ASCII letter, `k` and `i`, in their lower case. -/
def lowerAscii (s : PyStr) : PyStr := s.map lowerChar

def upperChar (c : CodePoint) : CodePoint :=
  if 97 ≤ c.val ∧ c.val ≤ 122 then Fin.ofNat 0x110000 (c.val - 32) else c

/-- `s.upper()` of ASCII letters. Outside ASCII only the dotless i and the long s have an ASCII letter
as their whole upper case. -/
def upperAscii (s : PyStr) : PyStr := s.map upperChar

/-- The pieces between the separators, the current piece reversed. -/
def splitOnGo (sep : CodePoint) : PyStr → PyStr → List PyStr
  | acc, [] => [acc.reverse]
  | acc, c :: cs => if c = sep then acc.reverse :: splitOnGo sep [] cs else splitOnGo sep (c :: acc) cs

/-- `s.split(sep)` for a separator of one character. -/
def splitOn (sep : CodePoint) (s : PyStr) : List PyStr := splitOnGo sep [] s

/-- The words between runs of white space, the current word reversed. -/
def splitSpaceGo : PyStr → PyStr → List PyStr
  | [], [] => []
  | acc@(_ :: _), [] => [acc.reverse]
  | acc, c :: cs =>
    if isSpace c then
      if acc.isEmpty then splitSpaceGo [] cs else acc.reverse :: splitSpaceGo [] cs
    else splitSpaceGo (c :: acc) cs

/-- `s.split()`. -/
def splitSpace (s : PyStr) : List PyStr := splitSpaceGo [] s

/-! ### Pieces -/

theorem splitOnGo_of_not_mem {sep : CodePoint} {s : PyStr} (h : sep ∉ s) (acc : PyStr) :
    splitOnGo sep acc s = [acc.reverse ++ s] := by
  induction s generalizing acc with
  | nil => rw [splitOnGo, List.append_nil]
  | cons c s ih =>
    rw [List.mem_cons, not_or] at h
    rw [splitOnGo, if_neg (Ne.symm h.1), ih h.2, List.reverse_cons, List.append_assoc]
    rfl

theorem splitOnGo_append {sep : CodePoint} {s : PyStr} (h : sep ∉ s) (acc t : PyStr) :
    splitOnGo sep acc (s ++ sep :: t) = (acc.reverse ++ s) :: splitOn sep t := by
  induction s generalizing acc with
  | nil =>
    rw [List.nil_append, splitOnGo, if_pos rfl, List.append_nil]
    rfl
  | cons c s ih =>
    rw [List.mem_cons, not_or] at h
    rw [List.cons_append, splitOnGo, if_neg (Ne.symm h.1), ih h.2, List.reverse_cons, List.append_assoc]
    rfl

theorem splitOn_of_not_mem {sep : CodePoint} {s : PyStr} (h : sep ∉ s) : splitOn sep s = [s] :=
  splitOnGo_of_not_mem h []

theorem splitOn_append {sep : CodePoint} {s : PyStr} (h : sep ∉ s) (t : PyStr) :
    splitOn sep (s ++ sep :: t) = s :: splitOn sep t := splitOnGo_append h [] t

theorem not_mem_of_mem_splitOnGo {sep : CodePoint} {acc s piece : PyStr} (hacc : sep ∉ acc)
    (h : piece ∈ splitOnGo sep acc s) : sep ∉ piece := by
  induction s generalizing acc with
  | nil =>
    rw [splitOnGo, List.mem_singleton] at h
    rwa [h, List.mem_reverse]
  | cons c s ih =>
    rw [splitOnGo] at h
    split at h
    · rw [List.mem_cons] at h
      obtain rfl | h := h
      · rwa [List.mem_reverse]
      · exact ih List.not_mem_nil h
    · next hc =>
      refine ih ?_ h
      rw [List.mem_cons, not_or]
      exact ⟨Ne.symm hc, hacc⟩

theorem not_mem_of_mem_splitOn {sep : CodePoint} {s piece : PyStr} (h : piece ∈ splitOn sep s) : sep ∉ piece :=
  not_mem_of_mem_splitOnGo List.not_mem_nil h

/-- A text is its own strip when no white space stands at its ends. -/
theorem strip_eq_self {s : PyStr} (hhead : ∀ c, s.head? = some c → isSpace c = false)
    (hlast : ∀ c, s.getLast? = some c → isSpace c = false) : strip s = s := by
  have hdrop : ∀ {l : PyStr}, (∀ c, l.head? = some c → isSpace c = false) → l.dropWhile isSpace = l := by
    intro l hl
    cases l with
    | nil => rfl
    | cons c l => rw [List.dropWhile_cons_of_neg (by rw [hl c rfl]; decide)]
  rw [strip, hdrop hhead, hdrop, List.reverse_reverse]
  rwa [List.head?_reverse]

/-! ## Digits -/

def digit? (c : CodePoint) : Option ℕ :=
  if 48 ≤ c.val ∧ c.val ≤ 57 then some (c.val - 48) else none

def hexDigit? (c : CodePoint) : Option ℕ :=
  if 48 ≤ c.val ∧ c.val ≤ 57 then some (c.val - 48)
  else if 97 ≤ c.val ∧ c.val ≤ 102 then some (c.val - 87)
  else if 65 ≤ c.val ∧ c.val ≤ 70 then some (c.val - 55)
  else none

/-- What `bytes.fromhex` skips between two octets. -/
def isHexBlank (c : CodePoint) : Bool := decide (c.val = 0x20 ∨ (0x09 ≤ c.val ∧ c.val ≤ 0x0D))

/-- `bytes.fromhex(s)`; `none` is the `ValueError`. -/
def fromHex : PyStr → Option Bytes
  | [] => some []
  | [c] => if isHexBlank c then some [] else none
  | c :: d :: rest =>
    if isHexBlank c then fromHex (d :: rest)
    else match hexDigit? c, hexDigit? d with
      | some h, some l => (fromHex rest).map (UInt8.ofNat (h * 16 + l) :: ·)
      | _, _ => none

end PyLib
