import AxiamSdk.Lib.Text

/-! # Percent-decoding

`urllib.parse.unquote_to_bytes`, and the text that the octets spell in UTF-8.

* `hasEscape`: the text holds a `%` with two hexadecimal digits behind it.
* `unquoteUtf8_eq_self`: a text without one stands for itself.
* `unquoteUtf8_ne_self`: an ASCII text with one never does. -/

namespace PyLib
set_option autoImplicit false

/-- The octet of `%XX`. -/
def escape? (c d e : CodePoint) : Option UInt8 :=
  if c = ch '%' then
    match hexDigit? d, hexDigit? e with
    | some h, some l => some (UInt8.ofNat (h * 16 + l))
    | _, _ => none
  else none

/-- `unquote_to_bytes(s)`: an octet for each escape, everything else as it is encoded. -/
def unquoteToBytes : PyStr → Bytes
  | [] => []
  | [c] => utf8Octets c
  | [c, d] => utf8Octets c ++ utf8Octets d
  | c :: d :: e :: rest =>
    match escape? c d e with
    | some b => b :: unquoteToBytes rest
    | none => utf8Octets c ++ unquoteToBytes (d :: e :: rest)

/-- Whether the text holds an escape. -/
def hasEscape : PyStr → Bool
  | c :: d :: e :: rest => (escape? c d e).isSome || hasEscape (d :: e :: rest)
  | _ => false

/-- The text that the octets spell; `none` where they are not UTF-8. -/
def unquoteUtf8 (s : PyStr) : Option PyStr :=
  (decodeUtf8 (unquoteToBytes s)).filter noSurrogate

theorem escape?_of_ne {c : CodePoint} (h : c ≠ ch '%') (d e : CodePoint) : escape? c d e = none :=
  if_neg h

theorem unquoteToBytes_cons {c : CodePoint} (h : c ≠ ch '%') (s : PyStr) :
    unquoteToBytes (c :: s) = utf8Octets c ++ unquoteToBytes s := by
  match s with
  | [] => simp [unquoteToBytes]
  | [d] => simp [unquoteToBytes]
  | d :: e :: rest => simp only [unquoteToBytes, escape?_of_ne h]

theorem hasEscape_cons {c : CodePoint} (h : c ≠ ch '%') (s : PyStr) : hasEscape (c :: s) = hasEscape s := by
  match s with
  | [] => rfl
  | [d] => rfl
  | d :: e :: rest => simp [hasEscape, escape?_of_ne h]

/-- Text without a percent sign stands for itself, whatever comes after it. -/
theorem unquoteToBytes_append {s : PyStr} (h : ch '%' ∉ s) (t : PyStr) :
    unquoteToBytes (s ++ t) = s.flatMap utf8Octets ++ unquoteToBytes t := by
  induction s with
  | nil => rfl
  | cons c s ih =>
    have hc : c ≠ ch '%' := fun e => h (by simp [e])
    have hs : ch '%' ∉ s := fun hm => h (List.mem_cons_of_mem c hm)
    rw [List.cons_append, unquoteToBytes_cons hc, ih hs, List.flatMap_cons, List.append_assoc]

theorem hasEscape_append {s : PyStr} (h : ch '%' ∉ s) (t : PyStr) :
    hasEscape (s ++ t) = hasEscape t := by
  induction s with
  | nil => rfl
  | cons c s ih =>
    have hc : c ≠ ch '%' := fun e => h (by simp [e])
    have hs : ch '%' ∉ s := fun hm => h (List.mem_cons_of_mem c hm)
    rw [List.cons_append, hasEscape_cons hc, ih hs]

theorem decodeUtf8_append (s : PyStr) (b : Bytes) :
    decodeUtf8 (s.flatMap utf8Octets ++ b) = (decodeUtf8 b).map (s ++ ·) := by
  induction s with
  | nil => simp
  | cons c s ih =>
    rw [List.flatMap_cons, List.append_assoc, decodeUtf8_octets, ih, Option.map_map]
    rfl

theorem unquoteUtf8_append {s : PyStr} (h : ch '%' ∉ s) (hs : noSurrogate s = true) (t : PyStr) :
    unquoteUtf8 (s ++ t) = (unquoteUtf8 t).map (s ++ ·) := by
  rw [unquoteUtf8, unquoteToBytes_append h, decodeUtf8_append, unquoteUtf8]
  cases decodeUtf8 (unquoteToBytes t) with
  | none => rfl
  | some u =>
    cases hu : noSurrogate u <;> simp [Option.filter, noSurrogate_append, hs, hu]

/-! ## Without an escape -/

theorem unquoteToBytes_of_not_hasEscape {s : PyStr} (h : hasEscape s = false) :
    unquoteToBytes s = s.flatMap utf8Octets := by
  match s with
  | [] => rfl
  | [c] => simp [unquoteToBytes]
  | [c, d] => simp [unquoteToBytes]
  | c :: d :: e :: rest =>
    simp only [hasEscape, Bool.or_eq_false_iff, Option.isSome_eq_false_iff, Option.isNone_iff_eq_none] at h
    have ih := unquoteToBytes_of_not_hasEscape h.2
    simp only [unquoteToBytes, h.1]
    rw [ih]
    exact List.flatMap_cons.symm

theorem unquoteUtf8_eq_self {s : PyStr} (hs : noSurrogate s = true) (h : hasEscape s = false) :
    unquoteUtf8 s = some s := by
  rw [unquoteUtf8, unquoteToBytes_of_not_hasEscape h, decodeUtf8_utf8]
  exact Option.filter_some_pos hs

/-! ## With an escape -/

theorem length_le_of_map_cons {x : Decoded} {c : CodePoint} {s : PyStr} {n : ℕ}
    (hx : ∀ {t : PyStr}, x = some t → t.length ≤ n) (h : x.map (c :: ·) = some s) : s.length ≤ n + 1 := by
  obtain ⟨t, ht, rfl⟩ := Option.map_eq_some_iff.1 h
  exact Nat.succ_le_succ (hx ht)

theorem length_decodeUtf8 {b : Bytes} {s : PyStr} (h : decodeUtf8 b = some s) : s.length ≤ b.length := by
  fun_induction decodeUtf8 b generalizing s with
  | case1 =>
    obtain rfl := Option.some.inj h
    exact Nat.le_refl _
  | case2 a rest ha ih => exact length_le_of_map_cons ih h
  | case4 a ha b rest hlead htail ih =>
    have hle := length_le_of_map_cons ih h
    simp only [List.length_cons]
    omega
  | case7 a ha b hlead c rest hlead' htail ih =>
    have hle := length_le_of_map_cons ih h
    simp only [List.length_cons]
    omega
  | case10 a ha b hlead c hlead' d rest hlead'' htail ih =>
    have hle := length_le_of_map_cons ih h
    simp only [List.length_cons]
    omega
  | _ => cases h

theorem length_utf8Octets {c : CodePoint} (h : isAscii c = true) : (utf8Octets c).length = 1 := by
  have hc : c.val < 0x80 := of_decide_eq_true h
  rw [utf8Octets, if_pos hc]
  rfl

theorem length_flatMap_utf8Octets {s : PyStr} (h : s.all isAscii = true) :
    (s.flatMap utf8Octets).length = s.length := by
  induction s with
  | nil => rfl
  | cons c s ih =>
    simp only [List.all_cons, Bool.and_eq_true] at h
    rw [List.flatMap_cons, List.length_append, length_utf8Octets h.1, ih h.2, List.length_cons, Nat.add_comm]

theorem length_unquoteToBytes_le {s : PyStr} (h : s.all isAscii = true) :
    (unquoteToBytes s).length ≤ s.length := by
  fun_induction unquoteToBytes s with
  | case1 => exact Nat.le_refl _
  | case2 c => simpa using Nat.le_of_eq (length_flatMap_utf8Octets h)
  | case3 c d => simpa using Nat.le_of_eq (length_flatMap_utf8Octets h)
  | case4 c d e rest b hb ih =>
    simp only [List.all_cons, Bool.and_eq_true] at h
    have hle := ih h.2.2.2
    simp only [List.length_cons]
    omega
  | case5 c d e rest hb ih =>
    rw [List.all_cons, Bool.and_eq_true] at h
    have hle := ih h.2
    rw [List.length_append, length_utf8Octets h.1]
    simp only [List.length_cons] at hle ⊢
    omega

theorem length_unquoteToBytes_lt {s : PyStr} (h : s.all isAscii = true) (he : hasEscape s = true) :
    (unquoteToBytes s).length < s.length := by
  fun_induction unquoteToBytes s with
  | case1 => cases he
  | case2 c => cases he
  | case3 c d => cases he
  | case4 c d e rest b hb ih =>
    simp only [List.all_cons, Bool.and_eq_true] at h
    have hle := length_unquoteToBytes_le h.2.2.2
    simp only [List.length_cons]
    omega
  | case5 c d e rest hb ih =>
    rw [List.all_cons, Bool.and_eq_true] at h
    simp only [hasEscape, hb, Option.isSome_none, Bool.false_or] at he
    have hlt := ih h.2 he
    rw [List.length_append, length_utf8Octets h.1]
    simp only [List.length_cons] at hlt ⊢
    omega

theorem unquoteUtf8_ne_self {s : PyStr} (h : s.all isAscii = true) (he : hasEscape s = true) :
    unquoteUtf8 s ≠ some s := by
  intro hs
  have hd : decodeUtf8 (unquoteToBytes s) = some s := (Option.filter_eq_some_iff.1 hs).1
  have hlt := length_unquoteToBytes_lt h he
  have hle := length_decodeUtf8 hd
  omega

end PyLib
