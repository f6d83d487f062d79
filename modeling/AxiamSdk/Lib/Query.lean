import AxiamSdk.Lib.Percent
import AxiamSdk.Lib.Rfc3986
import AxiamSdk.Lib.Url

/-! # Query strings

`urllib.parse.quote` with no further safe character, `unquote` with its default error handler, and `parse_qsl`
with blank values kept.

* `decodeReplace`: `bytes.decode("utf-8", "replace")`; `decodeReplace_octets`: valid text is read back.
* `unquote_quote`: a quoted text is read back.
* `parseQsl_append`, `parseQsl_quotePairs`: pairs that are quoted and joined are read back, behind what was there. -/

namespace PyLib
open Rfc3986 (isUnreserved isDecimalDigit)
set_option autoImplicit false

/-! ## Decoding with replacement -/

/-- `U+FFFD` -/
def replacement : CodePoint := Fin.ofNat 0x110000 0xFFFD

/-- A second octet that the lead octet of three or four allows. -/
def isSecond (a b : UInt8) : Bool :=
  isTail b && decide (a.toNat ≠ 0xE0 ∨ 0xA0 ≤ b.toNat) && decide (a.toNat ≠ 0xED ∨ b.toNat ≤ 0x9F)
    && decide (a.toNat ≠ 0xF0 ∨ 0x90 ≤ b.toNat) && decide (a.toNat ≠ 0xF4 ∨ b.toNat ≤ 0x8F)

/-- `b.decode("utf-8", "replace")`: every longest piece that begins a character and does not complete it, and
every octet that begins none, becomes one `U+FFFD`. -/
def decodeReplace : Bytes → PyStr
  | [] => []
  | a :: rest =>
    if a.toNat < 0x80 then Fin.ofNat 0x110000 a.toNat :: decodeReplace rest
    else if 0xC2 ≤ a.toNat ∧ a.toNat ≤ 0xDF then
      match rest with
      | [] => [replacement]
      | b :: rest' =>
        if isTail b then Fin.ofNat 0x110000 (a.toNat % 32 * 64 + b.toNat % 64) :: decodeReplace rest'
        else replacement :: decodeReplace (b :: rest')
    else if 0xE0 ≤ a.toNat ∧ a.toNat ≤ 0xEF then
      match rest with
      | [] => [replacement]
      | b :: rest' =>
        if isSecond a b then
          match rest' with
          | [] => [replacement]
          | c :: rest'' =>
            if isTail c then
              Fin.ofNat 0x110000 (a.toNat % 16 * 4096 + b.toNat % 64 * 64 + c.toNat % 64) :: decodeReplace rest''
            else replacement :: decodeReplace (c :: rest'')
        else replacement :: decodeReplace (b :: rest')
    else if 0xF0 ≤ a.toNat ∧ a.toNat ≤ 0xF4 then
      match rest with
      | [] => [replacement]
      | b :: rest' =>
        if isSecond a b then
          match rest' with
          | [] => [replacement]
          | c :: rest'' =>
            if isTail c then
              match rest'' with
              | [] => [replacement]
              | d :: rest''' =>
                if isTail d then
                  Fin.ofNat 0x110000 (a.toNat % 8 * 262144 + b.toNat % 64 * 4096 + c.toNat % 64 * 64
                    + d.toNat % 64) :: decodeReplace rest'''
                else replacement :: decodeReplace (d :: rest''')
            else replacement :: decodeReplace (c :: rest'')
        else replacement :: decodeReplace (b :: rest')
    else replacement :: decodeReplace rest

theorem isSecond_octet {a n : ℕ} (ha : a < 256) (hn : n < 64) (h0 : a = 0xE0 → 0x20 ≤ n) (hd : a = 0xED → n < 0x20)
    (hf : a = 0xF0 → 0x10 ≤ n) (h4 : a = 0xF4 → n < 0x10) :
    isSecond (UInt8.ofNat a) (UInt8.ofNat (0x80 + n)) = true := by
  have hb := toNat_octet (n := 0x80 + n) (by omega)
  unfold isSecond
  rw [isTail_octet hn, toNat_octet ha, hb]
  simp only [Bool.true_and, Bool.and_eq_true, decide_eq_true_eq]
  refine ⟨⟨⟨?_, ?_⟩, ?_⟩, ?_⟩ <;> omega

theorem decodeReplace_octets {c : CodePoint} (hc : isSurrogate c = false) (rest : Bytes) :
    decodeReplace (utf8Octets c ++ rest) = c :: decodeReplace rest := by
  have hlt := c.isLt
  have hsurrogate : ¬ (0xD800 ≤ c.val ∧ c.val ≤ 0xDFFF) := of_decide_eq_false hc
  unfold utf8Octets
  split
  · next h1 =>
    have ha := toNat_octet (n := c.val) (by omega)
    have hv : Fin.ofNat 0x110000 c.val = c := ofNat_codePoint rfl
    rw [List.singleton_append, decodeReplace.eq_def]
    simp only [ha, if_pos h1, hv]
  split
  · next h1 h2 =>
    have ha := toNat_octet (n := 0xC0 + c.val / 64) (by omega)
    have hb := toNat_octet (n := 0x80 + c.val % 64) (by omega)
    have hnot : ¬ 0xC0 + c.val / 64 < 0x80 := by omega
    have hlead : 0xC2 ≤ 0xC0 + c.val / 64 ∧ 0xC0 + c.val / 64 ≤ 0xDF := by omega
    have hv : Fin.ofNat 0x110000 ((0xC0 + c.val / 64) % 32 * 64 + (0x80 + c.val % 64) % 64) = c :=
      ofNat_codePoint (by omega)
    rw [List.cons_append, decodeReplace.eq_def]
    simp only [List.cons_append, List.nil_append, ha, hb, if_neg hnot, if_pos hlead,
      isTail_octet (Nat.mod_lt c.val (by omega)), if_true, hv]
  split
  · next h1 h2 h3 =>
    have ha := toNat_octet (n := 0xE0 + c.val / 4096) (by omega)
    have hb := toNat_octet (n := 0x80 + c.val / 64 % 64) (by omega)
    have hd := toNat_octet (n := 0x80 + c.val % 64) (by omega)
    have hnot : ¬ 0xE0 + c.val / 4096 < 0x80 := by omega
    have hnot2 : ¬ (0xC2 ≤ 0xE0 + c.val / 4096 ∧ 0xE0 + c.val / 4096 ≤ 0xDF) := by omega
    have hlead : 0xE0 ≤ 0xE0 + c.val / 4096 ∧ 0xE0 + c.val / 4096 ≤ 0xEF := by omega
    have hsecond : isSecond (UInt8.ofNat (0xE0 + c.val / 4096)) (UInt8.ofNat (0x80 + c.val / 64 % 64)) = true :=
      isSecond_octet (by omega) (Nat.mod_lt _ (by omega)) (by omega) (by omega) (by omega) (by omega)
    have hv : Fin.ofNat 0x110000 ((0xE0 + c.val / 4096) % 16 * 4096
        + (0x80 + c.val / 64 % 64) % 64 * 64 + (0x80 + c.val % 64) % 64) = c :=
      ofNat_codePoint (by omega)
    rw [List.cons_append, decodeReplace.eq_def]
    simp only [List.cons_append, List.nil_append, ha, hb, hd, if_neg hnot, if_neg hnot2, if_pos hlead, hsecond,
      isTail_octet (Nat.mod_lt c.val (by omega)), if_true, hv]
  · next h1 h2 h3 =>
    have ha := toNat_octet (n := 0xF0 + c.val / 262144) (by omega)
    have hb := toNat_octet (n := 0x80 + c.val / 4096 % 64) (by omega)
    have hd := toNat_octet (n := 0x80 + c.val / 64 % 64) (by omega)
    have he := toNat_octet (n := 0x80 + c.val % 64) (by omega)
    have hnot : ¬ 0xF0 + c.val / 262144 < 0x80 := by omega
    have hnot2 : ¬ (0xC2 ≤ 0xF0 + c.val / 262144 ∧ 0xF0 + c.val / 262144 ≤ 0xDF) := by omega
    have hnot3 : ¬ (0xE0 ≤ 0xF0 + c.val / 262144 ∧ 0xF0 + c.val / 262144 ≤ 0xEF) := by omega
    have hlead : 0xF0 ≤ 0xF0 + c.val / 262144 ∧ 0xF0 + c.val / 262144 ≤ 0xF4 := by omega
    have hsecond : isSecond (UInt8.ofNat (0xF0 + c.val / 262144)) (UInt8.ofNat (0x80 + c.val / 4096 % 64)) = true :=
      isSecond_octet (by omega) (Nat.mod_lt _ (by omega)) (by omega) (by omega) (by omega) (by omega)
    have hv : Fin.ofNat 0x110000 ((0xF0 + c.val / 262144) % 8 * 262144
        + (0x80 + c.val / 4096 % 64) % 64 * 4096 + (0x80 + c.val / 64 % 64) % 64 * 64
        + (0x80 + c.val % 64) % 64) = c := ofNat_codePoint (by omega)
    rw [List.cons_append, decodeReplace.eq_def]
    simp only [List.cons_append, List.nil_append, ha, hb, hd, he, if_neg hnot, if_neg hnot2, if_neg hnot3,
      if_pos hlead, hsecond, isTail_octet (Nat.mod_lt c.val (by omega)),
      isTail_octet (Nat.mod_lt (c.val / 64) (by omega)), if_true, hv]

theorem decodeReplace_utf8 {s : PyStr} (h : noSurrogate s = true) : decodeReplace (s.flatMap utf8Octets) = s := by
  induction s with
  | nil => rfl
  | cons c s ih =>
    simp only [noSurrogate, List.all_cons, Bool.and_eq_true, Bool.not_eq_true'] at h
    rw [List.flatMap_cons, decodeReplace_octets h.1, ih h.2]

/-! ## Quoting -/

/-- `_ALWAYS_SAFE` -/
def isAlwaysSafe (b : UInt8) : Bool :=
  decide ((48 ≤ b.toNat ∧ b.toNat ≤ 57) ∨ (65 ≤ b.toNat ∧ b.toNat ≤ 90) ∨ (97 ≤ b.toNat ∧ b.toNat ≤ 122) ∨
    b.toNat = 45 ∨ b.toNat = 46 ∨ b.toNat = 95 ∨ b.toNat = 126)

def hexUpper (n : ℕ) : CodePoint := Fin.ofNat 0x110000 (if n < 10 then 48 + n else 55 + n)

def quoteByte (b : UInt8) : PyStr :=
  if isAlwaysSafe b then [Fin.ofNat 0x110000 b.toNat] else [ch '%', hexUpper (b.toNat / 16), hexUpper (b.toNat % 16)]

/-- `quote(s, safe="")`; `none` is the `UnicodeEncodeError`. -/
def urlQuote (s : PyStr) : Option PyStr := (encodeUtf8 s).map (·.flatMap quoteByte)

/-- A character that quoting writes. -/
def isQuoted (c : CodePoint) : Bool := isUnreserved c || c = ch '%'

theorem val_ofNat {n : ℕ} (h : n < 0x110000) : (Fin.ofNat 0x110000 n).val = n := Nat.mod_eq_of_lt h

theorem hexUpper_val {n : ℕ} (h : n < 16) : (hexUpper n).val = if n < 10 then 48 + n else 55 + n := by
  unfold hexUpper
  refine val_ofNat ?_
  split <;> omega

theorem hexDigit?_hexUpper {n : ℕ} (h : n < 16) : hexDigit? (hexUpper n) = some n := by
  unfold hexDigit?
  rw [hexUpper_val h]
  by_cases hn : n < 10
  · rw [if_pos hn, if_pos (by omega)]
    exact congrArg some (by omega)
  · rw [if_neg hn, if_neg (by omega), if_neg (by omega), if_pos (by omega)]
    exact congrArg some (by omega)

theorem isQuoted_of_val {c : CodePoint}
    (h : (48 ≤ c.val ∧ c.val ≤ 57) ∨ (65 ≤ c.val ∧ c.val ≤ 90) ∨ (97 ≤ c.val ∧ c.val ≤ 122) ∨ c.val = 45 ∨
      c.val = 46 ∨ c.val = 95 ∨ c.val = 126) : isQuoted c = true := by
  have hdash : (ch '-').val = 45 := by decide
  have hdot : (ch '.').val = 46 := by decide
  have hline : (ch '_').val = 95 := by decide
  have htilde : (ch '~').val = 126 := by decide
  simp only [isQuoted, isUnreserved, isLetter, isDecimalDigit, Bool.or_eq_true, decide_eq_true_eq, Fin.ext_iff,
    hdash, hdot, hline, htilde]
  omega

theorem isQuoted_quoteByte (b : UInt8) : ∀ c ∈ quoteByte b, isQuoted c = true := by
  have hb : b.toNat < 256 := b.toNat_lt
  unfold quoteByte
  split
  · next hsafe =>
    intro c hc
    obtain rfl := List.mem_singleton.1 hc
    refine isQuoted_of_val ?_
    rw [val_ofNat (by omega)]
    exact of_decide_eq_true hsafe
  · intro c hc
    have hhex : ∀ n, n < 16 → isQuoted (hexUpper n) = true := by
      intro n hn
      refine isQuoted_of_val ?_
      rw [hexUpper_val hn]
      split <;> omega
    simp only [List.mem_cons, List.not_mem_nil, or_false] at hc
    obtain rfl | rfl | rfl := hc
    · decide
    · exact hhex _ (by omega)
    · exact hhex _ (by omega)

theorem isQuoted_quote {s t : PyStr} (h : urlQuote s = some t) : ∀ c ∈ t, isQuoted c = true := by
  obtain ⟨bytes, -, rfl⟩ := Option.map_eq_some_iff.1 h
  intro c hc
  obtain ⟨b, -, hb⟩ := List.mem_flatMap.1 hc
  exact isQuoted_quoteByte b c hb

theorem not_mem_of_quoted {t : PyStr} (h : ∀ c ∈ t, isQuoted c = true) {c : CodePoint} (hc : isQuoted c = false) :
    c ∉ t := by
  intro hmem
  rw [h c hmem] at hc
  cases hc

theorem isAscii_of_isQuoted {c : CodePoint} (h : isQuoted c = true) : isAscii c = true := by
  have hdash : (ch '-').val = 45 := by decide
  have hdot : (ch '.').val = 46 := by decide
  have hline : (ch '_').val = 95 := by decide
  have htilde : (ch '~').val = 126 := by decide
  have hpercent : (ch '%').val = 37 := by decide
  simp only [isQuoted, isUnreserved, isLetter, isDecimalDigit, Bool.or_eq_true, decide_eq_true_eq, Fin.ext_iff,
    hdash, hdot, hline, htilde, hpercent] at h
  refine decide_eq_true ?_
  omega

/-- A quoted octet is read back. -/
theorem unquoteToBytes_quoteByte (b : UInt8) (rest : PyStr) :
    unquoteToBytes (quoteByte b ++ rest) = b :: unquoteToBytes rest := by
  have hb : b.toNat < 256 := b.toNat_lt
  unfold quoteByte
  split
  · next hsafe =>
    have hsafe := of_decide_eq_true hsafe
    have hval : (Fin.ofNat 0x110000 b.toNat).val = b.toNat := val_ofNat (by omega)
    have hne : Fin.ofNat 0x110000 b.toNat ≠ ch '%' := by
      intro heq
      have hpercent : (ch '%').val = 37 := by decide
      have hvals := congrArg Fin.val heq
      rw [hval, hpercent] at hvals
      omega
    have hascii : b.toNat < 0x80 := by omega
    rw [List.singleton_append, unquoteToBytes_cons hne]
    unfold utf8Octets
    rw [hval, if_pos hascii, UInt8.ofNat_toNat]
    rfl
  · have hescape : escape? (ch '%') (hexUpper (b.toNat / 16)) (hexUpper (b.toNat % 16)) = some b := by
      unfold escape?
      rw [if_pos rfl, hexDigit?_hexUpper (by omega), hexDigit?_hexUpper (by omega)]
      have hsum : b.toNat / 16 * 16 + b.toNat % 16 = b.toNat := by omega
      simp only [hsum, UInt8.ofNat_toNat]
    simp only [List.cons_append, List.nil_append, unquoteToBytes, hescape]

theorem unquoteToBytes_quoteBytes (bytes : Bytes) : unquoteToBytes (bytes.flatMap quoteByte) = bytes := by
  induction bytes with
  | nil => rfl
  | cons b bytes ih => rw [List.flatMap_cons, unquoteToBytes_quoteByte, ih]

/-! ## Unquoting -/

/-- The runs of ASCII characters are unquoted one by one; the current run reversed. -/
def unquoteGo : PyStr → PyStr → PyStr
  | run, [] => decodeReplace (unquoteToBytes run.reverse)
  | run, c :: cs =>
    if isAscii c then unquoteGo (c :: run) cs
    else decodeReplace (unquoteToBytes run.reverse) ++ c :: unquoteGo [] cs

/-- `unquote(s)` -/
def unquote (s : PyStr) : PyStr := unquoteGo [] s

theorem unquoteGo_ascii {s : PyStr} (h : ∀ c ∈ s, isAscii c = true) (run : PyStr) :
    unquoteGo run s = decodeReplace (unquoteToBytes (run.reverse ++ s)) := by
  induction s generalizing run with
  | nil => rw [unquoteGo, List.append_nil]
  | cons c s ih =>
    rw [unquoteGo, if_pos (h c List.mem_cons_self), ih (fun d hd => h d (List.mem_cons_of_mem c hd)),
      List.reverse_cons, List.append_assoc]
    rfl

/-- **A quoted text is read back.** -/
theorem unquote_quote {s t : PyStr} (h : urlQuote s = some t) : unquote t = s := by
  have hascii : ∀ c ∈ t, isAscii c = true := fun c hc => isAscii_of_isQuoted (isQuoted_quote h c hc)
  obtain ⟨bytes, hbytes, rfl⟩ := Option.map_eq_some_iff.1 h
  unfold encodeUtf8 at hbytes
  split at hbytes
  · next hsurrogate =>
    obtain rfl := Option.some.inj hbytes
    rw [unquote, unquoteGo_ascii hascii, List.reverse_nil, List.nil_append, unquoteToBytes_quoteBytes,
      decodeReplace_utf8 hsurrogate]
  · cases hbytes

/-! ## Pairs -/

/-- `unquote(s.replace("+", " "))` -/
def unquotePlus (s : PyStr) : PyStr := unquote (s.map (fun c => if c = ch '+' then ch ' ' else c))

/-- One piece of a query string; an empty one is none. -/
def queryPair (piece : PyStr) : Option (PyStr × PyStr) :=
  if piece.isEmpty then none
  else some (unquotePlus (Url.cut (ch '=') piece).1, unquotePlus (Url.cut (ch '=') piece).2)

/-- `parse_qsl(qs, keep_blank_values=True)` -/
def parseQsl (qs : PyStr) : List (PyStr × PyStr) := (splitOn (ch '&') qs).filterMap queryPair

def quotePair (p : PyStr × PyStr) : Option PyStr :=
  (urlQuote p.1).bind fun k => (urlQuote p.2).map fun v => k ++ ch '=' :: v

/-- `"&".join(f"{quote(k)}={quote(v)}" for k, v in params)` -/
def quotePairs (params : List (PyStr × PyStr)) : Option PyStr :=
  (params.mapM quotePair).map (List.intercalate [ch '&'])

theorem unquotePlus_quote {s t : PyStr} (h : urlQuote s = some t) : unquotePlus t = s := by
  have hplus : ch '+' ∉ t := not_mem_of_quoted (isQuoted_quote h) (by decide)
  have hmap : t.map (fun c => if c = ch '+' then ch ' ' else c) = t := by
    have hsame : ∀ c ∈ t, (if c = ch '+' then ch ' ' else c) = id c := by
      intro c hc
      refine if_neg fun he => hplus ?_
      rwa [he] at hc
    rw [List.map_congr_left hsame, List.map_id]
  rw [unquotePlus, hmap, unquote_quote h]

theorem cut_append {c : CodePoint} {s : PyStr} (h : c ∉ s) (t : PyStr) : Url.cut c (s ++ c :: t) = (s, t) := by
  have hall : ∀ d ∈ s, decide (d ≠ c) = true := fun d hd => decide_eq_true fun he => h (he ▸ hd)
  unfold Url.cut
  rw [List.takeWhile_append_of_pos hall, List.dropWhile_append_of_pos hall,
    List.takeWhile_cons_of_neg (by simp), List.dropWhile_cons_of_neg (by simp), List.append_nil]
  rfl

theorem queryPair_quotePair {p : PyStr × PyStr} {t : PyStr} (h : quotePair p = some t) : queryPair t = some p := by
  obtain ⟨k, hk, hrest⟩ := Option.bind_eq_some_iff.1 h
  obtain ⟨v, hv, rfl⟩ := Option.map_eq_some_iff.1 hrest
  have heq : ch '=' ∉ k := not_mem_of_quoted (isQuoted_quote hk) (by decide)
  have hne : (k ++ ch '=' :: v).isEmpty = false := by
    cases k <;> rfl
  unfold queryPair
  rw [hne, if_neg Bool.false_ne_true, cut_append heq, unquotePlus_quote hk, unquotePlus_quote hv]

/-- A character that a quoted pair holds. -/
def isPairChar (c : CodePoint) : Bool := isQuoted c || c = ch '='

theorem isPairChar_quotePair {p : PyStr × PyStr} {t : PyStr} (h : quotePair p = some t) :
    ∀ c ∈ t, isPairChar c = true := by
  obtain ⟨k, hk, hrest⟩ := Option.bind_eq_some_iff.1 h
  obtain ⟨v, hv, rfl⟩ := Option.map_eq_some_iff.1 hrest
  intro c hc
  rw [List.mem_append, List.mem_cons] at hc
  obtain hc | rfl | hc := hc
  · rw [isPairChar, isQuoted_quote hk c hc, Bool.true_or]
  · decide
  · rw [isPairChar, isQuoted_quote hv c hc, Bool.true_or]

theorem splitOnGo_join (sep : CodePoint) (acc s t : PyStr) :
    splitOnGo sep acc (s ++ sep :: t) = splitOnGo sep acc s ++ splitOn sep t := by
  induction s generalizing acc with
  | nil =>
    rw [List.nil_append, splitOnGo.eq_2, if_pos rfl]
    rfl
  | cons c s ih =>
    rw [List.cons_append, splitOnGo, splitOnGo]
    split
    · rw [ih, List.cons_append]
    · rw [ih]

/-- A query string behind another one adds its pairs. -/
theorem parseQsl_append (s t : PyStr) : parseQsl (s ++ ch '&' :: t) = parseQsl s ++ parseQsl t := by
  unfold parseQsl
  rw [splitOn, splitOnGo_join, List.filterMap_append]
  rfl

theorem mapM_quotePair_cons {p : PyStr × PyStr} {ps : List (PyStr × PyStr)} {ts : List PyStr}
    (h : (p :: ps).mapM quotePair = some ts) :
    ∃ t ts', quotePair p = some t ∧ ps.mapM quotePair = some ts' ∧ ts = t :: ts' := by
  rw [List.mapM_cons] at h
  obtain ⟨t, ht, hrest⟩ := Option.bind_eq_some_iff.1 h
  obtain ⟨ts', hts', hlast⟩ := Option.bind_eq_some_iff.1 hrest
  exact ⟨t, ts', ht, hts', (Option.some.inj hlast).symm⟩

theorem parseQsl_intercalate {params : List (PyStr × PyStr)} {ts : List PyStr}
    (h : params.mapM quotePair = some ts) : parseQsl (List.intercalate [ch '&'] ts) = params := by
  induction params generalizing ts with
  | nil =>
    obtain rfl : [] = ts := Option.some.inj h
    rfl
  | cons p ps ih =>
    obtain ⟨t, ts', ht, hts', rfl⟩ := mapM_quotePair_cons h
    have hamp : ch '&' ∉ t := by
      intro hmem
      have hpair := isPairChar_quotePair ht _ hmem
      revert hpair
      decide
    have hone : parseQsl t = [p] := by
      rw [parseQsl, splitOn_of_not_mem hamp, List.filterMap_cons_some (queryPair_quotePair ht), List.filterMap_nil]
    cases ts' with
    | nil =>
      have hps : ps = [] := by
        rw [← ih hts']
        rfl
      rw [hps, ← hone]
      simp [List.intercalate]
    | cons t' ts'' =>
      have hjoin : List.intercalate [ch '&'] (t :: t' :: ts'') = t ++ ch '&' :: List.intercalate [ch '&'] (t' :: ts'') := by
        simp [List.intercalate]
      rw [hjoin, parseQsl_append, hone, ih hts']
      rfl

/-- **Pairs that are quoted and joined are read back.** -/
theorem parseQsl_quotePairs {params : List (PyStr × PyStr)} {q : PyStr} (h : quotePairs params = some q) :
    parseQsl q = params := by
  obtain ⟨ts, hts, rfl⟩ := Option.map_eq_some_iff.1 h
  exact parseQsl_intercalate hts

/-- What is written for pairs has no character that ends a query or is cleaned away. -/
theorem isPairChar_quotePairs {params : List (PyStr × PyStr)} {q : PyStr} (h : quotePairs params = some q) :
    ∀ c ∈ q, isPairChar c = true ∨ c = ch '&' := by
  obtain ⟨ts, hts, rfl⟩ := Option.map_eq_some_iff.1 h
  clear h
  induction params generalizing ts with
  | nil =>
    obtain rfl : [] = ts := Option.some.inj hts
    intro c hc
    cases hc
  | cons p ps ih =>
    obtain ⟨t, ts', ht, hts', rfl⟩ := mapM_quotePair_cons hts
    have hfirst := isPairChar_quotePair ht
    cases ts' with
    | nil =>
      intro c hc
      simp only [List.intercalate, List.intersperse, List.flatten_cons, List.flatten_nil, List.append_nil] at hc
      exact .inl (hfirst c hc)
    | cons t' ts'' =>
      have hjoin : List.intercalate [ch '&'] (t :: t' :: ts'') = t ++ ch '&' :: List.intercalate [ch '&'] (t' :: ts'') := by
        simp [List.intercalate]
      rw [hjoin]
      intro c hc
      rw [List.mem_append, List.mem_cons] at hc
      obtain hc | rfl | hc := hc
      · exact .inl (hfirst c hc)
      · exact .inr rfl
      · exact ih _ hts' c hc

end PyLib
