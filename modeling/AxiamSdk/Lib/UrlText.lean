import Mathlib.Data.List.TakeWhile
import AxiamSdk.Lib.Url

/-! # A URL without its query and fragment

What `urlunsplit` writes of a URL that `urlsplit` split, once query and fragment are left out.

* `untilMark`: the text before the first `?` or `#`; `bare_eq`: what is written depends on it alone.
* `bare_eq_iff`: two such texts are written alike exactly if they are `Alike`. -/

namespace PyLib.Url
set_option autoImplicit false

/-! ## The text before the query -/

def isMark (c : CodePoint) : Bool := c = ch '?' || c = ch '#'

/-- The text before the first `?` or `#`. -/
def untilMark (s : PyStr) : PyStr := s.takeWhile (fun c => !isMark c)

theorem cut_cut (s : PyStr) : (cut (ch '?') (cut (ch '#') s).1).1 = untilMark s := by
  unfold cut untilMark
  dsimp only
  rw [List.takeWhile_takeWhile]
  refine congrArg (fun p => List.takeWhile p s) (funext fun c => ?_)
  by_cases hq : c = ch '?' <;> by_cases hf : c = ch '#' <;> simp [isMark, hq, hf]

theorem untilMark_append (s : PyStr) : ∃ rest, s = untilMark s ++ rest :=
  ⟨_, List.takeWhile_append_dropWhile.symm⟩

theorem untilMark_append_of_all {before : PyStr} (h : ∀ c ∈ before, isMark c = false) (rest : PyStr) :
    untilMark (before ++ rest) = before ++ untilMark rest :=
  List.takeWhile_append_of_pos (fun c hc => by rw [h c hc]; rfl)

theorem dropWhile_untilMark {p : CodePoint → Bool} (hp : ∀ c, p c = true → isMark c = false) (s : PyStr) :
    (untilMark s).dropWhile p = untilMark (s.dropWhile p) := by
  unfold untilMark
  induction s with
  | nil => rfl
  | cons c s ih =>
    by_cases hc : p c = true
    · rw [List.takeWhile_cons_of_pos (by rw [hp c hc]; rfl), List.dropWhile_cons_of_pos hc,
        List.dropWhile_cons_of_pos hc]
      exact ih
    · rw [List.dropWhile_cons_of_neg hc]
      by_cases hmark : isMark c = true
      · rw [List.takeWhile_cons_of_neg (by simp [hmark])]
        rfl
      · rw [List.takeWhile_cons_of_pos (by simpa using hmark), List.dropWhile_cons_of_neg hc]

theorem filter_untilMark {p : CodePoint → Bool} (hp : ∀ c, p c = false → isMark c = false) (s : PyStr) :
    (untilMark s).filter p = untilMark (s.filter p) := by
  unfold untilMark
  induction s with
  | nil => rfl
  | cons c s ih =>
    by_cases hmark : isMark c = true
    · have hpc : p c = true := by
        by_contra hpc
        rw [hp c (by simpa using hpc)] at hmark
        cases hmark
      rw [List.takeWhile_cons_of_neg (by simp [hmark]), List.filter_cons_of_pos hpc,
        List.takeWhile_cons_of_neg (by simp [hmark])]
      rfl
    · have hkeep : (!isMark c) = true := by simpa using hmark
      rw [List.takeWhile_cons_of_pos (p := fun c => !isMark c) hkeep]
      by_cases hpc : p c = true
      · rw [List.filter_cons_of_pos hpc, List.filter_cons_of_pos hpc,
          List.takeWhile_cons_of_pos (p := fun c => !isMark c) hkeep, ih]
      · rw [List.filter_cons_of_neg hpc, List.filter_cons_of_neg hpc, ih]

theorem clean_untilMark (s : PyStr) : clean (untilMark s) = untilMark (clean s) := by
  unfold clean
  rw [dropWhile_untilMark, filter_untilMark]
  · intro c hc
    simp only [Bool.not_eq_false', Bool.or_eq_true, decide_eq_true_eq] at hc
    obtain (rfl | rfl) | rfl := hc <;> decide
  · intro c hc
    rw [decide_eq_true_eq] at hc
    unfold isMark
    rw [Bool.or_eq_false_iff]
    constructor
    · refine decide_eq_false fun h => ?_
      rw [h] at hc
      exact absurd hc (by decide)
    · refine decide_eq_false fun h => ?_
      rw [h] at hc
      exact absurd hc (by decide)

/-! ## The scheme -/

/-- A letter, and after it letters, digits and the marks of a scheme. -/
structure IsScheme (s : PyStr) : Prop where
  head : s.head?.any isLetter = true
  chars : s.all isSchemeChar = true

theorem IsScheme.not_mem {s : PyStr} (h : IsScheme s) {c : CodePoint} (hc : isSchemeChar c = false) : c ∉ s := by
  intro hmem
  rw [List.all_eq_true.1 h.chars c hmem] at hc
  cases hc

theorem takeWhile_colon {before : PyStr} (h : ch ':' ∉ before) (rest : PyStr) :
    (before ++ ch ':' :: rest).takeWhile (· ≠ ch ':') = before := by
  rw [List.takeWhile_append_of_pos, List.takeWhile_cons_of_neg, List.append_nil]
  · simp
  · intro c hc
    simpa using fun heq : c = ch ':' => h (heq ▸ hc)

theorem dropWhile_colon {before : PyStr} (h : ch ':' ∉ before) (rest : PyStr) :
    (before ++ ch ':' :: rest).dropWhile (· ≠ ch ':') = ch ':' :: rest := by
  rw [List.dropWhile_append_of_pos, List.dropWhile_cons_of_neg]
  · simp
  · intro c hc
    simpa using fun heq : c = ch ':' => h (heq ▸ hc)

theorem splitScheme_of_scheme {before : PyStr} (h : IsScheme before) (rest : PyStr) :
    splitScheme (before ++ ch ':' :: rest) = (lowerAscii before, rest) := by
  have hcolon : ch ':' ∉ before := h.not_mem (by decide)
  have hcontains : (before ++ ch ':' :: rest).contains (ch ':') = true := by simp
  unfold splitScheme cut
  rw [takeWhile_colon hcolon, dropWhile_colon hcolon]
  dsimp only
  rw [hcontains, h.head, h.chars]
  rfl

theorem splitScheme_of_not {t : PyStr} (h : ¬ ∃ before rest, IsScheme before ∧ t = before ++ ch ':' :: rest) :
    splitScheme t = ([], t) := by
  unfold splitScheme
  dsimp only
  split
  · next hcond =>
    rw [Bool.and_eq_true, Bool.and_eq_true] at hcond
    obtain ⟨⟨hcolon, hhead⟩, hchars⟩ := hcond
    have hne : t.dropWhile (· ≠ ch ':') ≠ [] := by
      intro hnil
      rw [List.dropWhile_eq_nil_iff] at hnil
      have hmem := hnil (ch ':') (by simpa using hcolon)
      simp at hmem
    obtain ⟨c, rest, hdrop⟩ := List.exists_cons_of_ne_nil hne
    have hc : c = ch ':' := by
      have hnot := List.head?_dropWhile_not (· ≠ ch ':') t
      rw [hdrop] at hnot
      simpa using hnot
    subst hc
    refine absurd ⟨_, rest, ⟨hhead, hchars⟩, ?_⟩ h
    rw [← hdrop]
    exact List.takeWhile_append_dropWhile.symm
  · rfl

theorem scheme_cases (t : PyStr) : (∃ before rest, IsScheme before ∧ t = before ++ ch ':' :: rest) ∨
    ¬ ∃ before rest, IsScheme before ∧ t = before ++ ch ':' :: rest := em _

theorem splitScheme_untilMark (t : PyStr) :
    splitScheme (untilMark t) = ((splitScheme t).1, untilMark (splitScheme t).2) := by
  obtain ⟨before, rest, h, rfl⟩ | hnot := scheme_cases t
  · have hplain : ∀ c ∈ before ++ [ch ':'], isMark c = false := by
      intro c hc
      obtain hc | hc := List.mem_append.1 hc
      · by_contra hmark
        rw [Bool.not_eq_false, isMark, Bool.or_eq_true, decide_eq_true_eq, decide_eq_true_eq] at hmark
        obtain rfl | rfl := hmark
        · exact h.not_mem (by decide) hc
        · exact h.not_mem (by decide) hc
      · obtain rfl := List.mem_singleton.1 hc
        decide
    have hcut : untilMark (before ++ ch ':' :: rest) = before ++ ch ':' :: untilMark rest := by
      have happend := untilMark_append_of_all hplain rest
      rwa [List.append_assoc, List.append_assoc] at happend
    rw [hcut, splitScheme_of_scheme h, splitScheme_of_scheme h]
  · rw [splitScheme_of_not hnot, splitScheme_of_not]
    rintro ⟨before, rest, h, heq⟩
    obtain ⟨tail, htail⟩ := untilMark_append t
    rw [heq, List.append_assoc] at htail
    exact hnot ⟨before, rest ++ tail, h, htail⟩

theorem lowerChar_spec : ∀ c : CodePoint, isSchemeChar c = true →
    isSchemeChar (lowerChar c) = true ∧ lowerChar (lowerChar c) = lowerChar c ∧
      (isLetter c = true → isLetter (lowerChar c) = true) := by
  intro c hc
  unfold lowerChar
  split
  · next h =>
    have hval : (Fin.ofNat 0x110000 (c.val + 32) : CodePoint).val = c.val + 32 :=
      Nat.mod_eq_of_lt (by omega)
    have hletter : isLetter (Fin.ofNat 0x110000 (c.val + 32)) = true := by
      unfold isLetter
      rw [hval, decide_eq_true_eq]
      omega
    refine ⟨?_, ?_, fun _ => hletter⟩
    · unfold isSchemeChar
      rw [hletter]
      rfl
    · rw [if_neg]
      rw [hval]
      omega
  · exact ⟨hc, rfl, id⟩

theorem IsScheme.lower {s : PyStr} (h : IsScheme s) :
    IsScheme (lowerAscii s) ∧ lowerAscii (lowerAscii s) = lowerAscii s := by
  have hchars := List.all_eq_true.1 h.chars
  refine ⟨⟨?_, ?_⟩, ?_⟩
  · cases s with
    | nil => exact h.head
    | cons c s => exact (lowerChar_spec c (hchars c List.mem_cons_self)).2.2 h.head
  · unfold lowerAscii
    rw [List.all_map, List.all_eq_true]
    exact fun c hc => (lowerChar_spec c (hchars c hc)).1
  · unfold lowerAscii
    rw [List.map_map]
    exact List.map_congr_left fun c hc => (lowerChar_spec c (hchars c hc)).2.1

/-! ## The authority -/

/-- The network location and the path; `splitNetloc` where it returns. -/
def authority (url : PyStr) : PyStr × PyStr :=
  match url with
  | a :: b :: rest =>
    if a = ch '/' ∧ b = ch '/' then
      (rest.takeWhile (fun c => !isDelimiter c), rest.dropWhile (fun c => !isDelimiter c))
    else ([], url)
  | _ => ([], url)

theorem authority_slashes (rest : PyStr) : authority (ch '/' :: ch '/' :: rest) =
    (rest.takeWhile (fun c => !isDelimiter c), rest.dropWhile (fun c => !isDelimiter c)) := by
  simp only [authority, and_self, if_true]

theorem authority_plain {url : PyStr} (h : ¬ ∃ rest, url = ch '/' :: ch '/' :: rest) : authority url = ([], url) := by
  unfold authority
  split
  · split
    · next hslashes =>
      obtain ⟨rfl, rfl⟩ := hslashes
      exact absurd ⟨_, rfl⟩ h
    · rfl
  · rfl

theorem splitNetloc_eq {checks : UrlChecks} {url : PyStr} {p : PyStr × PyStr}
    (h : splitNetloc checks url = some p) : p = authority url := by
  unfold splitNetloc at h
  split at h
  · split at h
    · next hslashes =>
      obtain ⟨rfl, rfl⟩ := hslashes
      rw [authority_slashes]
      dsimp only at h
      split at h
      · cases h
      · split at h
        · cases h
        · exact (Option.some.inj h).symm
    · next hslashes =>
      rw [authority_plain]
      · exact (Option.some.inj h).symm
      · rintro ⟨rest, hrest⟩
        simp only [List.cons.injEq] at hrest
        exact hslashes ⟨hrest.1, hrest.2.1⟩
  · next hshort =>
    rw [authority_plain]
    · exact (Option.some.inj h).symm
    · rintro ⟨rest, rfl⟩
      exact hshort _ _ rest rfl

theorem isMark_of_not_delimiter {c : CodePoint} (h : isDelimiter c = false) : isMark c = false := by
  unfold isDelimiter at h
  unfold isMark
  rw [Bool.or_eq_false_iff, Bool.or_eq_false_iff] at h
  rw [h.1.2, h.2]
  rfl

theorem takeWhile_untilMark (s : PyStr) :
    (untilMark s).takeWhile (fun c => !isDelimiter c) = s.takeWhile (fun c => !isDelimiter c) := by
  unfold untilMark
  rw [List.takeWhile_takeWhile]
  refine congrArg (fun p => List.takeWhile p s) (funext fun c => ?_)
  by_cases hd : isDelimiter c = true
  · simp [hd]
  · have hmark := isMark_of_not_delimiter (by simpa using hd)
    simp [hd, hmark]

theorem authority_untilMark (url : PyStr) :
    authority (untilMark url) = ((authority url).1, untilMark (authority url).2) := by
  by_cases hslashes : ∃ rest, url = ch '/' :: ch '/' :: rest
  · obtain ⟨rest, rfl⟩ := hslashes
    have hslash : (!isMark (ch '/')) = true := by decide
    have hcut : untilMark (ch '/' :: ch '/' :: rest) = ch '/' :: ch '/' :: untilMark rest := by
      unfold untilMark
      rw [List.takeWhile_cons_of_pos (p := fun c => !isMark c) hslash,
        List.takeWhile_cons_of_pos (p := fun c => !isMark c) hslash]
    rw [hcut, authority_slashes, authority_slashes, takeWhile_untilMark, dropWhile_untilMark]
    exact fun c hc => isMark_of_not_delimiter (by simpa using hc)
  · rw [authority_plain hslashes, authority_plain]
    rintro ⟨rest, hrest⟩
    obtain ⟨tail, htail⟩ := untilMark_append url
    rw [hrest] at htail
    exact hslashes ⟨rest ++ tail, htail⟩

/-! ## What is written -/

/-- The authority and the path as `urlunsplit` writes them. -/
def hierarchy (scheme netloc path : PyStr) : PyStr :=
  if !netloc.isEmpty || (!scheme.isEmpty && decide (scheme ∈ usesNetloc)) || decide (path.take 2 = lit "//") then
    lit "//" ++ netloc ++ (if !path.isEmpty && decide (path.head? ≠ some (ch '/')) then ch '/' :: path else path)
  else path

def withScheme (scheme rest : PyStr) : PyStr := if scheme.isEmpty then rest else scheme ++ ch ':' :: rest

theorem urlunsplit_eq (scheme netloc path : PyStr) :
    urlunsplit ⟨scheme, netloc, path, [], []⟩ = withScheme scheme (hierarchy scheme netloc path) := rfl

/-- What is written of the text after the scheme. -/
def written (scheme rest : PyStr) : PyStr := hierarchy scheme (authority rest).1 (authority rest).2

/-- What is written of a URL without its query and fragment. -/
def bare (url : PyStr) : PyStr :=
  withScheme (splitScheme (clean url)).1 (written (splitScheme (clean url)).1 (splitScheme (clean url)).2)

theorem bare_eq {checks : UrlChecks} {url : PyStr} {parts : SplitResult} (h : urlsplit checks url = some parts) :
    urlunsplit { parts with query := [], fragment := [] } = bare (untilMark url) := by
  unfold urlsplit at h
  dsimp only at h
  split at h
  · cases h
  · next netloc rest hsplit =>
    split at h
    · cases h
    · obtain rfl := Option.some.inj h
      have hauthority := splitNetloc_eq hsplit
      unfold bare written
      rw [clean_untilMark, splitScheme_untilMark, authority_untilMark, ← hauthority, cut_cut, urlunsplit_eq]

/-! ### The text that is written splits again -/

/-- The scheme of a text, in lower case, is a scheme; a text without one is not changed. -/
theorem splitScheme_cases (t : PyStr) :
    (IsScheme (splitScheme t).1 ∧ lowerAscii (splitScheme t).1 = (splitScheme t).1) ∨
    (splitScheme t = ([], t) ∧ ¬ ∃ before rest, IsScheme before ∧ t = before ++ ch ':' :: rest) := by
  obtain ⟨before, rest, h, rfl⟩ | hnot := scheme_cases t
  · rw [splitScheme_of_scheme h]
    exact .inl h.lower
  · exact .inr ⟨splitScheme_of_not hnot, hnot⟩

/-- No text with a scheme begins with a slash. -/
theorem not_scheme_of_slash {t : PyStr} (h : t = [] ∨ t.head? = some (ch '/')) :
    ¬ ∃ before rest, IsScheme before ∧ t = before ++ ch ':' :: rest := by
  rintro ⟨before, rest, hscheme, rfl⟩
  have hhead := hscheme.head
  cases before with
  | nil => cases hhead
  | cons c before =>
    obtain hnil | hslash := h
    · cases hnil
    · obtain rfl := Option.some.inj hslash
      have hletter : isLetter (ch '/') = false := by decide
      exact absurd (hletter.symm.trans hhead) Bool.false_ne_true

/-! ### Texts without an authority -/

/-- The text `rest` after the scheme names the path and no authority: as it is, after an empty authority,
or, for a scheme that has one, without the slash at its start. -/
structure NoAuthority (scheme path rest : PyStr) : Prop where
  single : path.take 2 ≠ lit "//"
  rooted : path = [] ∨ path.head? = some (ch '/')
  spelled : rest = path ∨ rest = lit "//" ++ path ∨ (scheme ∈ usesNetloc ∧ rest ≠ [] ∧ path = ch '/' :: rest)

/-- How all of them are written. -/
def rooted (scheme path : PyStr) : PyStr := if scheme ∈ usesNetloc then lit "//" ++ path else path

theorem hierarchy_nil (scheme path : PyStr) : hierarchy scheme [] path =
    if scheme ∈ usesNetloc ∨ path.take 2 = lit "//" then
      lit "//" ++ (if path ≠ [] ∧ path.head? ≠ some (ch '/') then ch '/' :: path else path)
    else path := by
  have hscheme : (!scheme.isEmpty && decide (scheme ∈ usesNetloc)) = decide (scheme ∈ usesNetloc) := by
    cases scheme with
    | nil => decide
    | cons c scheme => rfl
  unfold hierarchy
  rw [hscheme]
  simp only [List.isEmpty_nil, Bool.not_true, Bool.false_or, Bool.or_eq_true, decide_eq_true_eq, List.append_nil,
    Bool.and_eq_true, Bool.not_eq_true', List.isEmpty_eq_false_iff]

theorem hierarchy_rooted {path : PyStr} (hpath : path = [] ∨ path.head? = some (ch '/')) (scheme : PyStr) :
    hierarchy scheme [] path =
      if scheme ∈ usesNetloc ∨ path.take 2 = lit "//" then lit "//" ++ path else path := by
  rw [hierarchy_nil]
  have hnot : ¬ (path ≠ [] ∧ path.head? ≠ some (ch '/')) := by
    rintro ⟨hne, hhead⟩
    exact hpath.elim hne hhead
  rw [if_neg hnot]

theorem slashes_iff (t : PyStr) : (∃ rest, t = ch '/' :: ch '/' :: rest) ↔ t.take 2 = lit "//" := by
  have hlit : lit "//" = [ch '/', ch '/'] := rfl
  rw [hlit]
  constructor
  · rintro ⟨rest, rfl⟩
    rfl
  · intro h
    match t with
    | [] => cases h
    | [a] => cases h
    | a :: b :: rest =>
      simp only [List.take_succ_cons, List.take_zero, List.cons.injEq, and_true] at h
      exact ⟨rest, by rw [h.1, h.2]⟩

theorem authority_rooted {path : PyStr} (hpath : path = [] ∨ path.head? = some (ch '/')) :
    authority (lit "//" ++ path) = ([], path) := by
  have hlit : lit "//" ++ path = ch '/' :: ch '/' :: path := rfl
  rw [hlit, authority_slashes]
  cases path with
  | nil => rfl
  | cons c path =>
    obtain hnil | hslash := hpath
    · cases hnil
    · obtain rfl := Option.some.inj hslash
      rfl

theorem written_noAuthority {scheme path rest : PyStr} (h : NoAuthority scheme path rest) :
    written scheme rest = rooted scheme path := by
  unfold written rooted
  have hsingle : ¬ ∃ t, path = ch '/' :: ch '/' :: t := fun hs => h.single ((slashes_iff path).1 hs)
  have hboth : hierarchy scheme [] path = if scheme ∈ usesNetloc then lit "//" ++ path else path := by
    simp only [hierarchy_rooted h.rooted, or_iff_left h.single]
  obtain rfl | rfl | ⟨hscheme, hne, rfl⟩ := h.spelled
  · rw [authority_plain hsingle, hboth]
  · rw [authority_rooted h.rooted, hboth]
  · have hhead : rest.head? ≠ some (ch '/') := by
      intro hhead
      cases rest with
      | nil => exact hne rfl
      | cons c rest =>
        obtain rfl := Option.some.inj hhead
        exact hsingle ⟨rest, rfl⟩
    have hplain : ¬ ∃ t, rest = ch '/' :: ch '/' :: t := by
      rintro ⟨t, rfl⟩
      exact hhead rfl
    rw [authority_plain hplain, hierarchy_nil, if_pos (.inl hscheme), if_pos ⟨hne, hhead⟩, if_pos hscheme]

theorem authority_path {t : PyStr} (ht : untilMark t = t) :
    t.dropWhile (fun c => !isDelimiter c) = [] ∨
      (t.dropWhile (fun c => !isDelimiter c)).head? = some (ch '/') := by
  cases hdrop : t.dropWhile (fun c => !isDelimiter c) with
  | nil => exact .inl rfl
  | cons c rest =>
    right
    have hnot := List.head?_dropWhile_not (fun c => !isDelimiter c) t
    rw [hdrop] at hnot
    have hdelimiter : isDelimiter c = true := by simpa using hnot
    have hmem : c ∈ untilMark t := by
      rw [ht]
      exact List.dropWhile_subset _ (hdrop ▸ List.mem_cons_self)
    have hmark : isMark c = false := by
      simpa using List.mem_takeWhile_imp hmem
    unfold isDelimiter at hdelimiter
    unfold isMark at hmark
    simp only [Bool.or_eq_true, Bool.or_eq_false_iff, decide_eq_true_eq, decide_eq_false_iff_not] at hdelimiter hmark
    obtain (rfl | hq) | hf := hdelimiter
    · rfl
    · exact absurd hq hmark.1
    · exact absurd hf hmark.2

theorem written_cases (scheme : PyStr) {rest : PyStr} (hrest : untilMark rest = rest) :
    written scheme rest = rest ∨ ∃ path, NoAuthority scheme path rest := by
  by_cases hslashes : ∃ t, rest = ch '/' :: ch '/' :: t
  · obtain ⟨t, rfl⟩ := hslashes
    have ht : untilMark t = t := by
      have hslash : (!isMark (ch '/')) = true := by decide
      unfold untilMark at hrest ⊢
      rw [List.takeWhile_cons_of_pos (p := fun c => !isMark c) hslash,
        List.takeWhile_cons_of_pos (p := fun c => !isMark c) hslash] at hrest
      exact (List.cons.inj (List.cons.inj hrest).2).2
    have hpath := authority_path ht
    have happend : t.takeWhile (fun c => !isDelimiter c) ++ t.dropWhile (fun c => !isDelimiter c) = t :=
      List.takeWhile_append_dropWhile
    unfold written
    rw [authority_slashes]
    dsimp only
    cases hnetloc : t.takeWhile (fun c => !isDelimiter c) with
    | nil =>
      rw [hnetloc, List.nil_append] at happend
      rw [happend] at hpath ⊢
      by_cases hdouble : t.take 2 = lit "//"
      · left
        rw [hierarchy_rooted hpath, if_pos (.inr hdouble)]
        rfl
      · exact .inr ⟨t, hdouble, hpath, .inr (.inl rfl)⟩
    | cons c netloc =>
      left
      have hnot : ¬ (t.dropWhile (fun c => !isDelimiter c) ≠ [] ∧
          (t.dropWhile (fun c => !isDelimiter c)).head? ≠ some (ch '/')) := by
        rintro ⟨hne, hhead⟩
        exact hpath.elim hne hhead
      have hslash : (!(t.dropWhile (fun c => !isDelimiter c)).isEmpty &&
          decide ((t.dropWhile (fun c => !isDelimiter c)).head? ≠ some (ch '/'))) = false := by
        rw [← Bool.not_eq_true, Bool.and_eq_true, Bool.not_eq_true', List.isEmpty_eq_false_iff,
          decide_eq_true_eq]
        exact hnot
      unfold hierarchy
      rw [hslash]
      rw [hnetloc] at happend
      rw [List.isEmpty_cons, Bool.not_false, Bool.true_or, Bool.true_or, if_pos rfl, if_neg Bool.false_ne_true,
        List.append_assoc, happend]
      rfl
  · have hdouble : rest.take 2 ≠ lit "//" := fun h => hslashes ((slashes_iff rest).2 h)
    by_cases hscheme : scheme ∈ usesNetloc
    · right
      by_cases hrooted : rest = [] ∨ rest.head? = some (ch '/')
      · exact ⟨rest, hdouble, hrooted, .inl rfl⟩
      · rw [not_or] at hrooted
        refine ⟨ch '/' :: rest, ?_, .inr rfl, .inr (.inr ⟨hscheme, hrooted.1, rfl⟩)⟩
        intro h
        obtain ⟨t, ht⟩ := (slashes_iff _).2 h
        rw [(List.cons.inj ht).2] at hrooted
        exact hrooted.2 rfl
    · left
      unfold written
      rw [authority_plain hslashes, hierarchy_nil, if_neg (not_or.2 ⟨hscheme, hdouble⟩)]

/-- Equal, or two texts for one path without an authority. -/
def SameAuthority (scheme rest rest' : PyStr) : Prop :=
  rest = rest' ∨ ∃ path, NoAuthority scheme path rest ∧ NoAuthority scheme path rest'

theorem noAuthority_rooted {scheme path rest : PyStr} (h : NoAuthority scheme path rest) :
    NoAuthority scheme path (rooted scheme path) := by
  refine ⟨h.single, h.rooted, ?_⟩
  unfold rooted
  split
  · exact .inr (.inl rfl)
  · exact .inl rfl

theorem rooted_injective {scheme path path' : PyStr} (h : rooted scheme path = rooted scheme path') :
    path = path' := by
  unfold rooted at h
  split at h
  · exact List.append_cancel_left h
  · exact h

theorem written_eq_iff (scheme : PyStr) {rest rest' : PyStr} (hrest : untilMark rest = rest)
    (hrest' : untilMark rest' = rest') :
    written scheme rest = written scheme rest' ↔ SameAuthority scheme rest rest' := by
  constructor
  · intro heq
    obtain hkept | ⟨path, hpath⟩ := written_cases scheme hrest
    · obtain hkept' | ⟨path', hpath'⟩ := written_cases scheme hrest'
      · rw [hkept, hkept'] at heq
        exact .inl heq
      · rw [hkept, written_noAuthority hpath'] at heq
        exact .inr ⟨path', heq ▸ noAuthority_rooted hpath', hpath'⟩
    · obtain hkept' | ⟨path', hpath'⟩ := written_cases scheme hrest'
      · rw [hkept', written_noAuthority hpath] at heq
        exact .inr ⟨path, hpath, heq ▸ noAuthority_rooted hpath⟩
      · rw [written_noAuthority hpath, written_noAuthority hpath'] at heq
        obtain rfl := rooted_injective heq
        exact .inr ⟨path, hpath, hpath'⟩
  · rintro (rfl | ⟨path, hpath, hpath'⟩)
    · rfl
    · rw [written_noAuthority hpath, written_noAuthority hpath']

/-! ### Whole texts -/

/-- The same scheme, whatever its case was, and after it the same text or one path without an authority;
leading controls and spaces, tabs and line breaks aside. -/
def Alike (u v : PyStr) : Prop :=
  (splitScheme (clean u)).1 = (splitScheme (clean v)).1 ∧
    SameAuthority (splitScheme (clean u)).1 (splitScheme (clean u)).2 (splitScheme (clean v)).2

theorem rest_untilMark {u : PyStr} (hu : untilMark u = u) :
    untilMark (splitScheme (clean u)).2 = (splitScheme (clean u)).2 := by
  have hsplit := splitScheme_untilMark (clean u)
  rw [← clean_untilMark, hu] at hsplit
  exact (congrArg Prod.snd hsplit).symm

theorem splitScheme_bare {u : PyStr} (hu : untilMark u = u) : splitScheme (bare u) =
    ((splitScheme (clean u)).1, written (splitScheme (clean u)).1 (splitScheme (clean u)).2) := by
  unfold bare withScheme
  obtain ⟨hscheme, hlower⟩ | ⟨hnone, hnot⟩ := splitScheme_cases (clean u)
  · have hne : (splitScheme (clean u)).1.isEmpty = false := by
      cases hs : (splitScheme (clean u)).1 with
      | nil =>
        have hhead := hscheme.head
        rw [hs] at hhead
        cases hhead
      | cons c s => rfl
    rw [hne, if_neg Bool.false_ne_true, splitScheme_of_scheme hscheme, hlower]
  · have hrest : untilMark (clean u) = clean u := by rw [← clean_untilMark, hu]
    rw [hnone]
    refine splitScheme_of_not ?_
    change ¬ ∃ before rest, IsScheme before ∧ written [] (clean u) = before ++ ch ':' :: rest
    obtain hkept | ⟨path, hpath⟩ := written_cases [] hrest
    · rw [hkept]
      exact hnot
    · have hrooted : written [] (clean u) = path := written_noAuthority hpath
      rw [hrooted]
      exact not_scheme_of_slash hpath.rooted

/-- **Two texts are written alike** exactly if they are `Alike`. -/
theorem bare_eq_iff {u v : PyStr} (hu : untilMark u = u) (hv : untilMark v = v) : bare u = bare v ↔ Alike u v := by
  constructor
  · intro heq
    have hsplit := congrArg splitScheme heq
    rw [splitScheme_bare hu, splitScheme_bare hv, Prod.mk.injEq] at hsplit
    obtain ⟨hscheme, hwritten⟩ := hsplit
    rw [← hscheme] at hwritten
    exact ⟨hscheme, (written_eq_iff _ (rest_untilMark hu) (rest_untilMark hv)).1 hwritten⟩
  · rintro ⟨hscheme, hsame⟩
    unfold bare
    rw [(written_eq_iff _ (rest_untilMark hu) (rest_untilMark hv)).2 hsame, hscheme]

end PyLib.Url
