import AxiamSdk.Lib.Query
import AxiamSdk.Lib.UrlText

/-! # URLs that are split, changed and written again

* `Whole`: what is true of the parts of every URL that was split; parts may be replaced as long as it stays true.
* `urlsplit_urlunsplit`: parts that are whole are written so that they are read back, up to the slash that a
  relative path gets behind a scheme that has an authority. -/

namespace PyLib.Url
set_option autoImplicit false

/-! ## The parts -/

/-- A tab or line break, which splitting deletes. -/
def isBreak (c : CodePoint) : Bool := c = ch '\t' || c = ch '\r' || c = ch '\n'

/-- The bracket checks of a network location. -/
def bracketsPass (checks : UrlChecks) (netloc : PyStr) : Bool :=
  netloc.contains (ch '[') == netloc.contains (ch ']') &&
    (!netloc.contains (ch '[') || checks.bracketedHost (cut (ch ']') (cut (ch '[') netloc).2).1)

/-- The network location is accepted. -/
def accepts (checks : UrlChecks) (netloc : PyStr) : Bool :=
  bracketsPass checks netloc && (netloc.isEmpty || netloc.all isAscii || checks.netloc netloc)

/-- The five parts of a text, accepted or not. -/
def partsOf (url : PyStr) : SplitResult :=
  let (scheme, rest) := splitScheme (clean url)
  let (netloc, rest) := authority rest
  let (rest, fragment) := cut (ch '#') rest
  let (path, query) := cut (ch '?') rest
  ⟨scheme, netloc, path, query, fragment⟩

theorem brackets_ite {α : Type} (opens closes host : Bool) (x : α) :
    (if opens ≠ closes then none else if opens && !host then none else some x) =
      if opens == closes && (!opens || host) then some x else none := by
  cases opens <;> cases closes <;> cases host <;> rfl

theorem splitNetloc_eq_ite (checks : UrlChecks) (url : PyStr) : splitNetloc checks url =
    if bracketsPass checks (authority url).1 then some (authority url) else none := by
  by_cases hslashes : ∃ rest, url = ch '/' :: ch '/' :: rest
  · obtain ⟨rest, rfl⟩ := hslashes
    rw [authority_slashes]
    simp only [splitNetloc, and_self, if_true]
    exact brackets_ite _ _ _ _
  · have hnil : bracketsPass checks [] = true := rfl
    rw [authority_plain hslashes, hnil, if_pos rfl]
    unfold splitNetloc
    split
    · split
      · next heq =>
        obtain ⟨rfl, rfl⟩ := heq
        exact absurd ⟨_, rfl⟩ hslashes
      · rfl
    · rfl

/-- Splitting gives the parts of the text, where the network location is accepted. -/
theorem urlsplit_eq_ite (checks : UrlChecks) (url : PyStr) : urlsplit checks url =
    if accepts checks (partsOf url).netloc then some (partsOf url) else none := by
  unfold urlsplit partsOf accepts
  dsimp only
  rw [splitNetloc_eq_ite]
  cases hbrackets : bracketsPass checks (authority (splitScheme (clean url)).2).1 with
  | false => rfl
  | true =>
    rw [if_pos rfl]
    dsimp only
    cases (authority (splitScheme (clean url)).2).1.isEmpty with
    | true => rfl
    | false =>
      cases (authority (splitScheme (clean url)).2).1.all isAscii with
      | true => rfl
      | false => cases checks.netloc (authority (splitScheme (clean url)).2).1 <;> rfl

theorem urlsplit_iff {checks : UrlChecks} {url : PyStr} {parts : SplitResult} :
    urlsplit checks url = some parts ↔ accepts checks (partsOf url).netloc = true ∧ partsOf url = parts := by
  rw [urlsplit_eq_ite]
  split
  · next h => simp [h]
  · next h => simp [h]

/-! ## Whole parts -/

/-- What the parts of a text are: the scheme is in lower case, every part ends where the next one begins, a path
behind a network location is rooted, and a text without scheme and network location is its own path. -/
structure Whole (r : SplitResult) : Prop where
  scheme : r.scheme = [] ∨ (IsScheme r.scheme ∧ lowerAscii r.scheme = r.scheme)
  netloc : ∀ c ∈ r.netloc, isDelimiter c = false
  path : ∀ c ∈ r.path, isMark c = false
  query : ch '#' ∉ r.query
  rooted : r.netloc ≠ [] → r.path = [] ∨ r.path.head? = some (ch '/')
  plain : r.scheme = [] → ¬ ∃ before rest, IsScheme before ∧ r.path = before ++ ch ':' :: rest
  head : r.scheme = [] → ∀ c, r.path.head? = some c → ¬ c.val ≤ 0x20
  clean : ∀ c ∈ r.scheme ++ r.netloc ++ r.path ++ r.query ++ r.fragment, isBreak c = false

theorem mem_clean {url : PyStr} {c : CodePoint} (h : c ∈ clean url) : isBreak c = false := by
  have hkept := (List.mem_filter.1 h).2
  rwa [Bool.not_eq_true'] at hkept

theorem head_clean {url : PyStr} {c : CodePoint} (h : (clean url).head? = some c) : ¬ c.val ≤ 0x20 := by
  unfold clean at h
  cases hdrop : url.dropWhile (fun c => decide (c.val ≤ 0x20)) with
  | nil =>
    rw [hdrop] at h
    cases h
  | cons d rest =>
    have hnot := List.head?_dropWhile_not (fun c : CodePoint => decide (c.val ≤ 0x20)) url
    rw [hdrop] at hnot
    have hd : ¬ d.val ≤ 0x20 := by simpa using hnot
    have hkept : (!(d = ch '\t' || d = ch '\r' || d = ch '\n')) = true := by
      rw [Bool.not_eq_true', ← Bool.not_eq_true]
      intro hbreak
      simp only [Bool.or_eq_true, decide_eq_true_eq] at hbreak
      apply hd
      obtain (rfl | rfl) | rfl := hbreak <;> decide
    rw [hdrop, List.filter_cons_of_pos (p := fun c => !(c = ch '\t' || c = ch '\r' || c = ch '\n')) hkept] at h
    obtain rfl := Option.some.inj h
    exact hd

theorem cut_parts (c : CodePoint) (s : PyStr) :
    c ∉ (cut c s).1 ∧ (∀ d ∈ (cut c s).1, d ∈ s) ∧ ∀ d ∈ (cut c s).2, d ∈ s := by
  unfold cut
  refine ⟨?_, ?_, ?_⟩
  · intro h
    have hne := List.mem_takeWhile_imp h
    simp at hne
  · intro d hd
    exact List.takeWhile_subset _ hd
  · intro d hd
    exact List.dropWhile_subset _ (List.mem_of_mem_drop hd)

theorem cut_of_not_mem {c : CodePoint} {s : PyStr} (h : c ∉ s) : cut c s = (s, []) := by
  have hall : ∀ d ∈ s, decide (d ≠ c) = true := by
    intro d hd
    refine decide_eq_true fun he => h ?_
    rwa [he] at hd
  unfold cut
  rw [List.takeWhile_eq_self_iff.2 hall, List.dropWhile_eq_nil_iff.2 hall]
  rfl

theorem mem_splitScheme {t : PyStr} {c : CodePoint} (h : c ∈ (splitScheme t).2) : c ∈ t := by
  unfold splitScheme at h
  dsimp only at h
  split at h
  · exact (cut_parts (ch ':') t).2.2 c h
  · exact h

theorem mem_authority {t : PyStr} {c : CodePoint} (h : c ∈ (authority t).1 ∨ c ∈ (authority t).2) : c ∈ t := by
  by_cases hslashes : ∃ rest, t = ch '/' :: ch '/' :: rest
  · obtain ⟨rest, rfl⟩ := hslashes
    rw [authority_slashes] at h
    refine List.mem_cons_of_mem _ (List.mem_cons_of_mem _ ?_)
    obtain h | h := h
    · exact List.takeWhile_subset _ h
    · exact List.dropWhile_subset _ h
  · rw [authority_plain hslashes] at h
    obtain h | h := h
    · cases h
    · exact h

theorem authority_netloc (t : PyStr) : ∀ c ∈ (authority t).1, isDelimiter c = false := by
  by_cases hslashes : ∃ rest, t = ch '/' :: ch '/' :: rest
  · obtain ⟨rest, rfl⟩ := hslashes
    rw [authority_slashes]
    intro c hc
    simpa using List.mem_takeWhile_imp hc
  · rw [authority_plain hslashes]
    intro c hc
    cases hc

/-- A path behind two slashes is empty or rooted. -/
theorem authority_rooted_path {t : PyStr} (h : ∃ rest, t = ch '/' :: ch '/' :: rest) :
    untilMark (authority t).2 = [] ∨ (untilMark (authority t).2).head? = some (ch '/') := by
  obtain ⟨rest, rfl⟩ := h
  rw [authority_slashes]
  cases hdrop : rest.dropWhile (fun c => !isDelimiter c) with
  | nil => exact .inl rfl
  | cons c tail =>
    have hnot := List.head?_dropWhile_not (fun c => !isDelimiter c) rest
    rw [hdrop] at hnot
    have hdelimiter : isDelimiter c = true := by simpa using hnot
    unfold untilMark
    rw [List.takeWhile_cons]
    split
    · next hkept =>
      right
      rw [Bool.not_eq_true'] at hkept
      unfold isDelimiter at hdelimiter
      unfold isMark at hkept
      simp only [Bool.or_eq_true, Bool.or_eq_false_iff, decide_eq_true_eq, decide_eq_false_iff_not] at hdelimiter hkept
      obtain (rfl | hq) | hf := hdelimiter
      · rfl
      · exact absurd hq hkept.1
      · exact absurd hf hkept.2
    · exact .inl rfl

theorem isScheme_not_break {s : PyStr} (h : IsScheme s) : ∀ c ∈ s, isBreak c = false := by
  intro c hc
  have hchar := List.all_eq_true.1 h.chars c hc
  rw [← Bool.not_eq_true]
  intro hbreak
  simp only [isBreak, Bool.or_eq_true, decide_eq_true_eq] at hbreak
  revert hchar
  obtain (rfl | rfl) | rfl := hbreak <;> decide

theorem splitScheme_fst (t : PyStr) :
    (splitScheme t).1 = [] ∨ (IsScheme (splitScheme t).1 ∧ lowerAscii (splitScheme t).1 = (splitScheme t).1) := by
  obtain h | ⟨h, -⟩ := splitScheme_cases t
  · exact .inr h
  · rw [h]
    exact .inl rfl

/-- A text that splits without a scheme is its own rest, and has none. -/
theorem splitScheme_nil {t : PyStr} (h : (splitScheme t).1 = []) :
    (splitScheme t).2 = t ∧ ¬ ∃ before rest, IsScheme before ∧ t = before ++ ch ':' :: rest := by
  obtain ⟨hscheme, -⟩ | ⟨hsplit, hnot⟩ := splitScheme_cases t
  · have hhead := hscheme.head
    rw [h] at hhead
    cases hhead
  · rw [hsplit]
    exact ⟨rfl, hnot⟩

theorem partsOf_path (url : PyStr) :
    (partsOf url).path = untilMark (authority (splitScheme (clean url)).2).2 := cut_cut _

theorem mem_untilMark {s : PyStr} {c : CodePoint} (h : c ∈ untilMark s) : isMark c = false := by
  simpa using List.mem_takeWhile_imp h

theorem head?_untilMark {s : PyStr} {c : CodePoint} (h : (untilMark s).head? = some c) : s.head? = some c := by
  unfold untilMark at h
  cases s with
  | nil => exact h
  | cons d s =>
    rw [List.takeWhile_cons] at h
    split at h
    · exact h
    · cases h

/-- Every character of a part is one of the cleaned text, or of the scheme. -/
theorem mem_partsOf {url : PyStr} {c : CodePoint}
    (h : c ∈ (partsOf url).netloc ++ (partsOf url).path ++ (partsOf url).query ++ (partsOf url).fragment) :
    c ∈ clean url := by
  refine mem_splitScheme (mem_authority ?_)
  have hrest : ∀ d ∈ (cut (ch '#') (authority (splitScheme (clean url)).2).2).1,
      d ∈ (authority (splitScheme (clean url)).2).2 := (cut_parts _ _).2.1
  simp only [List.mem_append] at h
  obtain ((h | h) | h) | h := h
  · exact .inl h
  · exact .inr (hrest c ((cut_parts _ _).2.1 c h))
  · exact .inr (hrest c ((cut_parts _ _).2.2 c h))
  · exact .inr ((cut_parts _ _).2.2 c h)

/-- **The parts of every text are whole.** -/
theorem whole_partsOf (url : PyStr) : Whole (partsOf url) := by
  constructor
  · exact splitScheme_fst (clean url)
  · exact authority_netloc _
  · intro c hc
    rw [partsOf_path] at hc
    exact mem_untilMark hc
  · intro hc
    exact (cut_parts _ _).1 ((cut_parts _ _).2.2 _ hc)
  · intro hne
    rw [partsOf_path]
    refine authority_rooted_path ?_
    by_contra hslashes
    refine hne ?_
    change (authority (splitScheme (clean url)).2).1 = []
    rw [authority_plain hslashes]
  · intro hscheme
    obtain ⟨hrest, hnone⟩ := splitScheme_nil hscheme
    rw [partsOf_path, hrest]
    by_cases hslashes : ∃ t, clean url = ch '/' :: ch '/' :: t
    · exact not_scheme_of_slash (authority_rooted_path hslashes)
    · rw [authority_plain hslashes]
      rintro ⟨before, rest, hbefore, heq⟩
      obtain ⟨t, ht⟩ := untilMark_append (clean url)
      refine hnone ⟨before, rest ++ t, hbefore, ?_⟩
      rw [ht, heq, List.append_assoc, List.cons_append]
  · intro hscheme c hc
    obtain ⟨hrest, -⟩ := splitScheme_nil hscheme
    rw [partsOf_path, hrest] at hc
    by_cases hslashes : ∃ t, clean url = ch '/' :: ch '/' :: t
    · obtain hnil | hslash := authority_rooted_path hslashes
      · rw [hnil] at hc
        cases hc
      · rw [hslash] at hc
        obtain rfl := Option.some.inj hc
        decide
    · rw [authority_plain hslashes] at hc
      exact head_clean (head?_untilMark hc)
  · intro c hc
    simp only [List.append_assoc] at hc
    rw [List.mem_append] at hc
    obtain hc | hc := hc
    · obtain hnil | ⟨hscheme, -⟩ := splitScheme_fst (clean url)
      · change c ∈ (splitScheme (clean url)).1 at hc
        rw [hnil] at hc
        cases hc
      · exact isScheme_not_break hscheme c hc
    · simp only [← List.append_assoc] at hc
      exact mem_clean (mem_partsOf hc)

/-! ## What is written -/

/-- The query and the fragment as `urlunsplit` writes them. -/
def tailOf (r : SplitResult) : PyStr :=
  (if r.query.isEmpty then [] else ch '?' :: r.query) ++ (if r.fragment.isEmpty then [] else ch '#' :: r.fragment)

/-- The path as it is read back: a relative one behind a scheme that has an authority gets a slash. -/
def rootedPath (r : SplitResult) : PyStr :=
  if r.netloc = [] ∧ r.scheme ∈ usesNetloc ∧ r.path ≠ [] ∧ r.path.head? ≠ some (ch '/') then ch '/' :: r.path
  else r.path

theorem urlunsplit_tail (r : SplitResult) :
    urlunsplit r = withScheme r.scheme (hierarchy r.scheme r.netloc r.path) ++ tailOf r := by
  have h : urlunsplit r = (if r.fragment.isEmpty then
      (if r.query.isEmpty then withScheme r.scheme (hierarchy r.scheme r.netloc r.path)
        else withScheme r.scheme (hierarchy r.scheme r.netloc r.path) ++ ch '?' :: r.query)
      else (if r.query.isEmpty then withScheme r.scheme (hierarchy r.scheme r.netloc r.path)
        else withScheme r.scheme (hierarchy r.scheme r.netloc r.path) ++ ch '?' :: r.query) ++ ch '#' :: r.fragment) := rfl
  rw [h, tailOf]
  cases r.query.isEmpty <;> cases r.fragment.isEmpty <;> simp

/-- Nothing, or text that begins with the mark of a query or fragment. -/
def IsTail (t : PyStr) : Prop := ∀ c, t.head? = some c → isMark c = true

theorem isTail_tailOf (r : SplitResult) : IsTail (tailOf r) := by
  intro c hc
  unfold tailOf at hc
  cases hq : r.query.isEmpty with
  | false =>
    rw [hq, if_neg Bool.false_ne_true, List.cons_append] at hc
    obtain rfl := Option.some.inj hc
    decide
  | true =>
    cases hf : r.fragment.isEmpty with
    | false =>
      rw [hq, hf, if_pos rfl, if_neg Bool.false_ne_true, List.nil_append] at hc
      obtain rfl := Option.some.inj hc
      decide
    | true =>
      rw [hq, hf, if_pos rfl, if_pos rfl] at hc
      cases hc

theorem isDelimiter_of_isMark {c : CodePoint} (h : isMark c = true) : isDelimiter c = true := by
  by_contra hnot
  rw [isMark_of_not_delimiter (Bool.eq_false_iff.2 hnot)] at h
  cases h

theorem takeWhile_netloc {netloc rest : PyStr} (hnetloc : ∀ c ∈ netloc, isDelimiter c = false)
    (hrest : ∀ c, rest.head? = some c → isDelimiter c = true) :
    (netloc ++ rest).takeWhile (fun c => !isDelimiter c) = netloc ∧
      (netloc ++ rest).dropWhile (fun c => !isDelimiter c) = rest := by
  have hall : ∀ c ∈ netloc, (!isDelimiter c) = true := fun c hc => by rw [hnetloc c hc]; rfl
  rw [List.takeWhile_append_of_pos hall, List.dropWhile_append_of_pos hall]
  cases rest with
  | nil => exact ⟨by rw [List.takeWhile_nil, List.append_nil], rfl⟩
  | cons c rest =>
    have hc : ¬ (!isDelimiter c) = true := by
      rw [hrest c rfl]
      decide
    rw [List.takeWhile_cons_of_neg (p := fun c => !isDelimiter c) hc,
      List.dropWhile_cons_of_neg (p := fun c => !isDelimiter c) hc, List.append_nil]
    exact ⟨rfl, rfl⟩

/-- The hierarchy is written with its slashes and a path that is empty or rooted, or it is the path alone. -/
theorem hierarchy_cases {r : SplitResult} (hr : Whole r) :
    (hierarchy r.scheme r.netloc r.path = lit "//" ++ r.netloc ++ rootedPath r ∧
        (rootedPath r = [] ∨ (rootedPath r).head? = some (ch '/'))) ∨
      (hierarchy r.scheme r.netloc r.path = r.path ∧ r.netloc = [] ∧ rootedPath r = r.path ∧
        ¬ ∃ rest, r.path = ch '/' :: ch '/' :: rest) := by
  by_cases hnetloc : r.netloc = []
  · rw [hnetloc, hierarchy_nil]
    unfold rootedPath
    by_cases hrooted : r.path ≠ [] ∧ r.path.head? ≠ some (ch '/')
    · have hdouble : r.path.take 2 ≠ lit "//" := by
        intro h
        obtain ⟨rest, hrest⟩ := (slashes_iff _).2 h
        rw [hrest] at hrooted
        exact hrooted.2 rfl
      by_cases hscheme : r.scheme ∈ usesNetloc
      · left
        rw [if_pos (.inl hscheme), if_pos hrooted, if_pos ⟨hnetloc, hscheme, hrooted⟩, List.append_nil]
        exact ⟨rfl, .inr rfl⟩
      · right
        rw [if_neg (not_or.2 ⟨hscheme, hdouble⟩), if_neg (fun h => hscheme h.2.1)]
        exact ⟨rfl, rfl, rfl, fun h => hdouble ((slashes_iff _).1 h)⟩
    · have hsame : ¬ (r.netloc = [] ∧ r.scheme ∈ usesNetloc ∧ r.path ≠ [] ∧ r.path.head? ≠ some (ch '/')) :=
        fun h => hrooted h.2.2
      rw [if_neg hrooted, if_neg hsame]
      by_cases hslashes : r.scheme ∈ usesNetloc ∨ r.path.take 2 = lit "//"
      · left
        rw [if_pos hslashes, List.append_nil]
        refine ⟨rfl, ?_⟩
        by_contra hnot
        rw [not_or] at hnot
        exact hrooted hnot
      · right
        rw [if_neg hslashes]
        rw [not_or] at hslashes
        exact ⟨rfl, rfl, rfl, fun h => hslashes.2 ((slashes_iff _).1 h)⟩
  · left
    have hpath := hr.rooted hnetloc
    have hsame : rootedPath r = r.path := if_neg fun h => hnetloc h.1
    have hne : r.netloc.isEmpty = false := by
      cases hcase : r.netloc with
      | nil => exact absurd hcase hnetloc
      | cons c netloc => rfl
    have hkept : (!r.path.isEmpty && decide (r.path.head? ≠ some (ch '/'))) = false := by
      obtain hnil | hslash := hpath
      · rw [hnil]
        rfl
      · rw [hslash]
        simp
    rw [hsame]
    refine ⟨?_, hpath⟩
    unfold hierarchy
    rw [hne, hkept, Bool.not_false, Bool.true_or, Bool.true_or, if_pos rfl, if_neg Bool.false_ne_true]

theorem authority_written {r : SplitResult} (hr : Whole r) {tail : PyStr} (htail : IsTail tail) :
    authority (hierarchy r.scheme r.netloc r.path ++ tail) = (r.netloc, rootedPath r ++ tail) := by
  obtain ⟨hwritten, hpath⟩ | ⟨hwritten, hnetloc, hsame, hslashes⟩ := hierarchy_cases hr
  · have hrest : ∀ c, (rootedPath r ++ tail).head? = some c → isDelimiter c = true := by
      intro c hc
      obtain hnil | hslash := hpath
      · rw [hnil, List.nil_append] at hc
        exact isDelimiter_of_isMark (htail c hc)
      · rw [List.head?_append, hslash] at hc
        obtain rfl := Option.some.inj hc
        decide
    obtain ⟨htake, hdrop⟩ := takeWhile_netloc hr.netloc hrest
    have hshape : lit "//" ++ r.netloc ++ rootedPath r ++ tail =
        ch '/' :: ch '/' :: (r.netloc ++ (rootedPath r ++ tail)) := by
      rw [List.append_assoc, List.append_assoc]
      rfl
    rw [hwritten, hshape, authority_slashes, htake, hdrop]
  · rw [hwritten, hnetloc, hsame]
    refine authority_plain ?_
    rintro ⟨rest, hrest⟩
    have hslash : isMark (ch '/') = false := by decide
    have hnot : ∀ rest', tail ≠ ch '/' :: rest' := by
      rintro rest' rfl
      have hmark := htail (ch '/') rfl
      rw [hslash] at hmark
      cases hmark
    cases hcase : r.path with
    | nil =>
      rw [hcase, List.nil_append] at hrest
      exact hnot _ hrest
    | cons c path =>
      rw [hcase, List.cons_append, List.cons.injEq] at hrest
      obtain ⟨rfl, hrest⟩ := hrest
      cases path with
      | nil =>
        rw [List.nil_append] at hrest
        exact hnot _ hrest
      | cons d path =>
        rw [List.cons_append, List.cons.injEq] at hrest
        obtain ⟨rfl, -⟩ := hrest
        exact hslashes ⟨path, hcase⟩

/-- Text with a mark or nothing behind it has the scheme that it has alone. -/
theorem not_scheme_append {s tail : PyStr} (htail : IsTail tail)
    (h : ¬ ∃ before rest, IsScheme before ∧ s = before ++ ch ':' :: rest) :
    ¬ ∃ before rest, IsScheme before ∧ s ++ tail = before ++ ch ':' :: rest := by
  rintro ⟨before, rest, hbefore, heq⟩
  have hcolon : isMark (ch ':') = false := by decide
  obtain ⟨mid, hs, hrest⟩ | ⟨mid, hb, hmid⟩ := List.append_eq_append_iff.1 heq.symm
  · cases mid with
    | nil =>
      rw [List.nil_append] at hrest
      have hmark := htail (ch ':') (by rw [← hrest]; rfl)
      rw [hcolon] at hmark
      cases hmark
    | cons c mid =>
      rw [List.cons_append, List.cons.injEq] at hrest
      obtain ⟨rfl, -⟩ := hrest
      exact h ⟨before, mid, hbefore, hs⟩
  · cases mid with
    | nil =>
      rw [List.nil_append] at hmid
      have hmark := htail (ch ':') (by rw [hmid]; rfl)
      rw [hcolon] at hmark
      cases hmark
    | cons c mid =>
      have hmark := htail c (by rw [hmid]; rfl)
      have hchar : isSchemeChar c = false := by
        unfold isMark at hmark
        simp only [Bool.or_eq_true, decide_eq_true_eq] at hmark
        obtain rfl | rfl := hmark <;> decide
      exact hbefore.not_mem hchar (by rw [hb]; simp)

theorem splitScheme_written {r : SplitResult} (hr : Whole r) {tail : PyStr} (htail : IsTail tail) :
    splitScheme (withScheme r.scheme (hierarchy r.scheme r.netloc r.path) ++ tail) =
      (r.scheme, hierarchy r.scheme r.netloc r.path ++ tail) := by
  unfold withScheme
  obtain hnil | ⟨hscheme, hlower⟩ := hr.scheme
  · rw [hnil, List.isEmpty_nil, if_pos rfl]
    refine splitScheme_of_not (not_scheme_append htail ?_)
    obtain ⟨hwritten, -⟩ | ⟨hwritten, -, -, -⟩ := hierarchy_cases hr
    · rw [hnil] at hwritten
      rw [hwritten]
      exact not_scheme_of_slash (.inr rfl)
    · rw [hnil] at hwritten
      rw [hwritten]
      exact hr.plain hnil
  · have hne : r.scheme.isEmpty = false := by
      cases hcase : r.scheme with
      | nil =>
        have hhead := hscheme.head
        rw [hcase] at hhead
        cases hhead
      | cons c scheme => rfl
    rw [hne, if_neg Bool.false_ne_true, List.append_assoc, List.cons_append, splitScheme_of_scheme hscheme, hlower]

theorem cut_tail {r : SplitResult} (hr : Whole r) : ∀ {path : PyStr}, (∀ c ∈ path, isMark c = false) →
    cut (ch '#') (path ++ tailOf r) =
        (path ++ (if r.query.isEmpty then [] else ch '?' :: r.query), r.fragment) ∧
      cut (ch '?') (path ++ (if r.query.isEmpty then [] else ch '?' :: r.query)) = (path, r.query) := by
  intro path hpath
  have hhash : ch '#' ∉ path := by
    intro h
    have hmark := hpath _ h
    revert hmark
    decide
  have hquestion : ch '?' ∉ path := by
    intro h
    have hmark := hpath _ h
    revert hmark
    decide
  have hquery : ch '#' ∉ path ++ (if r.query.isEmpty then [] else ch '?' :: r.query) := by
    rw [List.mem_append, not_or]
    refine ⟨hhash, ?_⟩
    split
    · exact List.not_mem_nil
    · rw [List.mem_cons, not_or]
      exact ⟨by decide, hr.query⟩
  constructor
  · unfold tailOf
    rw [← List.append_assoc]
    cases hf : r.fragment with
    | nil =>
      rw [List.isEmpty_nil, if_pos rfl, List.append_nil, cut_of_not_mem hquery]
    | cons c fragment =>
      rw [List.isEmpty_cons, if_neg Bool.false_ne_true, cut_append hquery]
  · cases hq : r.query with
    | nil => rw [List.isEmpty_nil, if_pos rfl, List.append_nil, cut_of_not_mem hquestion]
    | cons c query => rw [List.isEmpty_cons, if_neg Bool.false_ne_true, cut_append hquestion]

theorem rootedPath_mark {r : SplitResult} (hr : Whole r) : ∀ c ∈ rootedPath r, isMark c = false := by
  unfold rootedPath
  split
  · intro c hc
    rw [List.mem_cons] at hc
    obtain rfl | hc := hc
    · decide
    · exact hr.path c hc
  · exact hr.path

theorem clean_eq_self {s : PyStr} (hhead : ∀ c, s.head? = some c → ¬ c.val ≤ 0x20)
    (hall : ∀ c ∈ s, isBreak c = false) : clean s = s := by
  have hdrop : s.dropWhile (fun c => decide (c.val ≤ 0x20)) = s := by
    cases s with
    | nil => rfl
    | cons c s =>
      rw [List.dropWhile_cons_of_neg]
      rw [decide_eq_true_eq]
      exact hhead c rfl
  unfold clean
  rw [hdrop, List.filter_eq_self]
  intro c hc
  have hbreak := hall c hc
  unfold isBreak at hbreak
  rw [hbreak]
  rfl

theorem mem_written {r : SplitResult} {c : CodePoint} (h : c ∈ urlunsplit r) :
    c ∈ r.scheme ++ r.netloc ++ r.path ++ r.query ++ r.fragment ∨ c ∈ lit "/:?#" := by
  have hslash : ∀ d, d = ch '/' → d ∈ lit "/:?#" := by
    rintro d rfl
    decide
  rw [urlunsplit_tail] at h
  have hhierarchy : c ∈ hierarchy r.scheme r.netloc r.path →
      c ∈ r.scheme ++ r.netloc ++ r.path ++ r.query ++ r.fragment ∨ c ∈ lit "/:?#" := by
    intro hc
    unfold hierarchy at hc
    split at hc
    · simp only [List.mem_append] at hc
      obtain (hc | hc) | hc := hc
      · have hboth : c = ch '/' := by simpa [lit] using hc
        exact .inr (hslash c hboth)
      · simp [hc]
      · split at hc
        · rw [List.mem_cons] at hc
          obtain rfl | hc := hc
          · exact .inr (hslash _ rfl)
          · simp [hc]
        · simp [hc]
    · simp [hc]
  rw [List.mem_append] at h
  obtain h | h := h
  · unfold withScheme at h
    split at h
    · exact hhierarchy h
    · rw [List.mem_append, List.mem_cons] at h
      obtain h | rfl | h := h
      · simp [h]
      · exact .inr (by decide)
      · exact hhierarchy h
  · unfold tailOf at h
    rw [List.mem_append] at h
    obtain h | h := h
    · split at h
      · cases h
      · rw [List.mem_cons] at h
        obtain rfl | h := h
        · exact .inr (by decide)
        · simp [h]
    · split at h
      · cases h
      · rw [List.mem_cons] at h
        obtain rfl | h := h
        · exact .inr (by decide)
        · simp [h]

theorem head_written {r : SplitResult} (hr : Whole r) {c : CodePoint} (h : (urlunsplit r).head? = some c) :
    ¬ c.val ≤ 0x20 := by
  rw [urlunsplit_tail] at h
  obtain hnil | ⟨hscheme, -⟩ := hr.scheme
  · have hwith : withScheme r.scheme (hierarchy r.scheme r.netloc r.path) =
        hierarchy r.scheme r.netloc r.path := by
      rw [hnil]
      rfl
    rw [hwith] at h
    obtain ⟨hwritten, -⟩ | ⟨hwritten, -, -, -⟩ := hierarchy_cases hr
    · rw [hwritten] at h
      obtain rfl : ch '/' = c := Option.some.inj h
      decide
    · rw [hwritten, List.head?_append] at h
      cases hcase : r.path with
      | nil =>
        rw [hcase] at h
        have hmark := isTail_tailOf r c h
        unfold isMark at hmark
        simp only [Bool.or_eq_true, decide_eq_true_eq] at hmark
        obtain rfl | rfl := hmark <;> decide
      | cons d path =>
        rw [hcase] at h
        obtain rfl : d = c := Option.some.inj h
        exact hr.head hnil d (by rw [hcase]; rfl)
  · cases hcase : r.scheme with
    | nil =>
      have hhead := hscheme.head
      rw [hcase] at hhead
      cases hhead
    | cons d scheme =>
      rw [hcase] at h
      obtain rfl : d = c := Option.some.inj h
      have hletter := hscheme.head
      rw [hcase] at hletter
      have hd : isLetter d = true := by simpa using hletter
      have hval := of_decide_eq_true hd
      omega

/-- **Whole parts that are written are read back**, with a relative path rooted where the scheme has an
authority. -/
theorem partsOf_urlunsplit {r : SplitResult} (hr : Whole r) :
    partsOf (urlunsplit r) = { r with path := rootedPath r } := by
  have hclean : clean (urlunsplit r) = urlunsplit r := by
    refine clean_eq_self (fun c hc => head_written hr hc) fun c hc => ?_
    obtain h | h := mem_written hc
    · exact hr.clean c h
    · have hmarks : (lit "/:?#").all (fun c => !isBreak c) = true := by decide
      simpa using List.all_eq_true.1 hmarks c h
  have htail := isTail_tailOf r
  obtain ⟨hhash, hquestion⟩ := cut_tail hr (rootedPath_mark hr)
  unfold partsOf
  rw [hclean, urlunsplit_tail, splitScheme_written hr htail]
  dsimp only
  rw [authority_written hr htail]
  dsimp only
  rw [hhash]
  dsimp only
  rw [hquestion]

/-- **The round trip** of an accepted network location. -/
theorem urlsplit_urlunsplit {checks : UrlChecks} {r : SplitResult} (hr : Whole r)
    (haccepts : accepts checks r.netloc = true) :
    urlsplit checks (urlunsplit r) = some { r with path := rootedPath r } := by
  rw [urlsplit_iff, partsOf_urlunsplit hr]
  exact ⟨haccepts, rfl⟩

end PyLib.Url
