import AxiamSdk.Lib.UrlText

/-! # URI syntax (RFC 3986)

* `Authority.Reads`: a reading of an authority as userinfo, host and port.
* `UriRef.ofText`: the five components of a reference.
* `resolve`: a reference against a base; `resolve_path` for one that is an absolute path. -/

namespace PyLib.Rfc3986
open Url
set_option autoImplicit false

/-! ## Characters -/

def isDecimalDigit (c : CodePoint) : Bool := decide (48 ≤ c.val ∧ c.val ≤ 57)

/-- `unreserved` -/
def isUnreserved (c : CodePoint) : Bool :=
  isLetter c || isDecimalDigit c || c = ch '-' || c = ch '.' || c = ch '_' || c = ch '~'

/-- `sub-delims` -/
def isSubDelim (c : CodePoint) : Bool := (lit "!$&'()*+,;=").contains c

/-- A character of a `reg-name`: escapes count by their characters. -/
def isNameChar (c : CodePoint) : Bool := isUnreserved c || isSubDelim c || c = ch '%'

/-- A character of the userinfo, and of what stands between the brackets of an IP literal. -/
def isUserChar (c : CodePoint) : Bool := isNameChar c || c = ch ':'

theorem not_isUserChar_of_mem {c : CodePoint} (h : c ∈ lit "@[]/?#") : isUserChar c = false := by
  have hall : (lit "@[]/?#").all (fun c => !isUserChar c) = true := by decide
  simpa using List.all_eq_true.1 hall c h

theorem not_isNameChar_of_mem {c : CodePoint} (h : c ∈ lit ":@[]/?#") : isNameChar c = false := by
  have hall : (lit ":@[]/?#").all (fun c => !isNameChar c) = true := by decide
  simpa using List.all_eq_true.1 hall c h

/-! ## Authorities -/

/-- `[ userinfo "@" ] host [ ":" port ]` -/
structure Authority where
  userinfo : Option PyStr
  host : PyStr
  port : Option PyStr
  deriving DecidableEq

namespace Authority

def userPart (a : Authority) : PyStr := (a.userinfo.map (· ++ [ch '@'])).getD []

def portPart (a : Authority) : PyStr := (a.port.map (ch ':' :: ·)).getD []

/-- An IP literal between brackets, or a name; of an IP literal the characters alone are looked at. -/
def IsHost (host : PyStr) : Prop :=
  (∃ inside, host = ch '[' :: inside ++ [ch ']'] ∧ inside.all isUserChar = true) ∨ host.all isNameChar = true

/-- The text can be read as the authority. Every reading that the grammar has is one. -/
structure Reads (a : Authority) (text : PyStr) : Prop where
  text : text = a.userPart ++ a.host ++ a.portPart
  userinfo : ∀ u, a.userinfo = some u → u.all isUserChar = true
  host : IsHost a.host
  port : ∀ p, a.port = some p → p.all isDecimalDigit = true

theorem IsHost.not_mem_at {host : PyStr} (h : IsHost host) : ch '@' ∉ host := by
  intro hmem
  obtain ⟨inside, rfl, hinside⟩ | hname := h
  · simp only [List.mem_append, List.mem_cons, List.not_mem_nil, or_false] at hmem
    obtain (hat | hmem) | hat := hmem
    · exact absurd hat (by decide)
    · have hchar := List.all_eq_true.1 hinside _ hmem
      rw [not_isUserChar_of_mem (by decide)] at hchar
      cases hchar
    · exact absurd hat (by decide)
  · have hchar := List.all_eq_true.1 hname _ hmem
    rw [not_isNameChar_of_mem (by decide)] at hchar
    cases hchar

theorem Reads.not_mem_at {a : Authority} {text : PyStr} (h : a.Reads text) : ch '@' ∉ a.host ++ a.portPart := by
  rw [List.mem_append, not_or]
  refine ⟨h.host.not_mem_at, fun hmem => ?_⟩
  cases hp : a.port with
  | none =>
    rw [portPart, hp] at hmem
    cases hmem
  | some p =>
    rw [portPart, hp] at hmem
    obtain hat | hmem := List.mem_cons.1 hmem
    · exact absurd hat (by decide)
    · have hdigit := List.all_eq_true.1 (h.port p hp) _ hmem
      exact absurd hdigit (by decide)

end Authority

/-! ## References -/

/-- The components of a reference; a URI is one with a scheme. -/
structure UriRef where
  scheme : Option PyStr
  authority : Option PyStr
  path : PyStr
  query : Option PyStr
  fragment : Option PyStr
  deriving DecidableEq

/-- What is before the first `c`, and what is after it, if it is there. -/
def partitionAt (c : CodePoint) (s : PyStr) : PyStr × Option PyStr :=
  ((cut c s).1, if s.contains c then some (cut c s).2 else none)

def splitRefScheme (s : PyStr) : Option PyStr × PyStr :=
  let before := s.takeWhile (fun c => !(c = ch ':' || isDelimiter c))
  if !before.isEmpty && decide ((s.drop before.length).head? = some (ch ':')) then
    (some before, s.drop (before.length + 1))
  else (none, s)

def splitRefAuthority (s : PyStr) : Option PyStr × PyStr :=
  if s.take 2 = lit "//" then
    (some ((s.drop 2).takeWhile (fun c => !isDelimiter c)), (s.drop 2).dropWhile (fun c => !isDelimiter c))
  else (none, s)

/-- The components of a text, as the regular expression of RFC 3986 (appendix B) has them. -/
def UriRef.ofText (s : PyStr) : UriRef :=
  let (scheme, s) := splitRefScheme s
  let (authority, s) := splitRefAuthority s
  let (s, fragment) := partitionAt (ch '#') s
  let (path, query) := partitionAt (ch '?') s
  ⟨scheme, authority, path, query, fragment⟩

/-! ## Resolution -/

/-- The output without its last segment and the slash before it. -/
def dropLastSegment (out : PyStr) : PyStr := ((out.reverse.dropWhile (· ≠ ch '/')).drop 1).reverse

/-- The loop of `remove_dot_segments` (5.2.4), with its output and its input. Every round takes a character. -/
def removeDotsGo : ℕ → PyStr → PyStr → PyStr
  | 0, out, _ => out
  | fuel + 1, out, input =>
    if input = [] then out
    else if input.take 3 = lit "../" then removeDotsGo fuel out (input.drop 3)
    else if input.take 2 = lit "./" then removeDotsGo fuel out (input.drop 2)
    else if input.take 3 = lit "/./" then removeDotsGo fuel out (input.drop 2)
    else if input = lit "/." then removeDotsGo fuel out (lit "/")
    else if input.take 4 = lit "/../" then removeDotsGo fuel (dropLastSegment out) (input.drop 3)
    else if input = lit "/.." then removeDotsGo fuel (dropLastSegment out) (lit "/")
    else if input = lit "." ∨ input = lit ".." then out
    else
      let segment := input.take 1 ++ (input.drop 1).takeWhile (· ≠ ch '/')
      removeDotsGo fuel (out ++ segment) (input.drop segment.length)

/-- `remove_dot_segments` -/
def removeDotSegments (path : PyStr) : PyStr := removeDotsGo (path.length + 1) [] path

/-- `merge` (5.2.3) -/
def merge (base : UriRef) (path : PyStr) : PyStr :=
  if base.authority.isSome && base.path.isEmpty then ch '/' :: path
  else (base.path.reverse.dropWhile (· ≠ ch '/')).reverse ++ path

/-- The target of a reference (5.2.2). -/
def resolve (base r : UriRef) : UriRef :=
  if r.scheme.isSome then { r with path := removeDotSegments r.path }
  else if r.authority.isSome then { r with scheme := base.scheme, path := removeDotSegments r.path }
  else if r.path.isEmpty then
    ⟨base.scheme, base.authority, base.path, r.query.or base.query, r.fragment⟩
  else
    let path := if r.path.head? = some (ch '/') then r.path else merge base r.path
    ⟨base.scheme, base.authority, removeDotSegments path, r.query, r.fragment⟩

/-! ### Paths without dot segments -/

/-- No segment of the text is a dot or two. -/
def isDotFree (s : PyStr) : Bool := (splitOn (ch '/') s).all (fun seg => seg ≠ lit "." ∧ seg ≠ lit "..")

theorem mem_splitOn_of_take {seg s : PyStr} (hseg : ch '/' ∉ seg) (h : s.take (seg.length + 1) = seg ++ [ch '/']) :
    seg ∈ splitOn (ch '/') s := by
  have hs : s = seg ++ ch '/' :: s.drop (seg.length + 1) := by
    calc s = s.take (seg.length + 1) ++ s.drop (seg.length + 1) := (List.take_append_drop _ s).symm
      _ = _ := by rw [h, List.append_assoc]; rfl
  rw [hs, splitOn_append hseg]
  exact List.mem_cons_self

theorem isDotFree_ne {s seg : PyStr} (h : isDotFree s = true) (hseg : seg = lit "." ∨ seg = lit "..") :
    s ≠ seg ∧ s.take (seg.length + 1) ≠ seg ++ [ch '/'] := by
  have hslash : ch '/' ∉ seg := by
    obtain rfl | rfl := hseg
    · decide
    · decide
  have hno : seg ∉ splitOn (ch '/') s := by
    intro hmem
    have hne := List.all_eq_true.1 h seg hmem
    rw [decide_eq_true_eq] at hne
    obtain rfl | rfl := hseg
    · exact hne.1 rfl
    · exact hne.2 rfl
  refine ⟨?_, fun htake => hno (mem_splitOn_of_take hslash htake)⟩
  rintro rfl
  exact hno (by rw [splitOn_of_not_mem hslash]; exact List.mem_singleton_self _)

/-- The first segment is moved to the output. -/
theorem removeDotsGo_segment {fuel : ℕ} {out s : PyStr} (h : isDotFree s = true) :
    removeDotsGo (fuel + 1) out (ch '/' :: s) =
      removeDotsGo fuel (out ++ ch '/' :: s.takeWhile (· ≠ ch '/')) (s.dropWhile (· ≠ ch '/')) := by
  have hdot := isDotFree_ne h (.inl rfl)
  have hdots := isDotFree_ne h (.inr rfl)
  have hup : (ch '/' :: s).take 3 ≠ lit "../" := fun he => absurd (List.cons.inj he).1 (by decide)
  have hhere : (ch '/' :: s).take 2 ≠ lit "./" := fun he => absurd (List.cons.inj he).1 (by decide)
  have hdotSlash : (ch '/' :: s).take 3 ≠ lit "/./" := fun he => hdot.2 (List.cons.inj he).2
  have hdotEnd : ch '/' :: s ≠ lit "/." := fun he => hdot.1 (List.cons.inj he).2
  have hdotsSlash : (ch '/' :: s).take 4 ≠ lit "/../" := fun he => hdots.2 (List.cons.inj he).2
  have hdotsEnd : ch '/' :: s ≠ lit "/.." := fun he => hdots.1 (List.cons.inj he).2
  have halone : ¬ (ch '/' :: s = lit "." ∨ ch '/' :: s = lit "..") :=
    fun he => he.elim (fun he => absurd (List.cons.inj he).1 (by decide)) (fun he => absurd (List.cons.inj he).1 (by decide))
  have hdrop : (ch '/' :: s).drop (List.take 1 (ch '/' :: s) ++ (List.drop 1 (ch '/' :: s)).takeWhile (· ≠ ch '/')).length =
      s.dropWhile (· ≠ ch '/') := by
    rw [List.length_append, Nat.add_comm]
    show List.drop (s.takeWhile (· ≠ ch '/')).length s = _
    nth_rewrite 2 [← List.takeWhile_append_dropWhile (p := (· ≠ ch '/')) (l := s)]
    rw [List.drop_left]
  rw [removeDotsGo, if_neg (List.cons_ne_nil _ _), if_neg hup, if_neg hhere, if_neg hdotSlash, if_neg hdotEnd,
    if_neg hdotsSlash, if_neg hdotsEnd, if_neg halone]
  dsimp only
  rw [hdrop]
  rfl

theorem isDotFree_tail {s t : PyStr} (h : isDotFree s = true) (hdrop : s.dropWhile (· ≠ ch '/') = ch '/' :: t) :
    isDotFree t = true := by
  have hslash : ch '/' ∉ s.takeWhile (· ≠ ch '/') := by
    intro hmem
    have hne := List.mem_takeWhile_imp hmem
    exact absurd rfl (of_decide_eq_true hne)
  rw [← List.takeWhile_append_dropWhile (p := (· ≠ ch '/')) (l := s), hdrop, isDotFree, splitOn_append hslash,
    List.all_cons, Bool.and_eq_true] at h
  exact h.2

theorem removeDotsGo_of_isDotFree {fuel : ℕ} {out s : PyStr} (hfuel : s.length + 1 < fuel) (h : isDotFree s = true) :
    removeDotsGo fuel out (ch '/' :: s) = out ++ ch '/' :: s := by
  induction fuel generalizing out s with
  | zero => omega
  | succ fuel ih =>
    rw [removeDotsGo_segment h]
    have hsplit := List.takeWhile_append_dropWhile (p := (· ≠ ch '/')) (l := s)
    have hlength := congrArg List.length hsplit
    rw [List.length_append] at hlength
    cases hrest : s.dropWhile (· ≠ ch '/') with
    | nil =>
      rw [hrest, List.append_nil] at hsplit
      obtain ⟨n, rfl⟩ : ∃ n, fuel = n + 1 := ⟨fuel - 1, by omega⟩
      rw [removeDotsGo, if_pos rfl, hsplit]
    | cons c t =>
      obtain rfl : c = ch '/' := by
        have hhead := List.head?_dropWhile_not (· ≠ ch '/') s
        rw [hrest] at hhead
        simpa using hhead
      rw [hrest] at hsplit hlength
      rw [List.length_cons] at hlength
      rw [ih (by omega) (isDotFree_tail h hrest), List.append_assoc, List.cons_append, hsplit]

/-- A path without dot segments is left as it is. -/
theorem removeDotSegments_of_isDotFree {s : PyStr} (h : isDotFree s = true) :
    removeDotSegments (ch '/' :: s) = ch '/' :: s := removeDotsGo_of_isDotFree (by simp) h

theorem partitionAt_of_not_mem {c : CodePoint} {s : PyStr} (h : c ∉ s) : partitionAt c s = (s, none) := by
  have htake : s.takeWhile (· ≠ c) = s := by
    rw [List.takeWhile_eq_self_iff]
    intro x hx
    exact decide_eq_true (fun he => h (he ▸ hx))
  have hno : s.contains c = false := by
    rw [← Bool.not_eq_true, List.contains_iff_mem]
    exact h
  rw [partitionAt, cut, htake, hno]
  rfl

theorem splitRefAuthority_of_ne {s : PyStr} (h : s.take 2 ≠ lit "//") : splitRefAuthority s = (none, s) := if_neg h

/-- A path that starts with one slash is no more than a path. -/
theorem ofText_path {s : PyStr} (hslash : s.head? ≠ some (ch '/')) (hmarks : ∀ c ∈ s, isMark c = false) :
    UriRef.ofText (ch '/' :: s) = ⟨none, none, ch '/' :: s, none, none⟩ := by
  have hscheme : splitRefScheme (ch '/' :: s) = (none, ch '/' :: s) := rfl
  have hauthority : splitRefAuthority (ch '/' :: s) = (none, ch '/' :: s) := by
    refine splitRefAuthority_of_ne fun he => hslash ?_
    cases s with
    | nil => cases he
    | cons c s => exact congrArg some (List.cons.inj (List.cons.inj he).2).1
  have hno : ∀ c, isMark c = true → c ∉ ch '/' :: s := by
    intro c hc hmem
    obtain rfl | hmem := List.mem_cons.1 hmem
    · exact absurd hc (by decide)
    · rw [hmarks c hmem] at hc
      cases hc
  rw [UriRef.ofText, hscheme]
  dsimp only
  rw [hauthority]
  dsimp only
  rw [partitionAt_of_not_mem (hno _ (by decide))]
  dsimp only
  rw [partitionAt_of_not_mem (hno _ (by decide))]

/-- An absolute path replaces the path of the base, and takes its query and fragment away. -/
theorem resolve_path (base : UriRef) {s : PyStr} (h : isDotFree s = true) :
    resolve base ⟨none, none, ch '/' :: s, none, none⟩ = { base with path := ch '/' :: s, query := none, fragment := none } := by
  show UriRef.mk base.scheme base.authority (removeDotSegments (ch '/' :: s)) none none = _
  rw [removeDotSegments_of_isDotFree h]

end PyLib.Rfc3986
