import Mathlib.Data.List.TakeWhile
import AxiamSdk.Lib.Url

/-! # Absolute URIs (`_mcp.py`)

The refusals, the character classes and the URI rule that the metadata document and the challenges
share.

* `parseAbsoluteUri`: the pieces of `_ABSOLUTE_URI`, sliced out without normalisation.
* `parseAbsoluteUri_spell` and `spell_parse`: a URI without query and fragment is the spelling of
  its pieces, and only of them.
* `requireAbsoluteUri_ok_iff`: what the rule accepts. -/

namespace AxiamSdk.Mcp
open PyLib
set_option autoImplicit false

/-! ## Refusals -/

/-- A `FieldError`. -/
structure FieldError where
  field : PyStr
  message : PyStr
  deriving DecidableEq

/-- A `ValidationError`. -/
structure ValidationError where
  operation : PyStr
  status : ℕ
  message : PyStr
  fieldErrors : List FieldError
  deriving DecidableEq

/-- `_refuse` -/
def refuse (operation field message : PyStr) : ValidationError where
  operation := operation
  status := 400
  message := field ++ lit ": " ++ message ++ lit " (CONTRACT.md §28)"
  fieldErrors := [⟨field, message⟩]

/-! ## Character classes -/

def isNqchar (c : CodePoint) : Bool :=
  decide (c.val = 0x21 ∨ (0x23 ≤ c.val ∧ c.val ≤ 0x5B) ∨ (0x5D ≤ c.val ∧ c.val ≤ 0x7E))

def isNqschar (c : CodePoint) : Bool := decide (c.val = 0x20) || isNqchar c

theorem isAscii_of_isNqchar {c : CodePoint} (h : isNqchar c = true) : isAscii c = true := by
  simp only [isNqchar, decide_eq_true_eq] at h
  simp only [isAscii, decide_eq_true_eq]
  omega

theorem all_isAscii_of_isNqchar {s : PyStr} (h : s.all isNqchar = true) : s.all isAscii = true := by
  rw [List.all_eq_true] at h ⊢
  exact fun c hc => isAscii_of_isNqchar (h c hc)

/-! ## Parsing -/

/-- `_ParsedUri` -/
structure ParsedUri where
  scheme : PyStr
  authority : PyStr
  path : PyStr
  hasQuery : Bool
  hasFragment : Bool
  deriving DecidableEq

/-- A character of the path: neither `?` nor `#`. -/
def isPathChar (c : CodePoint) : Bool := !(decide (c = ch '?') || decide (c = ch '#'))

def isAuthorityChar (c : CodePoint) : Bool := !Url.isDelimiter c

/-- The path of what follows the authority, and whether a `?` and a `#` come after it. -/
def parseTail (scheme authority tail : PyStr) : ParsedUri :=
  let rest := tail.dropWhile isPathChar
  ⟨scheme, authority, tail.takeWhile isPathChar, rest.head? = some (ch '?'), rest.contains (ch '#')⟩

/-- `_parse_absolute_uri`: `scheme://authority[path][?query][#fragment]`. -/
def parseAbsoluteUri (raw : PyStr) : Option ParsedUri :=
  let scheme := raw.takeWhile Url.isSchemeChar
  let rest := raw.dropWhile Url.isSchemeChar
  if scheme.head?.any isLetter && decide (rest.take 3 = lit "://") then
    let authority := (rest.drop 3).takeWhile isAuthorityChar
    if authority.isEmpty then none
    else some (parseTail scheme authority ((rest.drop 3).dropWhile isAuthorityChar))
  else none

/-- The string that the pieces spell. -/
def spell (scheme authority path : PyStr) : PyStr := scheme ++ lit "://" ++ authority ++ path

/-- Pieces that a URI can have. -/
structure Pieces (scheme authority path : PyStr) : Prop where
  letter : scheme.head?.any isLetter = true
  schemeChars : scheme.all Url.isSchemeChar = true
  authority_ne : authority ≠ []
  authorityChars : authority.all isAuthorityChar = true
  pathChars : path.all isPathChar = true
  slash : path = [] ∨ path.head? = some (ch '/')

theorem takeWhile_append_of_stop {p : CodePoint → Bool} {s t : PyStr} (hs : s.all p = true)
    (ht : ∀ c, t.head? = some c → p c = false) : (s ++ t).takeWhile p = s := by
  rw [List.takeWhile_append_of_pos (List.all_eq_true.1 hs)]
  cases t with
  | nil => simp
  | cons c t => simp [ht c rfl]

theorem dropWhile_append_of_stop {p : CodePoint → Bool} {s t : PyStr} (hs : s.all p = true)
    (ht : ∀ c, t.head? = some c → p c = false) : (s ++ t).dropWhile p = t := by
  rw [List.dropWhile_append_of_pos (List.all_eq_true.1 hs)]
  cases t with
  | nil => rfl
  | cons c t => simp [ht c rfl]

theorem parseTail_path {scheme authority path : PyStr} (h : path.all isPathChar = true) :
    parseTail scheme authority path = ⟨scheme, authority, path, false, false⟩ := by
  have hstop : ∀ c, ([] : PyStr).head? = some c → isPathChar c = false := by simp
  have htake := takeWhile_append_of_stop h hstop
  have hdrop := dropWhile_append_of_stop h hstop
  rw [List.append_nil] at htake hdrop
  simp [parseTail, htake, hdrop]

theorem parseAbsoluteUri_spell {scheme authority path : PyStr} (h : Pieces scheme authority path) :
    parseAbsoluteUri (spell scheme authority path) = some ⟨scheme, authority, path, false, false⟩ := by
  have hraw : spell scheme authority path = scheme ++ (lit "://" ++ (authority ++ path)) := by
    simp only [spell, List.append_assoc]
  have hcolon : ∀ c, (lit "://" ++ (authority ++ path)).head? = some c → Url.isSchemeChar c = false := by
    intro c hc
    obtain rfl : ch ':' = c := Option.some.inj hc
    decide
  have hslash : ∀ c, path.head? = some c → isAuthorityChar c = false := by
    intro c hc
    obtain rfl | hpath := h.slash
    · cases hc
    · rw [hpath] at hc
      obtain rfl := Option.some.inj hc
      decide
  have htake : (spell scheme authority path).takeWhile Url.isSchemeChar = scheme := by
    rw [hraw]
    exact takeWhile_append_of_stop h.schemeChars hcolon
  have hdrop : (spell scheme authority path).dropWhile Url.isSchemeChar
      = lit "://" ++ (authority ++ path) := by
    rw [hraw]
    exact dropWhile_append_of_stop h.schemeChars hcolon
  have hauth := takeWhile_append_of_stop h.authorityChars hslash
  have hpath := dropWhile_append_of_stop h.authorityChars hslash
  have hthree : (lit "://" ++ (authority ++ path)).take 3 = lit "://" := rfl
  have hafter : (lit "://" ++ (authority ++ path)).drop 3 = authority ++ path := rfl
  have hne : authority.isEmpty = false := by simpa using h.authority_ne
  simp only [parseAbsoluteUri, htake, hdrop, h.letter, hthree, hafter, hauth, hpath, hne,
    parseTail_path h.pathChars, decide_true, Bool.and_true, if_true, Bool.false_eq_true, if_false]

theorem head?_dropWhile {p : CodePoint → Bool} {s : PyStr} {c : CodePoint}
    (h : (s.dropWhile p).head? = some c) : p c = false := by
  have hne : s.dropWhile p ≠ [] := by
    intro hnil
    rw [hnil] at h
    cases h
  have hc : (s.dropWhile p).head hne = c := by
    rw [List.head?_eq_some_head hne] at h
    exact Option.some.inj h
  rw [← hc]
  simpa using List.head_dropWhile_not p hne

theorem dropWhile_eq_nil {tail : PyStr} (hq : (tail.dropWhile isPathChar).head? ≠ some (ch '?'))
    (hf : (tail.dropWhile isPathChar).contains (ch '#') = false) : tail.dropWhile isPathChar = [] := by
  cases hrest : tail.dropWhile isPathChar with
  | nil => rfl
  | cons c rest =>
    have hc : isPathChar c = false := head?_dropWhile (s := tail) (by rw [hrest]; rfl)
    rw [hrest] at hq hf
    simp only [isPathChar, Bool.not_eq_false', Bool.or_eq_true, decide_eq_true_eq] at hc
    obtain rfl | rfl := hc
    · exact absurd rfl hq
    · simp at hf

theorem slash_of_dropWhile {s : PyStr} (h : (s.dropWhile isAuthorityChar).all isPathChar = true) :
    s.dropWhile isAuthorityChar = [] ∨ (s.dropWhile isAuthorityChar).head? = some (ch '/') := by
  cases htail : s.dropWhile isAuthorityChar with
  | nil => exact Or.inl rfl
  | cons c rest =>
    right
    have hc : isAuthorityChar c = false := head?_dropWhile (s := s) (by rw [htail]; rfl)
    rw [htail, List.all_cons, Bool.and_eq_true] at h
    simp only [isAuthorityChar, Url.isDelimiter, Bool.not_eq_false', Bool.or_eq_true,
      decide_eq_true_eq] at hc
    obtain (rfl | rfl) | rfl := hc
    · rfl
    · exact absurd h.1 (by decide)
    · exact absurd h.1 (by decide)

/-- A URI that parses without query and fragment is the spelling of its pieces. -/
theorem spell_of_parse {raw : PyStr} {uri : ParsedUri} (h : parseAbsoluteUri raw = some uri)
    (hq : uri.hasQuery = false) (hf : uri.hasFragment = false) :
    raw = spell uri.scheme uri.authority uri.path ∧ Pieces uri.scheme uri.authority uri.path := by
  simp only [parseAbsoluteUri] at h
  split at h
  · next hguard =>
    rw [Bool.and_eq_true, decide_eq_true_eq] at hguard
    obtain ⟨hletter, hthree⟩ := hguard
    split at h
    · cases h
    · next hauth =>
      obtain rfl := Option.some.inj h
      set rest := raw.dropWhile Url.isSchemeChar with hrest
      set tail := (rest.drop 3).dropWhile isAuthorityChar with htail
      simp only [parseTail, decide_eq_false_iff_not] at hq hf
      have hnil := dropWhile_eq_nil hq hf
      have hpath : tail.takeWhile isPathChar = tail := by
        have hsplit := List.takeWhile_append_dropWhile (p := isPathChar) (l := tail)
        rwa [hnil, List.append_nil] at hsplit
      have hchars : tail.all isPathChar = true := by
        rw [← hpath]
        exact List.all_takeWhile
      refine ⟨?_, ⟨hletter, List.all_takeWhile,
        fun hempty => hauth (List.isEmpty_iff.2 hempty), List.all_takeWhile, ?_, ?_⟩⟩
      · calc raw = raw.takeWhile Url.isSchemeChar ++ rest := List.takeWhile_append_dropWhile.symm
          _ = raw.takeWhile Url.isSchemeChar ++ (lit "://" ++ rest.drop 3) := by
            rw [← hthree, List.take_append_drop]
          _ = raw.takeWhile Url.isSchemeChar ++ (lit "://"
                ++ ((rest.drop 3).takeWhile isAuthorityChar ++ tail)) := by
            rw [htail, List.takeWhile_append_dropWhile]
          _ = _ := by simp only [parseTail, spell, hpath, List.append_assoc]
      · rw [parseTail, hpath]
        exact hchars
      · rw [parseTail, hpath]
        exact slash_of_dropWhile hchars
  · cases h

/-! ## The rule -/

/-- `_LOOPBACK_HOSTS` -/
def loopbackHosts : List PyStr := [lit "127.0.0.1", lit "[::1]", lit "localhost"]

/-- `_host_of` -/
def hostOf (authority : PyStr) : PyStr :=
  let hostport := (authority.reverse.takeWhile (· ≠ ch '@')).reverse
  if hostport.head? = some (ch '[') then
    if hostport.contains (ch ']') then hostport.takeWhile (· ≠ ch ']') ++ [ch ']'] else hostport
  else hostport.takeWhile (· ≠ ch ':')

/-- `_UriPolicy` -/
structure UriPolicy where
  allowQuery : Bool
  allowFragment : Bool

/-- `_IDENTIFIER` -/
def identifier : UriPolicy := ⟨false, false⟩

/-- `_LOCATOR` -/
def locator : UriPolicy := ⟨true, true⟩

/-- The scheme is one that a URI with this authority may have. -/
def secure (uri : ParsedUri) : Bool :=
  let scheme := lowerAscii uri.scheme
  decide (scheme = lit "https")
    || decide (scheme = lit "http") && decide (lowerAscii (hostOf uri.authority) ∈ loopbackHosts)

section
variable (repr : PyStr → PyStr)

/-- `_require_absolute_uri` -/
def requireAbsoluteUri (operation field raw : PyStr) (policy : UriPolicy) :
    Except ValidationError ParsedUri :=
  if raw.isEmpty then .error (refuse operation field (lit "must be a non-empty absolute URI"))
  else match parseAbsoluteUri raw with
    | none =>
      .error (refuse operation field
        (lit "must be an absolute URI with a scheme and an authority, not " ++ repr raw))
    | some parsed =>
      if parsed.hasQuery && !policy.allowQuery then
        .error (refuse operation field
          (lit "must carry no query — §28.3 derives the metadata path from it"))
      else if parsed.hasFragment && !policy.allowFragment then
        .error (refuse operation field (lit "must carry no fragment"))
      else if secure parsed then .ok parsed
      else .error (refuse operation field
        (lit "must use https — http is accepted only on 127.0.0.1, [::1] or localhost, and "
          ++ repr raw ++ lit " is neither"))

end

variable {repr : PyStr → PyStr} {operation field raw : PyStr} {policy : UriPolicy} {uri : ParsedUri}

/-- The rule returns the parse of a URI that keeps the policy and is secure. -/
theorem requireAbsoluteUri_ok_iff :
    requireAbsoluteUri repr operation field raw policy = .ok uri ↔
      parseAbsoluteUri raw = some uri ∧ (uri.hasQuery && !policy.allowQuery) = false
        ∧ (uri.hasFragment && !policy.allowFragment) = false ∧ secure uri = true := by
  cases hraw : raw.isEmpty with
  | true =>
    obtain rfl := List.isEmpty_iff.1 hraw
    constructor
    · intro h
      cases h
    · rintro ⟨h, -⟩
      cases h
  | false =>
    simp only [requireAbsoluteUri, hraw, Bool.false_eq_true, if_false]
    cases hp : parseAbsoluteUri raw with
    | none => simp
    | some parsed =>
      dsimp only
      split
      · next hq =>
        refine ⟨nofun, ?_⟩
        rintro ⟨h, hq', -⟩
        obtain rfl := Option.some.inj h
        rw [hq] at hq'
        cases hq'
      · next hq =>
        split
        · next hf =>
          refine ⟨nofun, ?_⟩
          rintro ⟨h, -, hf', -⟩
          obtain rfl := Option.some.inj h
          rw [hf] at hf'
          cases hf'
        · next hf =>
          split
          · next hs =>
            constructor
            · intro h
              obtain rfl := Except.ok.inj h
              exact ⟨rfl, eq_false_of_ne_true hq, eq_false_of_ne_true hf, hs⟩
            · rintro ⟨h, -⟩
              rw [Option.some.inj h]
          · next hs =>
            refine ⟨nofun, ?_⟩
            rintro ⟨h, -, -, hs'⟩
            obtain rfl := Option.some.inj h
            exact absurd hs' hs

theorem requireAbsoluteUri_error {e : ValidationError}
    (h : requireAbsoluteUri repr operation field raw policy = .error e) :
    ∃ message, e = refuse operation field message := by
  unfold requireAbsoluteUri at h
  split at h
  · exact ⟨_, (Except.error.inj h).symm⟩
  · cases hp : parseAbsoluteUri raw with
    | none =>
      rw [hp] at h
      exact ⟨_, (Except.error.inj h).symm⟩
    | some parsed =>
      rw [hp] at h
      dsimp only at h
      split at h
      · exact ⟨_, (Except.error.inj h).symm⟩
      · split at h
        · exact ⟨_, (Except.error.inj h).symm⟩
        · split at h
          · cases h
          · exact ⟨_, (Except.error.inj h).symm⟩

end AxiamSdk.Mcp
