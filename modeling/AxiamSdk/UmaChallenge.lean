import Mathlib.Data.List.Induction
import AxiamSdk.Lib.AuthParams
import AxiamSdk.Lib.Dict
import AxiamSdk.Lib.Url

/-! # UMA challenges, written and parsed (`_oidc.py`)

The emitter puts its values between quotes; the parser splits the header at its commas before it looks for quotes.

* `umaParseChallenge`, `umaChallengeHeader`: the two halves.
* `header_params`: a reader of quoted strings finds the three values, commas included.
* `round_trip_iff`: the parser does exactly when no value has a comma. -/

namespace AxiamSdk.Uma
open PyLib
set_option autoImplicit false

/-! ## The two halves -/

/-- `UmaChallenge`, its ticket unwrapped. -/
structure UmaChallenge where
  realm : Option PyStr
  asUri : Option PyStr
  ticket : Option PyStr
  deriving DecidableEq

/-- `s.strip('"')` -/
def stripQuotes (s : PyStr) : PyStr :=
  ((s.dropWhile (· = ch '"')).reverse.dropWhile (· = ch '"')).reverse

/-- The key and the value of a part with an equals sign. -/
def fieldOf (part : PyStr) : Option (PyStr × PyStr) :=
  if part.contains (ch '=') then
    some (strip (Url.cut (ch '=') part).1, stripQuotes (strip (Url.cut (ch '=') part).2))
  else none

/-- The fields of the parts, the last of each key. -/
def fieldsOf (parts : List PyStr) : Dict PyStr PyStr :=
  parts.foldl (fun d part => match fieldOf part with
    | none => d
    | some (key, value) => d.set key value) .empty

/-- `uma_parse_challenge` -/
def umaParseChallenge (header : PyStr) : Option UmaChallenge :=
  let trimmed := strip header
  if (lit "UMA").isPrefixOf trimmed then
    let rest := trimmed.drop 3
    if rest.head?.any (fun c => !isSpace c) then none
    else
      let fields := fieldsOf (splitOn (ch ',') rest)
      some ⟨fields.get? (lit "realm"), fields.get? (lit "as_uri"), fields.get? (lit "ticket")⟩
  else none

/-- `uma_challenge_header` -/
def umaChallengeHeader (realm asUri ticket : PyStr) : PyStr :=
  lit "UMA realm=\"" ++ realm ++ lit "\", as_uri=\"" ++ asUri ++ lit "\", ticket=\"" ++ ticket ++ lit "\""

/-! ## The header -/

/-- What the emitter states. -/
def params (realm asUri ticket : PyStr) : AuthParams.Params :=
  [(lit "realm", realm), (lit "as_uri", asUri), (lit "ticket", ticket)]

/-- One parameter, with the blank before it. -/
def part (p : PyStr × PyStr) : PyStr := ch ' ' :: AuthParams.quotedParam p

theorem umaChallengeHeader_eq (realm asUri ticket : PyStr) :
    umaChallengeHeader realm asUri ticket = lit "UMA " ++ AuthParams.render (params realm asUri ticket) := by
  simp only [umaChallengeHeader, AuthParams.render, params, List.map_cons, List.map_nil, AuthParams.quotedParam,
    List.intercalate_cons_cons, List.intercalate_singleton, List.append_assoc]
  rfl

/-- What stands after the scheme. -/
def parts (realm asUri ticket : PyStr) : PyStr :=
  part (lit "realm", realm) ++ ch ',' :: (part (lit "as_uri", asUri) ++ ch ',' :: part (lit "ticket", ticket))

theorem umaChallengeHeader_parts (realm asUri ticket : PyStr) :
    umaChallengeHeader realm asUri ticket = lit "UMA" ++ parts realm asUri ticket := by
  simp only [umaChallengeHeader, parts, part, AuthParams.quotedParam, List.append_assoc, List.cons_append]
  rfl

theorem plain_param {name value : PyStr} (hne : name ≠ []) (hname : name.all AuthParams.isTchar = true)
    (hvalue : value.all AuthParams.isQdtext = true) : AuthParams.Plain (name, value) := ⟨hne, hname, hvalue⟩

/-- **The header is sound**: a reader of quoted strings has every value back. -/
theorem header_params {realm asUri ticket : PyStr} (hr : realm.all AuthParams.isQdtext = true)
    (ha : asUri.all AuthParams.isQdtext = true) (ht : ticket.all AuthParams.isQdtext = true) :
    ∃ list, umaChallengeHeader realm asUri ticket = lit "UMA " ++ list ∧
      AuthParams.parseParams list = some (params realm asUri ticket) := by
  refine ⟨_, umaChallengeHeader_eq realm asUri ticket, AuthParams.parseParams_render ?_ (List.cons_ne_nil _ _)⟩
  simp only [params, List.forall_mem_cons]
  refine ⟨plain_param (by decide) (by decide) hr, plain_param (by decide) (by decide) ha,
    plain_param (by decide) (by decide) ht, ?_⟩
  exact fun p hp => absurd hp List.not_mem_nil

theorem strip_header (realm asUri ticket : PyStr) :
    strip (umaChallengeHeader realm asUri ticket) = umaChallengeHeader realm asUri ticket := by
  refine strip_eq_self (fun c hc => ?_) (fun c hc => ?_)
  · obtain rfl : ch 'U' = c := Option.some.inj hc
    decide
  · rw [umaChallengeHeader, List.getLast?_append] at hc
    obtain rfl : ch '"' = c := Option.some.inj hc
    decide

/-- What the parser splits at the commas. -/
theorem parse_header (realm asUri ticket : PyStr) :
    let fields := fieldsOf (splitOn (ch ',') (parts realm asUri ticket))
    umaParseChallenge (umaChallengeHeader realm asUri ticket) =
      some ⟨fields.get? (lit "realm"), fields.get? (lit "as_uri"), fields.get? (lit "ticket")⟩ := by
  dsimp only
  rw [umaParseChallenge, strip_header, umaChallengeHeader_parts]
  rfl

/-! ## Values with a comma -/

theorem mem_of_mem_stripQuotes {c : CodePoint} {s : PyStr} (h : c ∈ stripQuotes s) : c ∈ s := by
  rw [stripQuotes, List.mem_reverse] at h
  have hinner := List.mem_reverse.1 ((List.dropWhile_sublist _).subset h)
  exact (List.dropWhile_sublist _).subset hinner

theorem mem_of_mem_strip {c : CodePoint} {s : PyStr} (h : c ∈ strip s) : c ∈ s := by
  rw [strip, List.mem_reverse] at h
  have hinner := List.mem_reverse.1 ((List.dropWhile_sublist _).subset h)
  exact (List.dropWhile_sublist _).subset hinner

theorem fieldOf_not_mem {c : CodePoint} {part key value : PyStr} (hpart : c ∉ part)
    (h : fieldOf part = some (key, value)) : c ∉ value := by
  rw [fieldOf] at h
  split at h
  · obtain ⟨-, rfl⟩ := Prod.mk.inj (Option.some.inj h)
    intro hmem
    have hcut := mem_of_mem_strip (mem_of_mem_stripQuotes hmem)
    exact hpart ((List.dropWhile_sublist _).subset (List.mem_of_mem_drop hcut))
  · cases h

/-- A value has no character that no part has. -/
theorem fieldsOf_not_mem {c : CodePoint} {parts : List PyStr} (hparts : ∀ part ∈ parts, c ∉ part) {key value : PyStr}
    (h : (fieldsOf parts).get? key = some value) : c ∉ value := by
  induction parts using List.reverseRecOn with
  | nil => cases h
  | append_singleton parts part ih =>
    have hpart : c ∉ part := hparts part (by simp)
    have hrest := ih fun p hp => hparts p (List.mem_append_left _ hp)
    rw [fieldsOf, List.foldl_concat, ← fieldsOf] at h
    cases hfield : fieldOf part with
    | none =>
      rw [hfield] at h
      exact hrest h
    | some p =>
      obtain ⟨key', value'⟩ := p
      rw [hfield] at h
      dsimp only at h
      rw [Dict.get?_set] at h
      split at h
      · obtain rfl := Option.some.inj h
        exact fieldOf_not_mem hpart hfield
      · exact hrest h

/-! ## Values without one -/

/-- No double quote, no backslash and no control character. -/
def Quotable (s : PyStr) : Prop :=
  ∀ c ∈ s, c ≠ ch '"' ∧ c ≠ ch '\\' ∧ ¬ (c.val < 0x20 ∨ (0x7F ≤ c.val ∧ c.val ≤ 0x9F))

/-- A name that the parser takes as it is. -/
structure IsKey (key : PyStr) : Prop where
  strip : strip key = key
  equals : ch '=' ∉ key

theorem stripQuotes_quoted {value : PyStr} (h : ch '"' ∉ value) :
    stripQuotes (ch '"' :: value ++ [ch '"']) = value := by
  have hdrop : ∀ l : PyStr, ch '"' ∉ l → l.dropWhile (· = ch '"') = l := by
    intro l hl
    cases l with
    | nil => rfl
    | cons c l =>
      rw [List.mem_cons, not_or] at hl
      rw [List.dropWhile_cons_of_neg (by simpa using Ne.symm hl.1)]
  rw [stripQuotes, List.cons_append, List.dropWhile_cons_of_pos (by simp)]
  cases hv : value with
  | nil => rfl
  | cons c rest =>
    rw [hv, List.mem_cons, not_or] at h
    rw [List.cons_append, List.dropWhile_cons_of_neg (by simpa using Ne.symm h.1), ← List.cons_append,
      List.reverse_append, List.reverse_singleton, List.singleton_append, List.dropWhile_cons_of_pos (by simp),
      hdrop _ (by rw [List.mem_reverse, List.mem_cons, not_or]; exact h), List.reverse_reverse]

theorem strip_blank (s : PyStr) : strip (ch ' ' :: s) = strip s := by
  rw [strip, List.dropWhile_cons_of_pos (by decide), ← strip]

theorem strip_quoted (value : PyStr) : strip (ch '"' :: value ++ [ch '"']) = ch '"' :: value ++ [ch '"'] := by
  refine strip_eq_self (fun c hc => ?_) (fun c hc => ?_)
  · obtain rfl : ch '"' = c := Option.some.inj hc
    decide
  · rw [List.getLast?_append] at hc
    obtain rfl : ch '"' = c := Option.some.inj hc
    decide

/-- A part as it is emitted. -/
theorem fieldOf_part {key value : PyStr} (hkey : IsKey key) (hvalue : ch '"' ∉ value) :
    fieldOf (part (key, value)) = some (key, value) := by
  have htext : part (key, value) = (ch ' ' :: key) ++ ch '=' :: (ch '"' :: value ++ [ch '"']) := by
    simp only [part, AuthParams.quotedParam, List.append_assoc, List.cons_append]
    rfl
  have hall : ∀ c ∈ ch ' ' :: key, decide (c ≠ ch '=') = true := by
    intro c hc
    refine decide_eq_true fun he => ?_
    rw [he, List.mem_cons] at hc
    exact hkey.equals (hc.resolve_left (by decide))
  have hcut : Url.cut (ch '=') (part (key, value)) = (ch ' ' :: key, ch '"' :: value ++ [ch '"']) := by
    rw [Url.cut, htext, List.takeWhile_append_of_pos hall, List.dropWhile_append_of_pos hall,
      List.takeWhile_cons_of_neg (by simp), List.dropWhile_cons_of_neg (by simp), List.append_nil]
    rfl
  have hcontains : (part (key, value)).contains (ch '=') = true := by
    rw [htext]
    simp
  rw [fieldOf, if_pos hcontains, hcut]
  dsimp only
  rw [strip_blank, hkey.strip, strip_quoted, stripQuotes_quoted hvalue]

theorem part_not_mem {key value : PyStr} (hkey : ch ',' ∉ key) (hvalue : ch ',' ∉ value) :
    ch ',' ∉ part (key, value) := by
  simp only [part, AuthParams.quotedParam, List.mem_cons, List.mem_append, not_or]
  exact ⟨by decide, ⟨⟨hkey, by decide⟩, hvalue⟩, by decide⟩

/-- **The round trip**: exactly the values without a comma come back. -/
theorem round_trip_iff {realm asUri ticket : PyStr} (hrealm : Quotable realm) (hasUri : Quotable asUri)
    (hticket : Quotable ticket) :
    umaParseChallenge (umaChallengeHeader realm asUri ticket) = some ⟨some realm, some asUri, some ticket⟩ ↔
      ch ',' ∉ realm ∧ ch ',' ∉ asUri ∧ ch ',' ∉ ticket := by
  have hparse := parse_header realm asUri ticket
  dsimp only at hparse
  rw [hparse]
  constructor
  · intro h
    have hfields := Option.some.inj h
    rw [UmaChallenge.mk.injEq] at hfields
    have hno : ∀ key value, (fieldsOf (splitOn (ch ',') (parts realm asUri ticket))).get? key = some value →
        ch ',' ∉ value :=
      fun key value => fieldsOf_not_mem (fun p hp => not_mem_of_mem_splitOn hp)
    exact ⟨hno _ _ hfields.1, hno _ _ hfields.2.1, hno _ _ hfields.2.2⟩
  · rintro ⟨hr, ha, ht⟩
    have hquote : ∀ {s : PyStr}, Quotable s → ch '"' ∉ s := fun hs hmem => (hs _ hmem).1 rfl
    rw [parts, splitOn_append (part_not_mem (by decide) hr), splitOn_append (part_not_mem (by decide) ha),
      splitOn_of_not_mem (part_not_mem (by decide) ht), fieldsOf, List.foldl_cons, List.foldl_cons, List.foldl_cons,
      List.foldl_nil, fieldOf_part ⟨by decide, by decide⟩ (hquote hrealm),
      fieldOf_part ⟨by decide, by decide⟩ (hquote hasUri), fieldOf_part ⟨by decide, by decide⟩ (hquote hticket)]
    dsimp only
    rw [Dict.get?_set_ne _ _ (show lit "ticket" ≠ lit "realm" by decide),
      Dict.get?_set_ne _ _ (show lit "as_uri" ≠ lit "realm" by decide), Dict.get?_set_self,
      Dict.get?_set_ne _ _ (show lit "ticket" ≠ lit "as_uri" by decide), Dict.get?_set_self, Dict.get?_set_self]

/-! ## An authorization server with a comma in its path -/

theorem quotable_of_all {s : PyStr}
    (h : s.all (fun c => c ≠ ch '"' ∧ c ≠ ch '\\' ∧ ¬ (c.val < 0x20 ∨ (0x7F ≤ c.val ∧ c.val ≤ 0x9F))) = true) :
    Quotable s := fun c hc => of_decide_eq_true (List.all_eq_true.1 h c hc)

theorem invoices_parsed : umaParseChallenge (umaChallengeHeader (lit "invoices") (lit "https://id.example") (lit "t-1")) =
    some ⟨some (lit "invoices"), some (lit "https://id.example"), some (lit "t-1")⟩ :=
  (round_trip_iff (quotable_of_all (by decide)) (quotable_of_all (by decide)) (quotable_of_all (by decide))).2
    ⟨by decide, by decide, by decide⟩

/-- `https://id.example/t,1` comes back as `https://id.example/t`. -/
theorem not_round_trip : ¬ ∀ realm asUri ticket : PyStr, Quotable realm → Quotable asUri → Quotable ticket →
    umaParseChallenge (umaChallengeHeader realm asUri ticket) = some ⟨some realm, some asUri, some ticket⟩ := by
  intro h
  have hback := h (lit "invoices") (lit "https://id.example/t,1") (lit "t-1") (quotable_of_all (by decide))
    (quotable_of_all (by decide)) (quotable_of_all (by decide))
  have hcut : umaParseChallenge (umaChallengeHeader (lit "invoices") (lit "https://id.example/t,1") (lit "t-1")) =
      some ⟨some (lit "invoices"), some (lit "https://id.example/t"), some (lit "t-1")⟩ := by decide
  rw [hcut] at hback
  exact absurd (Option.some.inj hback) (by decide)

end AxiamSdk.Uma
