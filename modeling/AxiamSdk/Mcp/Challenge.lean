import AxiamSdk.Lib.AuthParams
import AxiamSdk.Mcp.Metadata

/-! # The parameters of a challenge (`_mcp.py`)

`bearer_challenge` pastes its values between quotes as they are.

* `givenParams`: the parameters that a call gives, in the order of the header.
* `bearerChallenge_eq`: an accepted call renders them, each one plain.
* `bearer_challenge_parses`: they read back, and the header has printable ASCII characters only. -/

namespace AxiamSdk.Mcp
open PyLib AuthParams
set_option autoImplicit false

/-! ## Characters -/

def isPrintable (c : CodePoint) : Bool := decide (0x20 ≤ c.val ∧ c.val ≤ 0x7E)

theorem isQdtext_of_isNqschar {c : CodePoint} (h : isNqschar c = true) : isQdtext c = true := by
  have hblank : (ch ' ').val = 32 := rfl
  simp only [isNqschar, isNqchar, Bool.or_eq_true, decide_eq_true_eq] at h
  simp only [isQdtext, isBlank, Bool.or_eq_true, decide_eq_true_eq, Fin.ext_iff]
  omega

theorem isPrintable_of_isNqschar {c : CodePoint} (h : isNqschar c = true) : isPrintable c = true := by
  simp only [isNqschar, isNqchar, Bool.or_eq_true, decide_eq_true_eq] at h
  simp only [isPrintable, decide_eq_true_eq]
  omega

theorem isPrintable_of_isTchar {c : CodePoint} (h : isTchar c = true) : isPrintable c = true := by
  simp only [isTchar, isLetter, Bool.or_eq_true, decide_eq_true_eq] at h
  simp only [isPrintable, decide_eq_true_eq]
  omega

theorem all_of_imp {p q : CodePoint → Bool} (hpq : ∀ c, p c = true → q c = true) {s : PyStr} (h : s.all p = true) :
    s.all q = true := by
  rw [List.all_eq_true] at h ⊢
  exact fun c hc => hpq c (h c hc)

theorem isNqschar_of_isNqchar {c : CodePoint} (h : isNqchar c = true) : isNqschar c = true := by
  rw [isNqschar, h, Bool.or_true]

/-- A text whose pieces between the separators are made of `p` is made of `p` and the separator. -/
theorem all_of_splitOnGo {sep : CodePoint} {p : CodePoint → Bool} (hsep : p sep = true) {acc s : PyStr}
    (h : ∀ piece ∈ splitOnGo sep acc s, piece.all p = true) : (acc.reverse ++ s).all p = true := by
  induction s generalizing acc with
  | nil => simpa [splitOnGo] using h
  | cons c s ih =>
    rw [splitOnGo] at h
    by_cases hc : c = sep
    · rw [if_pos hc, List.forall_mem_cons] at h
      have hrest : s.all p = true := ih h.2
      rw [List.all_append, List.all_cons, h.1, hc, hsep, hrest]
      rfl
    · rw [if_neg hc] at h
      have hrest := ih h
      rw [List.reverse_cons, List.append_assoc] at hrest
      exact hrest

/-! ## The parameters of a call -/

/-- The parameter of an argument that is not `None`. -/
def given (name : String) (value : Option PyStr) : Params := value.toList.map (fun v => (lit name, v))

/-- What a call gives, in the order of the header. -/
def givenParams (url : PyStr) (error errorDescription scope : Option PyStr) : Params :=
  given "error" error ++ given "error_description" errorDescription ++ given "scope" scope ++
    [(lit "resource_metadata", url)]

/-- A parameter that the header can carry as it is. -/
structure Clean (p : PyStr × PyStr) : Prop where
  name_ne : p.1 ≠ []
  name : p.1.all isTchar = true
  value : p.2.all isNqschar = true

theorem Clean.plain {p : PyStr × PyStr} (h : Clean p) : Plain p :=
  ⟨h.name_ne, h.name, all_of_imp (fun _ => isQdtext_of_isNqschar) h.value⟩

theorem Clean.printable {p : PyStr × PyStr} (h : Clean p) : (quotedParam p).all isPrintable = true := by
  have hname := all_of_imp (fun _ => isPrintable_of_isTchar) h.name
  have hvalue := all_of_imp (fun _ => isPrintable_of_isNqschar) h.value
  rw [quotedParam, List.all_append, List.all_append, List.all_append, hname, hvalue]
  decide

section Params
variable {repr : PyStr → PyStr} {url : PyStr} {error errorDescription scope : Option PyStr} {texts : List PyStr}

/-- The texts are those of clean parameters. -/
structure Texts (texts : List PyStr) (ps : Params) : Prop where
  eq : texts = ps.map quotedParam
  clean : ∀ p ∈ ps, Clean p

theorem Texts.append {texts' : List PyStr} {ps ps' : Params} (h : Texts texts ps) (h' : Texts texts' ps') :
    Texts (texts ++ texts') (ps ++ ps') := by
  refine ⟨?_, ?_⟩
  · rw [h.eq, h'.eq, List.map_append]
  · intro p hp
    rcases List.mem_append.1 hp with hp | hp
    · exact h.clean p hp
    · exact h'.clean p hp

theorem Texts.none (name : String) : Texts [] (given name none) := ⟨rfl, fun _ hp => absurd hp List.not_mem_nil⟩

theorem Texts.one {name : String} {value : PyStr} (hne : lit name ≠ []) (hname : (lit name).all isTchar = true)
    (hvalue : value.all isNqschar = true) : Texts [quoted (lit name) value] (given name (some value)) := by
  refine ⟨rfl, fun p hp => ?_⟩
  obtain rfl := List.mem_singleton.1 hp
  exact ⟨hne, hname, hvalue⟩

theorem errorParam_texts (h : errorParam repr error = .ok texts) : Texts texts (given "error" error) := by
  cases error with
  | none =>
    cases h
    exact Texts.none _
  | some e =>
    rw [errorParam] at h
    split at h
    · next hmem =>
      cases h
      refine Texts.one (by decide) (by decide) ?_
      simp only [bearerChallengeErrors, List.mem_cons, List.not_mem_nil, or_false] at hmem
      obtain rfl | rfl | rfl := hmem
      · decide
      · decide
      · decide
    · cases h

theorem descriptionParam_texts (h : descriptionParam errorDescription = .ok texts) :
    Texts texts (given "error_description" errorDescription) := by
  cases errorDescription with
  | none =>
    cases h
    exact Texts.none _
  | some description =>
    rw [descriptionParam] at h
    split at h
    · cases h
    · next hchars =>
      cases h
      simp only [Bool.or_eq_true, Bool.not_eq_true', not_or, Bool.not_eq_false] at hchars
      exact Texts.one (by decide) (by decide) hchars.2

theorem scopeParam_texts (h : scopeParam repr scope = .ok texts) : Texts texts (given "scope" scope) := by
  cases scope with
  | none =>
    cases h
    exact Texts.none _
  | some s =>
    rw [scopeParam] at h
    split at h
    · cases h
    · split at h
      · next htokens =>
        cases h
        refine Texts.one (by decide) (by decide) ?_
        rw [List.all_eq_true] at htokens
        have hspace : isNqschar (ch ' ') = true := by decide
        have htokens' : ∀ token ∈ splitOnGo (ch ' ') [] s, token.all isNqschar = true := by
          intro token htoken
          have htoken' := htokens token htoken
          rw [Bool.and_eq_true] at htoken'
          exact all_of_imp (fun _ => isNqschar_of_isNqchar) htoken'.2
        exact all_of_splitOnGo hspace htokens'
      · cases h

theorem challengeParams_texts (h : challengeParams repr error errorDescription scope = .ok texts) :
    Texts texts (given "error" error ++ given "error_description" errorDescription ++ given "scope" scope) := by
  obtain ⟨errors, herrors, h⟩ := bind_ok h
  obtain ⟨descriptions, hdescriptions, h⟩ := bind_ok h
  obtain ⟨scopes, hscopes, h⟩ := bind_ok h
  cases h
  exact ((errorParam_texts herrors).append (descriptionParam_texts hdescriptions)).append (scopeParam_texts hscopes)

/-- **An accepted call** renders what it was given. -/
theorem bearerChallenge_eq {header : PyStr} (h : bearerChallenge repr url error errorDescription scope = .ok header) :
    header = lit "Bearer " ++ render (givenParams url error errorDescription scope) ∧
      ∀ p ∈ givenParams url error errorDescription scope, Clean p := by
  obtain ⟨params, hparams, h⟩ := bind_ok h
  obtain ⟨uri, huri, h⟩ := bind_ok h
  split at h
  · next hchars =>
    have hurl : Texts [quoted (lit "resource_metadata") url] [(lit "resource_metadata", url)] :=
      Texts.one (by decide) (by decide) (all_of_imp (fun _ => isNqschar_of_isNqchar) hchars)
    have htexts := (challengeParams_texts hparams).append hurl
    cases h
    exact ⟨by rw [htexts.eq]; rfl, htexts.clean⟩
  · cases h

end Params

/-! ## Reading the header -/

theorem intercalate_all {q : CodePoint → Bool} {sep : PyStr} (hsep : sep.all q = true) {l : List PyStr}
    (h : ∀ s ∈ l, s.all q = true) : (sep.intercalate l).all q = true := by
  induction l with
  | nil => rfl
  | cons s l ih =>
    rw [List.forall_mem_cons] at h
    cases l with
    | nil => simpa using h.1
    | cons t l =>
      rw [List.intercalate_cons_cons, List.all_append, List.all_append, h.1, hsep, ih h.2]
      rfl

/-- **A challenge parses back** to what was given, and consists of printable ASCII characters. -/
theorem bearer_challenge_parses (repr : PyStr → PyStr) {url : PyStr} {error errorDescription scope : Option PyStr}
    {header : PyStr} (h : bearerChallenge repr url error errorDescription scope = .ok header) :
    (∃ list, header = lit "Bearer " ++ list ∧
      parseParams list = some (givenParams url error errorDescription scope)) ∧
    header.all isPrintable = true := by
  obtain ⟨heq, hclean⟩ := bearerChallenge_eq h
  refine ⟨⟨_, heq, parseParams_render (fun p hp => (hclean p hp).plain) ?_⟩, ?_⟩
  · rw [givenParams]
    exact List.append_ne_nil_of_right_ne_nil _ (List.cons_ne_nil _ _)
  · have hlist : (render (givenParams url error errorDescription scope)).all isPrintable = true := by
      refine intercalate_all (by decide) (fun s hs => ?_)
      obtain ⟨p, hp, rfl⟩ := List.mem_map.1 hs
      exact (hclean p hp).printable
    rw [heq, List.all_append, hlist]
    decide

theorem full_challenge_parses :
    ∃ list, lit "Bearer error=\"insufficient_scope\", error_description=\"more, please\", scope=\"a:b c\", " ++
      lit "resource_metadata=\"https://m/x?y\"" = lit "Bearer " ++ list ∧
      parseParams list = some (givenParams (lit "https://m/x?y") (some (lit "insufficient_scope"))
        (some (lit "more, please")) (some (lit "a:b c"))) :=
  (bearer_challenge_parses (fun s => s) (by decide +kernel)).1

end AxiamSdk.Mcp
