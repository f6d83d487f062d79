import AxiamSdk.Lib.Text

/-! # Authentication parameters (RFC 7235)

A list of `name=value` with commas between, each value a token or a quoted string.

* `parseParams`: reads a list, character by character.
* `render`: a list with every value between quotes, none of them escaped.
* `parseParams_render`: it reads back if the names are tokens and no value needs an escape. -/

namespace PyLib.AuthParams
set_option autoImplicit false

/-! ## Characters -/

def isTchar (c : CodePoint) : Bool :=
  isLetter c || decide (48 ≤ c.val ∧ c.val ≤ 57) ||
    decide (c.val = 0x21 ∨ (0x23 ≤ c.val ∧ c.val ≤ 0x27) ∨ c.val = 0x2A ∨ c.val = 0x2B ∨ c.val = 0x2D ∨ c.val = 0x2E ∨
      (0x5E ≤ c.val ∧ c.val ≤ 0x60) ∨ c.val = 0x7C ∨ c.val = 0x7E)

def isBlank (c : CodePoint) : Bool := decide (c = ch ' ') || decide (c.val = 9)

/-- A character of a quoted string that stands for itself: neither the quote nor the backslash. -/
def isQdtext (c : CodePoint) : Bool :=
  isBlank c || decide (c.val = 0x21 ∨ (0x23 ≤ c.val ∧ c.val ≤ 0x5B) ∨ (0x5D ≤ c.val ∧ c.val ≤ 0x7E) ∨
    (0x80 ≤ c.val ∧ c.val ≤ 0xFF))

/-- A character that may follow a backslash. -/
def isEscapable (c : CodePoint) : Bool :=
  isBlank c || decide ((0x21 ≤ c.val ∧ c.val ≤ 0x7E) ∨ (0x80 ≤ c.val ∧ c.val ≤ 0xFF))

/-! ## Reading -/

/-- What the reader is in: before a parameter, in its name, at the equals sign, in its value, or after it. -/
inductive State
  | between
  | name (name : PyStr)
  | afterName (name : PyStr)
  | beforeValue (name : PyStr)
  | token (name value : PyStr)
  | quoted (name value : PyStr)
  | escaped (name value : PyStr)
  | afterValue
  deriving DecidableEq

abbrev Params := List (PyStr × PyStr)

/-- One character, with the parameters that are complete. -/
def step : State × Params → CodePoint → Option (State × Params)
  | (.between, ps), c =>
    if isTchar c then some (.name [c], ps)
    else if isBlank c || c = ch ',' then some (.between, ps)
    else none
  | (.name n, ps), c =>
    if isTchar c then some (.name (n ++ [c]), ps)
    else if c = ch '=' then some (.beforeValue n, ps)
    else if isBlank c then some (.afterName n, ps)
    else none
  | (.afterName n, ps), c =>
    if c = ch '=' then some (.beforeValue n, ps) else if isBlank c then some (.afterName n, ps) else none
  | (.beforeValue n, ps), c =>
    if c = ch '"' then some (.quoted n [], ps)
    else if isTchar c then some (.token n [c], ps)
    else if isBlank c then some (.beforeValue n, ps)
    else none
  | (.token n v, ps), c =>
    if isTchar c then some (.token n (v ++ [c]), ps)
    else if c = ch ',' then some (.between, ps ++ [(n, v)])
    else if isBlank c then some (.afterValue, ps ++ [(n, v)])
    else none
  | (.quoted n v, ps), c =>
    if c = ch '"' then some (.afterValue, ps ++ [(n, v)])
    else if c = ch '\\' then some (.escaped n v, ps)
    else if isQdtext c then some (.quoted n (v ++ [c]), ps)
    else none
  | (.escaped n v, ps), c => if isEscapable c then some (.quoted n (v ++ [c]), ps) else none
  | (.afterValue, ps), c =>
    if c = ch ',' then some (.between, ps) else if isBlank c then some (.afterValue, ps) else none

def run (s : State × Params) (text : PyStr) : Option (State × Params) := text.foldlM step s

/-- The parameters at the end of the text. -/
def finish : State × Params → Option Params
  | (.between, ps) | (.afterValue, ps) => some ps
  | (.token n v, ps) => some (ps ++ [(n, v)])
  | _ => none

def parseParams (text : PyStr) : Option Params := (run (.between, []) text).bind finish

/-! ## Writing -/

/-- `name="value"` -/
def quotedParam (p : PyStr × PyStr) : PyStr := p.1 ++ lit "=\"" ++ p.2 ++ lit "\""

def render (ps : Params) : PyStr := (lit ", ").intercalate (ps.map quotedParam)

/-- The name is a token, and the value can stand between quotes as it is. -/
structure Plain (p : PyStr × PyStr) : Prop where
  name_ne : p.1 ≠ []
  name : p.1.all isTchar = true
  value : p.2.all isQdtext = true

theorem run_cons {s t : State × Params} {c : CodePoint} (h : step s c = some t) (rest : PyStr) :
    run s (c :: rest) = run t rest := by
  unfold run
  rw [List.foldlM_cons, h]
  rfl

theorem run_name (n : PyStr) (ps : Params) {more : PyStr} (h : more.all isTchar = true) (rest : PyStr) :
    run (.name n, ps) (more ++ rest) = run (.name (n ++ more), ps) rest := by
  induction more generalizing n with
  | nil => simp
  | cons c more ih =>
    rw [List.all_cons, Bool.and_eq_true] at h
    have hstep : step (.name n, ps) c = some (.name (n ++ [c]), ps) := by
      simp only [step, h.1, if_true]
    rw [List.cons_append, run_cons hstep, ih _ h.2, List.append_assoc, List.singleton_append]

theorem not_quote_of_isQdtext {c : CodePoint} (h : isQdtext c = true) : c ≠ ch '"' ∧ c ≠ ch '\\' := by
  constructor
  · rintro rfl
    revert h
    decide
  · rintro rfl
    revert h
    decide

theorem run_quoted (n v : PyStr) (ps : Params) {more : PyStr} (h : more.all isQdtext = true) (rest : PyStr) :
    run (.quoted n v, ps) (more ++ rest) = run (.quoted n (v ++ more), ps) rest := by
  induction more generalizing v with
  | nil => simp
  | cons c more ih =>
    rw [List.all_cons, Bool.and_eq_true] at h
    obtain ⟨hquote, hslash⟩ := not_quote_of_isQdtext h.1
    have hstep : step (.quoted n v, ps) c = some (.quoted n (v ++ [c]), ps) := by
      simp only [step, if_neg hquote, if_neg hslash, h.1, if_true]
    rw [List.cons_append, run_cons hstep, ih _ h.2, List.append_assoc, List.singleton_append]

/-- **One parameter** is read as what it was written for. -/
theorem run_param {p : PyStr × PyStr} (h : Plain p) (ps : Params) (rest : PyStr) :
    run (.between, ps) (quotedParam p ++ rest) = run (.afterValue, ps ++ [p]) rest := by
  obtain ⟨name, value⟩ := p
  obtain ⟨hne, hname, hvalue⟩ := h
  cases name with
  | nil => exact absurd rfl hne
  | cons c name =>
    rw [List.all_cons, Bool.and_eq_true] at hname
    have hstart : step (.between, ps) c = some (.name [c], ps) := by
      simp only [step, hname.1, if_true]
    have htext : quotedParam (c :: name, value) ++ rest =
        c :: (name ++ (ch '=' :: ch '"' :: (value ++ (ch '"' :: rest)))) := by
      simp only [quotedParam, List.cons_append, List.append_assoc]
      rfl
    have heq : step (.name ([c] ++ name), ps) (ch '=') = some (.beforeValue ([c] ++ name), ps) := rfl
    have hopen : step (.beforeValue ([c] ++ name), ps) (ch '"') = some (.quoted ([c] ++ name) [], ps) := rfl
    have hclose : step (.quoted ([c] ++ name) ([] ++ value), ps) (ch '"') =
        some (.afterValue, ps ++ [([c] ++ name, [] ++ value)]) := rfl
    rw [htext, run_cons hstart, run_name _ _ hname.2, run_cons heq, run_cons hopen, run_quoted _ _ _ hvalue,
      run_cons hclose]
    rfl

theorem run_render {ps : Params} (h : ∀ p ∈ ps, Plain p) (hne : ps ≠ []) (done : Params) :
    run (.between, done) (render ps) = some (.afterValue, done ++ ps) := by
  induction ps generalizing done with
  | nil => exact absurd rfl hne
  | cons p ps ih =>
    rw [List.forall_mem_cons] at h
    cases ps with
    | nil =>
      have hone := run_param h.1 done []
      rw [List.append_nil] at hone
      have htext : render [p] = quotedParam p := by simp [render]
      rw [htext, hone]
      rfl
    | cons q ps =>
      have htext : render (p :: q :: ps) = quotedParam p ++ (ch ',' :: ch ' ' :: render (q :: ps)) := by
        simp only [render, List.map_cons, List.intercalate_cons_cons]
        simp [lit]
      have hcomma : step (.afterValue, done ++ [p]) (ch ',') = some (.between, done ++ [p]) := rfl
      have hblank : step (.between, done ++ [p]) (ch ' ') = some (.between, done ++ [p]) := rfl
      rw [htext, run_param h.1, run_cons hcomma, run_cons hblank, ih h.2 (List.cons_ne_nil _ _), List.append_assoc,
        List.singleton_append]

/-- **A list reads back** as what was written. -/
theorem parseParams_render {ps : Params} (h : ∀ p ∈ ps, Plain p) (hne : ps ≠ []) : parseParams (render ps) = some ps := by
  rw [parseParams, run_render h hne, List.nil_append]
  rfl

end PyLib.AuthParams
