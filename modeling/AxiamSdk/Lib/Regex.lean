import Mathlib.Data.List.Basic

/-! # Regular expressions

Patterns of characters and repetitions, matched greedily and with backtracking, and the text in which every
match is replaced.

* `Item`, `matchItems`: a sequence of classes and repetitions.
* `findAt`: the first of several sequences that matches at a word boundary.
* `substitute`: the leftmost matches of a text, replaced. -/

namespace PyLib.Regex
set_option autoImplicit false

variable {α β : Type}

/-! ## Matching -/

/-- One character of a class, or as many of it as there are. -/
inductive Item (α : Type)
  | one (p : α → Bool)
  | star (p : α → Bool)

section Substitution
variable (find : Option α → List α → ℕ) (mark : List α)

/-- The text with its leftmost matches replaced; so many characters of a match are still to be skipped. -/
def substitute : Option α → ℕ → List α → List α
  | _, _, [] => []
  | _, k + 1, c :: cs => substitute (some c) k cs
  | prev, 0, c :: cs =>
    match find prev (c :: cs) with
    | 0 => c :: substitute (some c) 0 cs
    | k + 1 => mark ++ substitute (some c) k cs

/-- Where the substitution stands after a part of the text. -/
structure Scan (α : Type) where
  out : List α
  prev : Option α
  skip : ℕ

/-- The substitution in a part of the text that the rest follows. -/
def scan (rest : List α) : Option α → ℕ → List α → Scan α
  | prev, k, [] => ⟨[], prev, k⟩
  | _, k + 1, c :: cs => scan rest (some c) k cs
  | prev, 0, c :: cs =>
    match find prev (c :: (cs ++ rest)) with
    | 0 => { scan rest (some c) 0 cs with out := c :: (scan rest (some c) 0 cs).out }
    | k + 1 => { scan rest (some c) k cs with out := mark ++ (scan rest (some c) k cs).out }

/-- No match begins in a part of the text. -/
def quiet (rest : List α) : Option α → List α → Bool
  | _, [] => true
  | prev, c :: cs => decide (find prev (c :: (cs ++ rest)) = 0) && quiet rest (some c) cs

variable {find mark}

theorem substitute_keep {prev : Option α} {c : α} {cs : List α} (h : find prev (c :: cs) = 0) :
    substitute find mark prev 0 (c :: cs) = c :: substitute find mark (some c) 0 cs := by
  rw [substitute, h]

theorem substitute_mark {prev : Option α} {c : α} {cs : List α} {k : ℕ} (h : find prev (c :: cs) = k + 1) :
    substitute find mark prev 0 (c :: cs) = mark ++ substitute find mark (some c) k cs := by
  rw [substitute, h]

theorem scan_keep {rest : List α} {prev : Option α} {c : α} {cs : List α} (h : find prev (c :: (cs ++ rest)) = 0) :
    scan find mark rest prev 0 (c :: cs) = { scan find mark rest (some c) 0 cs with
      out := c :: (scan find mark rest (some c) 0 cs).out } := by
  rw [scan, h]

theorem scan_mark {rest : List α} {prev : Option α} {c : α} {cs : List α} {k : ℕ}
    (h : find prev (c :: (cs ++ rest)) = k + 1) :
    scan find mark rest prev 0 (c :: cs) = { scan find mark rest (some c) k cs with
      out := mark ++ (scan find mark rest (some c) k cs).out } := by
  rw [scan, h]

section Origin
variable {kept : α → Bool}

theorem quiet_of_substitute (hmark : ∀ c ∈ mark, kept c = false) (hne : mark ≠ []) {prev : Option α}
    {text part rest : List α} (hpart : ∀ c ∈ part, kept c = true)
    (h : substitute find mark prev 0 text = part ++ rest) :
    ∃ after, text = part ++ after ∧ quiet find after prev part = true := by
  induction part generalizing prev text with
  | nil => exact ⟨text, rfl, rfl⟩
  | cons c part ih =>
    cases text with
    | nil => cases h
    | cons d text =>
      cases hlength : find prev (d :: text) with
      | zero =>
        rw [substitute_keep hlength, List.cons_append] at h
        obtain ⟨rfl, htail⟩ := List.cons.inj h
        obtain ⟨after, rfl, hquiet⟩ := ih (fun e he => hpart e (List.mem_cons_of_mem _ he)) htail
        refine ⟨after, rfl, ?_⟩
        rw [quiet, hquiet, hlength]
        rfl
      | succ k =>
        obtain ⟨m, ms, rfl⟩ := List.exists_cons_of_ne_nil hne
        rw [substitute_mark hlength] at h
        obtain ⟨rfl, -⟩ := List.cons.inj h
        exact absurd (hpart m List.mem_cons_self) (by rw [hmark m List.mem_cons_self]; decide)

/-- A text without characters of the mark comes after a mark, if it stands in what a mark begins. -/
theorem after_mark (hmark : ∀ c ∈ mark, kept c = false) {front part rest out : List α}
    (hpart : ∀ c ∈ part, kept c = true) (hpne : part ≠ []) (h : mark ++ out = front ++ (part ++ rest)) :
    ∃ front', front = mark ++ front' ∧ out = front' ++ (part ++ rest) := by
  obtain ⟨front', hfront, hout⟩ | ⟨middle, hmiddle, hrest⟩ := List.append_eq_append_iff.1 h
  · exact ⟨front', hfront, hout⟩
  · cases middle with
    | nil => exact ⟨[], by rw [hmiddle, List.append_nil, List.append_nil], hrest.symm⟩
    | cons m ms =>
      obtain ⟨c, cs, rfl⟩ := List.exists_cons_of_ne_nil hpne
      obtain ⟨rfl, -⟩ := List.cons.inj hrest
      have hc : c ∈ mark := by
        rw [hmiddle]
        exact List.mem_append_right front List.mem_cons_self
      exact absurd (hpart c List.mem_cons_self) (by rw [hmark c hc]; decide)

/-- **What is not of the mark** is a part of the text that no match overlaps. -/
theorem origin (hmark : ∀ c ∈ mark, kept c = false) (hne : mark ≠ []) {prev : Option α} {k : ℕ}
    {text front part rest : List α} (hpart : ∀ c ∈ part, kept c = true) (hpne : part ≠ [])
    (h : substitute find mark prev k text = front ++ (part ++ rest)) :
    ∃ before after, text = before ++ (part ++ after) ∧ (scan find mark (part ++ after) prev k before).skip = 0 ∧
      quiet find after (scan find mark (part ++ after) prev k before).prev part = true ∧
      front = (scan find mark (part ++ after) prev k before).out := by
  induction text generalizing prev k front with
  | nil =>
    obtain ⟨c, cs, rfl⟩ := List.exists_cons_of_ne_nil hpne
    cases front <;> cases h
  | cons d text ih =>
    cases k with
    | succ k =>
      obtain ⟨before, after, rfl, hskip, hquiet, hout⟩ := ih h
      exact ⟨d :: before, after, rfl, hskip, hquiet, hout⟩
    | zero =>
      cases hlength : find prev (d :: text) with
      | zero =>
        cases front with
        | nil =>
          obtain ⟨after, htext, hquiet⟩ := quiet_of_substitute hmark hne hpart h
          exact ⟨[], after, htext, rfl, hquiet, rfl⟩
        | cons e front =>
          rw [substitute_keep hlength, List.cons_append] at h
          obtain ⟨rfl, htail⟩ := List.cons.inj h
          obtain ⟨before, after, rfl, hskip, hquiet, rfl⟩ := ih htail
          refine ⟨d :: before, after, rfl, ?_⟩
          rw [scan_keep hlength]
          exact ⟨hskip, hquiet, rfl⟩
      | succ k =>
        rw [substitute_mark hlength] at h
        obtain ⟨front', rfl, htail⟩ := after_mark hmark hpart hpne h
        obtain ⟨before, after, rfl, hskip, hquiet, rfl⟩ := ih htail
        refine ⟨d :: before, after, rfl, ?_⟩
        rw [scan_mark hlength]
        exact ⟨hskip, hquiet, rfl⟩

end Origin
end Substitution

end PyLib.Regex
