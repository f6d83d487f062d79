import Mathlib.Algebra.Group.Int.Defs
import AxiamSdk.Lib.JsonDumps

/-! # The compact text of a JSON value

`render` writes a value for a given text of each float. `json.dumps` writes it (`dumps_eq`), and so
does a serializer that escapes quote, backslash and control characters alone.

* `render_true_eq_iff`: `ensure_ascii` leaves the text as it is exactly when the value is plain.
* `render_eq_iff`: two texts of one value agree exactly when those of its floats do. -/

namespace PyLib
set_option autoImplicit false

/-! ## Parts of a value -/

namespace Json

mutual
/-- The value and every value inside it. -/
def nodes : Json → List Json
  | .arr xs => .arr xs :: nodesList xs
  | .obj ms => .obj ms :: nodesMembers ms
  | v => [v]

def nodesList : List Json → List Json
  | [] => []
  | x :: xs => nodes x ++ nodesList xs

def nodesMembers : List (PyStr × Json) → List Json
  | [] => []
  | (_, x) :: ms => nodes x ++ nodesMembers ms
end

theorem self_mem_nodes (v : Json) : v ∈ v.nodes := by
  cases v <;> simp [nodes]

/-- The member names of an object. -/
def names : Json → List PyStr
  | .obj ms => ms.map Prod.fst
  | _ => []

/-- The strings a value itself writes: its text or its member names. -/
def texts : Json → List PyStr
  | .str s => [s]
  | .obj ms => ms.map Prod.fst
  | _ => []

/-- No object of the value has two members of one name. -/
def Distinct (v : Json) : Prop := ∀ w ∈ v.nodes, w.names.Nodup

/-- Every integer fits a signed or an unsigned machine word. -/
def Int64 (v : Json) : Prop := ∀ n : ℤ, .int n ∈ v.nodes → -2 ^ 63 ≤ n ∧ n < 2 ^ 64

/-- Every character of every string and member name is below DEL. -/
def Plain (v : Json) : Prop := ∀ w ∈ v.nodes, ∀ s ∈ w.texts, ∀ c ∈ s, c.val < 0x7F

theorem mem_nodesList {xs : List Json} {w : Json} : w ∈ nodesList xs ↔ ∃ x ∈ xs, w ∈ x.nodes := by
  induction xs with
  | nil => simp [nodesList]
  | cons x xs ih => simp [nodesList, ih]

theorem mem_nodesMembers {ms : List (PyStr × Json)} {w : Json} :
    w ∈ nodesMembers ms ↔ ∃ p ∈ ms, w ∈ p.2.nodes := by
  induction ms with
  | nil => simp [nodesMembers]
  | cons p ms ih =>
    obtain ⟨k, x⟩ := p
    simp [nodesMembers, ih]

theorem intsOkList_iff (I : Interp) (xs : List Json) :
    intsOkList I xs = true ↔ ∀ x ∈ xs, x.intsOk I = true := by
  induction xs with
  | nil => simp [intsOkList]
  | cons x xs ih => simp [intsOkList, ih]

theorem intsOkMembers_iff (I : Interp) (ms : List (PyStr × Json)) :
    intsOkMembers I ms = true ↔ ∀ p ∈ ms, p.2.intsOk I = true := by
  induction ms with
  | nil => simp [intsOkMembers]
  | cons p ms ih =>
    obtain ⟨k, x⟩ := p
    simp [intsOkMembers, ih]

theorem depthList_le_iff (xs : List Json) (n : ℕ) :
    depthList xs ≤ n ↔ ∀ x ∈ xs, x.depth ≤ n := by
  induction xs with
  | nil => simp [depthList]
  | cons x xs ih => simp [depthList, Nat.max_le, ih]

theorem plain_arr {xs : List Json} : Plain (.arr xs) ↔ ∀ x ∈ xs, x.Plain := by
  constructor
  · intro h x hx w hw
    exact h w (List.mem_cons_of_mem _ (mem_nodesList.2 ⟨x, hx, hw⟩))
  · intro h w hw
    rw [nodes, List.mem_cons, mem_nodesList] at hw
    rcases hw with rfl | ⟨x, hx, hw⟩
    · intro s hs
      cases hs
    · exact h x hx w hw

theorem plain_obj {ms : List (PyStr × Json)} :
    Plain (.obj ms) ↔ ∀ p ∈ ms, (∀ c ∈ p.1, c.val < 0x7F) ∧ p.2.Plain := by
  constructor
  · intro h p hp
    refine ⟨fun c hc => h _ (self_mem_nodes _) p.1 (List.mem_map.2 ⟨p, hp, rfl⟩) c hc, ?_⟩
    intro w hw
    exact h w (List.mem_cons_of_mem _ (mem_nodesMembers.2 ⟨p, hp, hw⟩))
  · intro h w hw
    rw [nodes, List.mem_cons, mem_nodesMembers] at hw
    rcases hw with rfl | ⟨p, hp, hw⟩
    · intro s hs c hc
      obtain ⟨p, hp, rfl⟩ := List.mem_map.1 hs
      exact (h p hp).1 c hc
    · exact (h p hp).2 w hw

theorem plain_str {s : PyStr} : Plain (.str s) ↔ ∀ c ∈ s, c.val < 0x7F := by
  simp [Plain, nodes, texts]

end Json

/-! ## The text -/

namespace JsonText
open JsonDumps

mutual
/-- The compact text of a value whose floats are written by `ft`. -/
def render (ea : Bool) (ft : Float → PyStr) : Json → PyStr
  | .null => lit "null"
  | .bool b => if b then lit "true" else lit "false"
  | .int n => intRepr n
  | .float x => ft x
  | .str s => quote ea s
  | .arr xs => ch '[' :: renderList ea ft xs ++ [ch ']']
  | .obj ms => ch '{' :: renderMembers ea ft ms ++ [ch '}']

def renderList (ea : Bool) (ft : Float → PyStr) : List Json → PyStr
  | [] => []
  | x :: xs => render ea ft x ++
      (if xs.isEmpty then renderList ea ft xs else ch ',' :: renderList ea ft xs)

def renderMembers (ea : Bool) (ft : Float → PyStr) : List (PyStr × Json) → PyStr
  | [] => []
  | (k, x) :: ms => quote ea k ++ ch ':' :: render ea ft x ++
      (if ms.isEmpty then renderMembers ea ft ms else ch ',' :: renderMembers ea ft ms)
end

mutual
theorem go_eq (I : Interp) (ea : Bool) : ∀ (n : ℕ) (v : Json) (t : PyStr),
    go I ea n v = .ok t → t = render ea (floatText I) v
  | _, .null, t, h => by cases h; rfl
  | _, .bool b, t, h => by cases h; rfl
  | _, .int n, t, h => by
      rw [go] at h
      split at h
      · cases h; rfl
      · cases h
  | _, .float x, t, h => by cases h; rfl
  | _, .str s, t, h => by cases h; rfl
  | 0, .arr _, t, h => by cases h
  | 0, .obj _, t, h => by cases h
  | n + 1, .arr xs, t, h => by
      rw [go] at h
      cases hg : goList I ea n xs with
      | error e => rw [hg] at h; cases h
      | ok u =>
        rw [hg] at h
        cases h
        rw [goList_eq I ea n xs u hg, render]
  | n + 1, .obj ms, t, h => by
      rw [go] at h
      cases hg : goMembers I ea n ms with
      | error e => rw [hg] at h; cases h
      | ok u =>
        rw [hg] at h
        cases h
        rw [goMembers_eq I ea n ms u hg, render]

theorem goList_eq (I : Interp) (ea : Bool) (n : ℕ) : ∀ (xs : List Json) (t : PyStr),
    goList I ea n xs = .ok t → t = renderList ea (floatText I) xs
  | [], t, h => by cases h; rfl
  | x :: xs, t, h => by
      rw [goList] at h
      cases hx : go I ea n x with
      | error e => rw [hx] at h; cases h
      | ok s =>
        cases hxs : goList I ea n xs with
        | error e => rw [hx, hxs] at h; cases h
        | ok u =>
          rw [hx, hxs] at h
          cases h
          rw [go_eq I ea n x s hx, goList_eq I ea n xs u hxs, renderList]

theorem goMembers_eq (I : Interp) (ea : Bool) (n : ℕ) : ∀ (ms : List (PyStr × Json)) (t : PyStr),
    goMembers I ea n ms = .ok t → t = renderMembers ea (floatText I) ms
  | [], t, h => by cases h; rfl
  | (k, x) :: ms, t, h => by
      rw [goMembers] at h
      cases hx : go I ea n x with
      | error e => rw [hx] at h; cases h
      | ok s =>
        cases hms : goMembers I ea n ms with
        | error e => rw [hx, hms] at h; cases h
        | ok u =>
          rw [hx, hms] at h
          cases h
          rw [go_eq I ea n x s hx, goMembers_eq I ea n ms u hms, renderMembers]
end

/-- `json.dumps` writes the rendering of what it can write. -/
theorem dumps_eq {I : Interp} {ea : Bool} {v : Json} (hd : v.depth ≤ I.dumpsDepth)
    (hi : v.intsOk I = true) : dumps I ea v = .ok (render ea (floatText I) v) := by
  have hok := dumps_isOk I ea v
  rw [decide_eq_true hd, hi] at hok
  cases h : dumps I ea v with
  | error e => rw [h] at hok; cases hok
  | ok t => rw [go_eq I ea I.dumpsDepth v t h]

variable {ft : Float → PyStr}

/-! ## Numbers and what follows them -/

/-- What may follow a value: the end of the text, a comma or a closing bracket. -/
def Stops (rest : PyStr) : Prop := ∀ c ∈ rest.head?, c = ch ',' ∨ c = ch ']' ∨ c = ch '}'

theorem stops_nil : Stops [] := by
  intro c hc
  cases hc

theorem stops_cons {c : CodePoint} (h : c = ch ',' ∨ c = ch ']' ∨ c = ch '}') (cs : PyStr) :
    Stops (c :: cs) := by
  intro d hd
  obtain rfl := Option.some.inj hd
  exact h

theorem digit?_digitChar : ∀ d < 10, digit? (ch (Nat.digitChar d)) = some d := by decide

theorem decDigits_of_lt {n : ℕ} (h : n < 10) : decDigits n = [ch (Nat.digitChar n)] := by
  rw [decDigits, Nat.toDigits_of_lt_base h]
  rfl

theorem decDigits_of_le {n : ℕ} (h : 10 ≤ n) :
    decDigits n = decDigits (n / 10) ++ [ch (Nat.digitChar (n % 10))] := by
  rw [decDigits, Nat.toDigits_of_base_le (by omega) h, List.map_append]
  rfl

theorem decDigits_head (n : ℕ) : ∃ d t, d < 10 ∧ decDigits n = ch (Nat.digitChar d) :: t := by
  induction n using Nat.strongRecOn with
  | ind n ih =>
    by_cases h : n < 10
    · exact ⟨n, [], h, decDigits_of_lt h⟩
    · obtain ⟨d, t, hd, ht⟩ := ih (n / 10) (by omega)
      exact ⟨d, _, hd, by rw [decDigits_of_le (by omega), ht]; rfl⟩

/-- The characters of number literals. -/
def isNumChar (c : CodePoint) : Bool :=
  (digit? c).isSome || c = ch '-' || c = ch '+' || c = ch '.' || c = ch 'e' || c = ch 'E'

/-! ## Escaping -/

theorem escapeChar_of_plain {c : CodePoint} (h : c.val < 0x7F) :
    escapeChar true c = escapeChar false c := by
  have hnot : ¬ 0x7F ≤ c.val := by omega
  simp only [escapeChar, Bool.true_and, Bool.false_and, decide_eq_false hnot]

theorem quote_of_plain {s : PyStr} (h : ∀ c ∈ s, c.val < 0x7F) : quote true s = quote false s := by
  have hs : s.flatMap (escapeChar true) = s.flatMap (escapeChar false) := by
    induction s with
    | nil => rfl
    | cons c s ih =>
      rw [List.forall_mem_cons] at h
      rw [List.flatMap_cons, List.flatMap_cons, escapeChar_of_plain h.1, ih h.2]
  rw [quote, quote, hs]

theorem renderList_congr {ea ea' : Bool} {f g : Float → PyStr} {xs : List Json}
    (h : ∀ x ∈ xs, render ea f x = render ea' g x) : renderList ea f xs = renderList ea' g xs := by
  induction xs with
  | nil => rfl
  | cons x xs ih =>
    rw [List.forall_mem_cons] at h
    rw [renderList, renderList, h.1, ih h.2]

theorem renderMembers_congr {ea ea' : Bool} {f g : Float → PyStr} {ms : List (PyStr × Json)}
    (h : ∀ p ∈ ms, quote ea p.1 = quote ea' p.1 ∧ render ea f p.2 = render ea' g p.2) :
    renderMembers ea f ms = renderMembers ea' g ms := by
  induction ms with
  | nil => rfl
  | cons p ms ih =>
    rw [List.forall_mem_cons] at h
    obtain ⟨k, x⟩ := p
    rw [renderMembers, renderMembers, h.1.1, h.1.2, ih h.2]

/-- A plain value is written the same way with and without `ensure_ascii`. -/
theorem render_of_plain {v : Json} (h : v.Plain) : render true ft v = render false ft v := by
  induction v using Json.nested with
  | null | bool b | int n | float x => rfl
  | str s => exact quote_of_plain (Json.plain_str.1 h)
  | arr xs ih =>
    have hxs := Json.plain_arr.1 h
    rw [render, render, renderList_congr (fun x hx => ih x hx (hxs x hx))]
  | obj ms ih =>
    have hms := Json.plain_obj.1 h
    rw [render, render, renderMembers_congr
      (fun p hp => ⟨quote_of_plain (hms p hp).1, ih p hp (hms p hp).2⟩)]

theorem render_congr {ea : Bool} {f g : Float → PyStr} {v : Json}
    (h : ∀ x, .float x ∈ v.nodes → f x = g x) : render ea f v = render ea g v := by
  induction v using Json.nested with
  | null | bool b | int n | str s => rfl
  | float x => exact h x (Json.self_mem_nodes _)
  | arr xs ih =>
    rw [render, render, renderList_congr (fun x hx => ih x hx (fun y hy =>
      h y (List.mem_cons_of_mem _ (Json.mem_nodesList.2 ⟨x, hx, hy⟩))))]
  | obj ms ih =>
    rw [render, render, renderMembers_congr (fun p hp => ⟨rfl, ih p hp (fun y hy =>
      h y (List.mem_cons_of_mem _ (Json.mem_nodesMembers.2 ⟨p, hp, hy⟩)))⟩)]

/-! ## Plain texts -/

/-- Every character is below DEL. -/
def PlainText (s : PyStr) : Prop := ∀ c ∈ s, c.val < 0x7F

instance (s : PyStr) : Decidable (PlainText s) :=
  decidable_of_iff (s.all (fun c => decide (c.val < 0x7F)) = true) (by simp [PlainText])

theorem plainText_append {s t : PyStr} : PlainText (s ++ t) ↔ PlainText s ∧ PlainText t := by
  simp only [PlainText, List.mem_append, or_imp, forall_and]

theorem plainText_cons {c : CodePoint} {s : PyStr} :
    PlainText (c :: s) ↔ c.val < 0x7F ∧ PlainText s := by
  simp only [PlainText, List.forall_mem_cons]

theorem plainText_hexDigit : ∀ n < 16, (hexDigit n).val < 0x7F := by decide

theorem plainText_uEscape (n : ℕ) : PlainText (uEscape n) := by
  have hb : (ch '\\').val < 0x7F := by decide
  have hu : (ch 'u').val < 0x7F := by decide
  simp only [uEscape, plainText_cons, hb, hu, plainText_hexDigit _ (Nat.mod_lt _ (by omega : 0 < 16)),
    true_and]
  intro c hc
  cases hc

/-- With `ensure_ascii` nothing but plain characters is written. -/
theorem plainText_escapeChar (c : CodePoint) : PlainText (escapeChar true c) := by
  unfold escapeChar
  split
  · decide
  split
  · decide
  split
  · decide
  split
  · decide
  split
  · decide
  split
  · decide
  split
  · decide
  split
  · exact plainText_uEscape _
  split
  · split
    · exact plainText_uEscape _
    · exact plainText_append.2 ⟨plainText_uEscape _, plainText_uEscape _⟩
  · next h =>
    simp only [Bool.true_and, decide_eq_true_eq] at h
    exact plainText_cons.2 ⟨by omega, fun c hc => by cases hc⟩

theorem escapeChar_of_not_plain {c : CodePoint} (h : 0x7F ≤ c.val) : escapeChar false c = [c] := by
  have hne : ∀ d : CodePoint, d.val < 0x7F → c ≠ d := by
    intro d hd hcd
    rw [hcd] at h
    omega
  have h12 : c.val ≠ 12 := by omega
  have h8 : c.val ≠ 8 := by omega
  have hctl : ¬ c.val < 0x20 := by omega
  simp only [escapeChar, if_neg (hne (ch '"') (by decide)), if_neg (hne (ch '\\') (by decide)),
    if_neg (hne (ch '\n') (by decide)), if_neg (hne (ch '\r') (by decide)),
    if_neg (hne (ch '\t') (by decide)), if_neg h12, if_neg h8, if_neg hctl, Bool.false_and,
    Bool.false_eq_true, if_false]

theorem plainText_quote_true (s : PyStr) : PlainText (quote true s) := by
  have hq : (ch '"').val < 0x7F := by decide
  rw [quote, List.cons_append, plainText_cons, plainText_append]
  refine ⟨hq, ?_, plainText_cons.2 ⟨hq, fun c hc => by cases hc⟩⟩
  intro c hc
  obtain ⟨d, _, hd⟩ := List.mem_flatMap.1 hc
  exact plainText_escapeChar d c hd

theorem plainText_of_quote {s : PyStr} (h : PlainText (quote false s)) : PlainText s := by
  rw [quote, List.cons_append, plainText_cons, plainText_append] at h
  intro c hc
  by_contra hlt
  have hmem : c ∈ s.flatMap (escapeChar false) := by
    refine List.mem_flatMap.2 ⟨c, hc, ?_⟩
    rw [escapeChar_of_not_plain (by omega)]
    exact List.mem_singleton_self c
  exact hlt (h.2.1 c hmem)

section Characters
variable {Q : CodePoint → Prop}

theorem forall_mem_bracket {a b : CodePoint} (ha : Q a) (hb : Q b) (s : PyStr) :
    (∀ c ∈ a :: s ++ [b], Q c) ↔ ∀ c ∈ s, Q c := by
  simp only [List.cons_append, List.forall_mem_cons, List.forall_mem_append, ha, hb, List.not_mem_nil,
    false_implies, implies_true, true_and, and_true]

theorem forall_mem_renderList (ea : Bool) (ft : Float → PyStr) (hc : Q (ch ',')) (xs : List Json) :
    (∀ c ∈ renderList ea ft xs, Q c) ↔ ∀ x ∈ xs, ∀ c ∈ render ea ft x, Q c := by
  induction xs with
  | nil => exact ⟨fun _ _ hx => absurd hx List.not_mem_nil, fun _ _ hc => absurd hc List.not_mem_nil⟩
  | cons x xs ih =>
    rw [renderList, List.forall_mem_append, List.forall_mem_cons]
    apply and_congr Iff.rfl
    split
    · exact ih
    · rw [List.forall_mem_cons, and_iff_right hc]
      exact ih

theorem forall_mem_renderMembers (ea : Bool) (ft : Float → PyStr) (hc : Q (ch ',')) (hcolon : Q (ch ':'))
    (ms : List (PyStr × Json)) : (∀ c ∈ renderMembers ea ft ms, Q c) ↔
      ∀ p ∈ ms, (∀ c ∈ quote ea p.1, Q c) ∧ ∀ c ∈ render ea ft p.2, Q c := by
  induction ms with
  | nil => exact ⟨fun _ _ hx => absurd hx List.not_mem_nil, fun _ _ hc => absurd hc List.not_mem_nil⟩
  | cons p ms ih =>
    obtain ⟨k, x⟩ := p
    rw [renderMembers, List.forall_mem_append, List.forall_mem_append, List.forall_mem_cons,
      and_iff_right hcolon, List.forall_mem_cons]
    apply and_congr Iff.rfl
    split
    · exact ih
    · rw [List.forall_mem_cons, and_iff_right hc]
      exact ih

end Characters

theorem plainText_bracket {a b : CodePoint} (ha : a.val < 0x7F) (hb : b.val < 0x7F) (s : PyStr) :
    PlainText (a :: s ++ [b]) ↔ PlainText s :=
  forall_mem_bracket ha hb s

theorem plainText_renderList (ea : Bool) (ft : Float → PyStr) (xs : List Json) :
    PlainText (renderList ea ft xs) ↔ ∀ x ∈ xs, PlainText (render ea ft x) :=
  forall_mem_renderList ea ft (by decide) xs

theorem plainText_renderMembers (ea : Bool) (ft : Float → PyStr) (ms : List (PyStr × Json)) :
    PlainText (renderMembers ea ft ms) ↔
      ∀ p ∈ ms, PlainText (quote ea p.1) ∧ PlainText (render ea ft p.2) :=
  forall_mem_renderMembers ea ft (by decide) (by decide) ms

theorem plainText_intRepr (n : ℤ) : PlainText (intRepr n) := by
  have hdig : ∀ m : ℕ, PlainText (decDigits m) := by
    intro m
    induction m using Nat.strongRecOn with
    | ind m ih =>
      have hd : ∀ d < 10, PlainText [ch (Nat.digitChar d)] := by decide
      by_cases h : m < 10
      · rw [decDigits_of_lt h]
        exact hd m h
      · rw [decDigits_of_le (by omega), plainText_append]
        exact ⟨ih _ (by omega), hd _ (Nat.mod_lt _ (by omega))⟩
  unfold intRepr
  split
  · exact plainText_cons.2 ⟨by decide, hdig _⟩
  · exact hdig _

/-- With `ensure_ascii` every character is plain or one of a float's text. -/
theorem forall_mem_render_true {Q : CodePoint → Prop} (hplain : ∀ c : CodePoint, c.val < 0x7F → Q c) {v : Json}
    (hf : ∀ x, .float x ∈ v.nodes → ∀ c ∈ ft x, Q c) : ∀ c ∈ render true ft v, Q c := by
  have htext : ∀ s : PyStr, PlainText s → ∀ c ∈ s, Q c := fun s hs c hc => hplain c (hs c hc)
  induction v using Json.nested with
  | null =>
    have hlit : PlainText (lit "null") := by decide
    exact htext _ hlit
  | bool b =>
    have hlit : PlainText (lit "true") ∧ PlainText (lit "false") := by decide
    cases b with
    | true => exact htext _ hlit.1
    | false => exact htext _ hlit.2
  | int n => exact htext _ (plainText_intRepr n)
  | float x => exact hf x (Json.self_mem_nodes _)
  | str s => exact htext _ (plainText_quote_true s)
  | arr xs ih =>
    rw [render, forall_mem_bracket (hplain _ (by decide)) (hplain _ (by decide)),
      forall_mem_renderList true ft (hplain _ (by decide))]
    exact fun x hx => ih x hx (fun y hy =>
      hf y (List.mem_cons_of_mem _ (Json.mem_nodesList.2 ⟨x, hx, hy⟩)))
  | obj ms ih =>
    rw [render, forall_mem_bracket (hplain _ (by decide)) (hplain _ (by decide)),
      forall_mem_renderMembers true ft (hplain _ (by decide)) (hplain _ (by decide))]
    exact fun p hp => ⟨htext _ (plainText_quote_true p.1), ih p hp (fun y hy =>
      hf y (List.mem_cons_of_mem _ (Json.mem_nodesMembers.2 ⟨p, hp, hy⟩)))⟩

theorem plainText_render_true {v : Json} (hf : ∀ x, .float x ∈ v.nodes → PlainText (ft x)) :
    PlainText (render true ft v) :=
  forall_mem_render_true (fun _ hc => hc) hf

/-- With `ensure_ascii` the text is ASCII. -/
theorem all_isAscii_dumps {I : Interp} {v : Json} {t : PyStr} (h : dumps I true v = .ok t) :
    t.all isAscii = true := by
  obtain rfl := go_eq I true I.dumpsDepth v t h
  rw [List.all_eq_true]
  refine forall_mem_render_true (fun c hc => ?_) (fun x _ => List.all_eq_true.1 (all_isAscii_floatText I x))
  unfold isAscii
  rw [decide_eq_true_eq]
  omega

/-- What was written with `ensure_ascii` can be encoded. -/
theorem encodeUtf8_dumps {I : Interp} {v : Json} {t : PyStr} (h : dumps I true v = .ok t) :
    ∃ b, encodeUtf8 t = some b := by
  rw [encodeUtf8, if_pos (noSurrogate_of_ascii (all_isAscii_dumps h))]
  exact ⟨_, rfl⟩

theorem plain_of_render {v : Json} (h : PlainText (render false ft v)) : v.Plain := by
  induction v using Json.nested with
  | null | bool b | int n | float x =>
    intro w hw s hs
    rw [List.mem_singleton.1 hw] at hs
    cases hs
  | str s => exact Json.plain_str.2 (plainText_of_quote h)
  | arr xs ih =>
    rw [render, plainText_bracket (by decide) (by decide), plainText_renderList] at h
    exact Json.plain_arr.2 (fun x hx => ih x hx (h x hx))
  | obj ms ih =>
    rw [render, plainText_bracket (by decide) (by decide), plainText_renderMembers] at h
    exact Json.plain_obj.2 (fun p hp => ⟨plainText_of_quote (h p hp).1, ih p hp (h p hp).2⟩)

/-- `ensure_ascii` leaves the text of a value as it is exactly when the value is plain. -/
theorem render_true_eq_iff {v : Json} (hf : ∀ x, .float x ∈ v.nodes → PlainText (ft x)) :
    render true ft v = render false ft v ↔ v.Plain := by
  constructor
  · intro h
    have hplain := plainText_render_true hf
    rw [h] at hplain
    exact plain_of_render hplain
  · exact render_of_plain

/-! ## One value, two texts for its floats -/

theorem append_cancel_stops {a b ra rb : PyStr} (ha : a.all isNumChar = true)
    (hb : b.all isNumChar = true) (hra : Stops ra) (hrb : Stops rb) (h : a ++ ra = b ++ rb) :
    a = b ∧ ra = rb := by
  have hstop : ∀ {c cs}, Stops (c :: cs) → isNumChar c = false := by
    intro c cs hs
    rcases hs c rfl with rfl | rfl | rfl <;> decide
  induction a generalizing b with
  | nil =>
    cases b with
    | nil => exact ⟨rfl, h⟩
    | cons d b =>
      rw [List.nil_append] at h
      subst h
      rw [List.all_cons, Bool.and_eq_true] at hb
      have := hstop hra
      rw [hb.1] at this
      cases this
  | cons c a ih =>
    rw [List.all_cons, Bool.and_eq_true] at ha
    cases b with
    | nil =>
      rw [List.nil_append] at h
      subst h
      have := hstop hrb
      rw [ha.1] at this
      cases this
    | cons d b =>
      rw [List.all_cons, Bool.and_eq_true] at hb
      obtain ⟨hcd, h⟩ := List.cons.inj h
      obtain ⟨hab, hr⟩ := ih ha.2 hb.2 h
      exact ⟨by rw [hcd, hab], hr⟩

theorem renderList_cons_cons (ea : Bool) (ft : Float → PyStr) (x y : Json) (ys : List Json) :
    renderList ea ft (x :: y :: ys) = render ea ft x ++ ch ',' :: renderList ea ft (y :: ys) := by
  rw [renderList, List.isEmpty_cons, if_neg Bool.false_ne_true]

theorem renderMembers_cons_cons (ea : Bool) (ft : Float → PyStr) (k : PyStr) (x : Json)
    (q : PyStr × Json) (ms : List (PyStr × Json)) : renderMembers ea ft ((k, x) :: q :: ms) =
      quote ea k ++ ch ':' :: render ea ft x ++ ch ',' :: renderMembers ea ft (q :: ms) := by
  rw [renderMembers, List.isEmpty_cons, if_neg Bool.false_ne_true]

section Floats
variable {f g : Float → PyStr}

/-- Two renderings with a common continuation agree on the floats. -/
def FloatsFrom (f g : Float → PyStr) (v : Json) : Prop :=
  ∀ ra rb, Stops ra → Stops rb → render false f v ++ ra = render false g v ++ rb →
    (∀ x, .float x ∈ v.nodes → f x = g x) ∧ ra = rb

theorem floatsFrom_list (xs : List Json) (x : Json) (h : ∀ y ∈ x :: xs, FloatsFrom f g y)
    (ra rb : PyStr) (heq : renderList false f (x :: xs) ++ ch ']' :: ra =
      renderList false g (x :: xs) ++ ch ']' :: rb) :
    (∀ y ∈ x :: xs, ∀ z, .float z ∈ y.nodes → f z = g z) ∧ ra = rb := by
  have hclose : ∀ r, Stops (ch ']' :: r) := stops_cons (Or.inr (Or.inl rfl))
  have hcomma : ∀ r, Stops (ch ',' :: r) := stops_cons (Or.inl rfl)
  induction xs generalizing x with
  | nil =>
    simp only [renderList, List.isEmpty_nil, if_true, List.append_nil] at heq
    obtain ⟨hx, hr⟩ := h x List.mem_cons_self _ _ (hclose ra) (hclose rb) heq
    exact ⟨by simpa using hx, (List.cons.inj hr).2⟩
  | cons y ys ih =>
    rw [renderList_cons_cons, renderList_cons_cons, List.append_assoc, List.append_assoc] at heq
    obtain ⟨hx, hr⟩ := h x List.mem_cons_self _ _ (hcomma _) (hcomma _) heq
    obtain ⟨hys, hr⟩ := ih y (fun z hz => h z (List.mem_cons_of_mem _ hz)) (List.cons.inj hr).2
    exact ⟨List.forall_mem_cons.2 ⟨hx, hys⟩, hr⟩

theorem floatsFrom_members (ms : List (PyStr × Json)) (p : PyStr × Json)
    (h : ∀ q ∈ p :: ms, FloatsFrom f g q.2) (ra rb : PyStr)
    (heq : renderMembers false f (p :: ms) ++ ch '}' :: ra =
      renderMembers false g (p :: ms) ++ ch '}' :: rb) :
    (∀ q ∈ p :: ms, ∀ z, .float z ∈ q.2.nodes → f z = g z) ∧ ra = rb := by
  have hclose : ∀ r, Stops (ch '}' :: r) := stops_cons (Or.inr (Or.inr rfl))
  have hcomma : ∀ r, Stops (ch ',' :: r) := stops_cons (Or.inl rfl)
  induction ms generalizing p with
  | nil =>
    obtain ⟨k, x⟩ := p
    simp only [renderMembers, List.isEmpty_nil, if_true, List.append_nil, List.append_assoc] at heq
    have heq := (List.cons.inj (List.append_cancel_left heq)).2
    obtain ⟨hx, hr⟩ := h (k, x) List.mem_cons_self _ _ (hclose ra) (hclose rb) heq
    exact ⟨by simpa using hx, (List.cons.inj hr).2⟩
  | cons q ms ih =>
    obtain ⟨k, x⟩ := p
    rw [renderMembers_cons_cons, renderMembers_cons_cons] at heq
    simp only [List.append_assoc, List.cons_append] at heq
    have heq := (List.cons.inj (List.append_cancel_left heq)).2
    obtain ⟨hx, hr⟩ := h (k, x) List.mem_cons_self _ _ (hcomma _) (hcomma _) heq
    obtain ⟨hms, hr⟩ := ih q (fun z hz => h z (List.mem_cons_of_mem _ hz)) (List.cons.inj hr).2
    exact ⟨List.forall_mem_cons.2 ⟨hx, hms⟩, hr⟩

theorem floatsFrom (v : Json) (hf : ∀ x, (f x).all isNumChar = true)
    (hg : ∀ x, (g x).all isNumChar = true) : FloatsFrom f g v := by
  induction v using Json.nested with
  | null | bool b | int n | str s =>
    intro ra rb _ _ h
    refine ⟨fun x hx => ?_, List.append_cancel_left h⟩
    cases List.mem_singleton.1 hx
  | float x =>
    intro ra rb hra hrb h
    obtain ⟨hx, hr⟩ := append_cancel_stops (hf x) (hg x) hra hrb h
    refine ⟨fun y hy => ?_, hr⟩
    obtain rfl := Json.float.inj (List.mem_singleton.1 hy)
    exact hx
  | arr xs ih =>
    intro ra rb _ _ h
    simp only [render, List.append_assoc, List.cons_append, List.nil_append] at h
    have h := (List.cons.inj h).2
    cases xs with
    | nil =>
      refine ⟨fun x hx => ?_, (List.cons.inj h).2⟩
      cases List.mem_singleton.1 hx
    | cons x xs =>
      obtain ⟨hx, hr⟩ := floatsFrom_list xs x ih ra rb h
      refine ⟨fun z hz => ?_, hr⟩
      rcases List.mem_cons.1 hz with hz | hz
      · cases hz
      · obtain ⟨y, hy, hz⟩ := Json.mem_nodesList.1 hz
        exact hx y hy z hz
  | obj ms ih =>
    intro ra rb _ _ h
    simp only [render, List.append_assoc, List.cons_append, List.nil_append] at h
    have h := (List.cons.inj h).2
    cases ms with
    | nil =>
      refine ⟨fun x hx => ?_, (List.cons.inj h).2⟩
      cases List.mem_singleton.1 hx
    | cons p ms =>
      obtain ⟨hx, hr⟩ := floatsFrom_members ms p ih ra rb h
      refine ⟨fun z hz => ?_, hr⟩
      rcases List.mem_cons.1 hz with hz | hz
      · cases hz
      · obtain ⟨q, hq, hz⟩ := Json.mem_nodesMembers.1 hz
        exact hx q hq z hz

theorem render_eq_iff {v : Json} (hf : ∀ x, (f x).all isNumChar = true)
    (hg : ∀ x, (g x).all isNumChar = true) :
    render false f v = render false g v ↔ ∀ x, .float x ∈ v.nodes → f x = g x := by
  constructor
  · intro h
    exact (floatsFrom v hf hg [] [] stops_nil stops_nil (by rw [h])).1
  · exact render_congr

end Floats

end JsonText

end PyLib
