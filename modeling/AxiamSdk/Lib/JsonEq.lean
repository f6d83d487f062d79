import Mathlib.Algebra.Group.Int.Defs
import AxiamSdk.Lib.FloatOrder
import AxiamSdk.Lib.JsonRender

/-! # `==` on parsed JSON

Python compares `bool`, `int` and `float` as numbers, lists item by item and dicts as maps, so
`True == 1 == 1.0`; a NaN equals nothing. `pyEq_self` says which values equal themselves. -/

namespace PyLib
set_option autoImplicit false

/-- `float == int`, exact on both sides. -/
def floatEqInt (x : Float) (n : ℤ) : Bool :=
  match x.toModel.unpack with
  | .notANumber => false
  | .infinity _ => false
  | .zero _ => decide (n = 0)
  | .finite s m e _ =>
    let v : ℤ := match s with
      | .positive => m
      | .negative => -m
    if 0 ≤ e then decide (v * 2 ^ e.toNat = n) else decide (v = n * 2 ^ (-e).toNat)

namespace Json

/-- What `bool` and `int` are as numbers. -/
def asNumber? : Json → Option ℤ
  | .bool b => some (if b then 1 else 0)
  | .int n => some n
  | _ => none

/-- `==` of two scalars. -/
def scalarEq : Json → Json → Bool
  | .null, .null => true
  | .str s, .str t => decide (s = t)
  | .float x, .float y => x == y
  | .float x, w => w.asNumber?.any (floatEqInt x)
  | v, .float y => v.asNumber?.any (floatEqInt y)
  | v, w => match v.asNumber?, w.asNumber? with
    | some m, some n => decide (m = n)
    | _, _ => false

mutual
/-- `v == w` -/
def pyEq : Json → Json → Bool
  | .arr xs, .arr ys => pyEqList xs ys
  | .obj ms, .obj ns => decide (ms.length = ns.length) && pyEqMembers ms ns
  | v, w => scalarEq v w

def pyEqList : List Json → List Json → Bool
  | [], [] => true
  | x :: xs, y :: ys => pyEq x y && pyEqList xs ys
  | _, _ => false

/-- Every member of the first dict is in the second. -/
def pyEqMembers : List (PyStr × Json) → List (PyStr × Json) → Bool
  | [], _ => true
  | (k, x) :: ms, ns =>
    (match Assoc.get? ns k with
      | none => false
      | some y => pyEq x y) && pyEqMembers ms ns
end

/-- `==` of two scalars, a `bool` apart from the numbers. -/
def scalarSame : Json → Json → Bool
  | .bool a, .bool b => decide (a = b)
  | .bool _, _ => false
  | _, .bool _ => false
  | v, w => scalarEq v w

mutual
/-- Equality of JSON: as `==`, with `True` and `False` apart from the numbers. -/
def same : Json → Json → Bool
  | .arr xs, .arr ys => sameList xs ys
  | .obj ms, .obj ns => decide (ms.length = ns.length) && sameMembers ms ns
  | v, w => scalarSame v w

def sameList : List Json → List Json → Bool
  | [], [] => true
  | x :: xs, y :: ys => same x y && sameList xs ys
  | _, _ => false

def sameMembers : List (PyStr × Json) → List (PyStr × Json) → Bool
  | [], _ => true
  | (k, x) :: ms, ns =>
    (match Assoc.get? ns k with
      | none => false
      | some y => same x y) && sameMembers ms ns
end

/-- No number in the value is a NaN. -/
def NoNaN (v : Json) : Prop := ∀ x, .float x ∈ v.nodes → (x == x) = true

theorem pyEqList_self {xs : List Json} (h : ∀ x ∈ xs, pyEq x x = true) : pyEqList xs xs = true := by
  induction xs with
  | nil => rfl
  | cons x xs ih =>
    rw [List.forall_mem_cons] at h
    rw [pyEqList, h.1, ih h.2]
    rfl

theorem pyEqMembers_of_sublist {ms ns : List (PyStr × Json)} (hn : (ns.map Prod.fst).Nodup)
    (hsub : ∀ p ∈ ms, p ∈ ns) (h : ∀ p ∈ ms, pyEq p.2 p.2 = true) : pyEqMembers ms ns = true := by
  induction ms with
  | nil => rfl
  | cons p ms ih =>
    obtain ⟨k, x⟩ := p
    rw [List.forall_mem_cons] at h hsub
    rw [pyEqMembers, Assoc.get?_of_mem hn hsub.1, ih hsub.2 h.2]
    show (pyEq x x && true) = true
    rw [h.1]
    rfl

/-- **A value equals itself** when it holds no NaN and no member name twice. -/
theorem pyEq_self {v : Json} (hn : v.NoNaN) (hd : v.Distinct) : pyEq v v = true := by
  induction v using Json.nested with
  | null => rfl
  | bool b => cases b <;> rfl
  | int n =>
    show decide (n = n) = true
    exact decide_eq_true rfl
  | float x => exact hn x (self_mem_nodes _)
  | str s =>
    show decide (s = s) = true
    exact decide_eq_true rfl
  | arr xs ih =>
    rw [pyEq]
    apply pyEqList_self
    intro x hx
    have hsub : ∀ w ∈ x.nodes, w ∈ nodes (.arr xs) := fun w hw =>
      List.mem_cons_of_mem _ (mem_nodesList.2 ⟨x, hx, hw⟩)
    exact ih x hx (fun y hy => hn y (hsub _ hy)) (fun w hw => hd w (hsub w hw))
  | obj ms ih =>
    rw [pyEq, decide_eq_true rfl, Bool.true_and]
    apply pyEqMembers_of_sublist (hd _ (self_mem_nodes _)) (fun p hp => hp)
    intro p hp
    have hsub : ∀ w ∈ p.2.nodes, w ∈ nodes (.obj ms) := fun w hw =>
      List.mem_cons_of_mem _ (mem_nodesMembers.2 ⟨p, hp, hw⟩)
    exact ih p hp (fun y hy => hn y (hsub _ hy)) (fun w hw => hd w (hsub w hw))

end Json

end PyLib
