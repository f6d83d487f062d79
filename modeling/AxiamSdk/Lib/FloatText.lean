import Mathlib.Tactic.IntervalCases
import AxiamSdk.Lib.JsonRender

/-! # Two layouts of a decimal

A float's shortest digits are the same everywhere; how they are laid out is not. `reprText` is the
layout of `float.__repr__`, `serdeText` the one of `serde_json`. Both write small and large numbers
with an exponent, Python from `1e16` on and below `1e-4` and with a sign and two digits at least.

* `serdeText_eq_iff`: the decimals on which the two layouts agree. -/

namespace PyLib
open JsonDumps JsonText
set_option autoImplicit false

/-- The decimal `0.d₁d₂… · 10 ^ point`. -/
structure Decimal where
  negative : Bool
  digits : List (Fin 10)
  point : ℤ
  nonempty : digits ≠ []

namespace Decimal

def digitText (d : Fin 10) : CodePoint := ch (Nat.digitChar d)

def zeros (n : ℕ) : PyStr := List.replicate n (ch '0')

def sign (d : Decimal) : PyStr := if d.negative then [ch '-'] else []

def digitsText (d : Decimal) : PyStr := d.digits.map digitText

/-- The digits with the point where it falls, at least one digit on each side. -/
def fixed (d : Decimal) : PyStr :=
  if d.point ≤ 0 then lit "0." ++ zeros d.point.natAbs ++ d.digitsText
  else if d.digits.length ≤ d.point then
    d.digitsText ++ zeros (d.point.toNat - d.digits.length) ++ lit ".0"
  else d.digitsText.take d.point.toNat ++ ch '.' :: d.digitsText.drop d.point.toNat

/-- One digit before the point and the others after it, if there are any. -/
def mantissa (d : Decimal) : PyStr :=
  match d.digitsText with
  | [] => []
  | [c] => [c]
  | c :: cs => c :: ch '.' :: cs

/-- The exponent of the digits read as `d₁.d₂…`. -/
def exponent (d : Decimal) : ℤ := d.point - 1

/-- The layout of `float.__repr__`. -/
def reprText (d : Decimal) : PyStr :=
  if d.point ≤ -4 ∨ 16 < d.point then
    let e := decDigits d.exponent.natAbs
    d.sign ++ d.mantissa ++ ch 'e' :: (if d.exponent < 0 then ch '-' else ch '+') ::
      (zeros (2 - e.length) ++ e)
  else d.sign ++ d.fixed

/-- The layout of `serde_json`. -/
def serdeText (d : Decimal) : PyStr :=
  if d.point ≤ -5 ∨ 16 < d.point then d.sign ++ d.mantissa ++ ch 'e' :: intRepr d.exponent
  else d.sign ++ d.fixed

/-! ## The characters -/

theorem isNumChar_digit : ∀ d < 10, isNumChar (ch (Nat.digitChar d)) = true := by decide

theorem all_isNumChar_decDigits (n : ℕ) : (decDigits n).all isNumChar = true := by
  induction n using Nat.strongRecOn with
  | ind n ih =>
    by_cases h : n < 10
    · rw [decDigits_of_lt h, List.all_cons, isNumChar_digit n h]
      rfl
    · rw [decDigits_of_le (by omega), List.all_append, ih _ (by omega), List.all_cons,
        isNumChar_digit _ (Nat.mod_lt _ (by omega))]
      rfl

theorem all_isNumChar_zeros (n : ℕ) : (zeros n).all isNumChar = true := by
  rw [List.all_eq_true]
  intro c hc
  rw [(List.mem_replicate.1 hc).2]
  decide

theorem isNumChar_of_mem_digitsText {d : Decimal} {c : CodePoint} (hc : c ∈ d.digitsText) :
    isNumChar c = true := by
  obtain ⟨x, _, rfl⟩ := List.mem_map.1 hc
  exact isNumChar_digit x x.isLt

theorem all_isNumChar_sign (d : Decimal) : d.sign.all isNumChar = true := by
  unfold sign
  cases d.negative <;> decide

theorem all_isNumChar_fixed (d : Decimal) : d.fixed.all isNumChar = true := by
  have hdigits : d.digitsText.all isNumChar = true :=
    List.all_eq_true.2 (fun c hc => isNumChar_of_mem_digitsText hc)
  have hzero : (lit "0.").all isNumChar = true := by decide
  have hend : (lit ".0").all isNumChar = true := by decide
  have hdot : isNumChar (ch '.') = true := by decide
  unfold fixed
  split
  · rw [List.all_append, List.all_append, hzero, all_isNumChar_zeros, hdigits]
    rfl
  split
  · rw [List.all_append, List.all_append, hdigits, all_isNumChar_zeros, hend]
    rfl
  · rw [List.all_append, List.all_cons, hdot]
    rw [List.all_eq_true] at hdigits
    rw [List.all_eq_true.2 (fun c hc => hdigits c (List.mem_of_mem_take hc)),
      List.all_eq_true.2 (fun c hc => hdigits c (List.mem_of_mem_drop hc))]
    rfl

theorem all_isNumChar_mantissa (d : Decimal) : d.mantissa.all isNumChar = true := by
  have hdigits : d.digitsText.all isNumChar = true :=
    List.all_eq_true.2 (fun c hc => isNumChar_of_mem_digitsText hc)
  have hdot : isNumChar (ch '.') = true := by decide
  unfold mantissa
  split
  · rfl
  · next c h => rwa [h] at hdigits
  · next c cs _ h =>
    rw [h, List.all_cons, Bool.and_eq_true] at hdigits
    rw [List.all_cons, List.all_cons, hdigits.1, hdigits.2, hdot]
    rfl

theorem all_isNumChar_reprText (d : Decimal) : d.reprText.all isNumChar = true := by
  have he : isNumChar (ch 'e') = true := by decide
  have hs : isNumChar (if d.exponent < 0 then ch '-' else ch '+') = true := by
    split <;> decide
  unfold reprText
  split
  · simp only [List.all_append, List.all_cons, all_isNumChar_sign, all_isNumChar_mantissa,
      all_isNumChar_zeros, all_isNumChar_decDigits, he, hs, Bool.and_self]
  · rw [List.all_append, all_isNumChar_sign, all_isNumChar_fixed]
    rfl

theorem all_isNumChar_serdeText (d : Decimal) : d.serdeText.all isNumChar = true := by
  have he : isNumChar (ch 'e') = true := by decide
  have hexp : (intRepr d.exponent).all isNumChar = true := by
    have hm : isNumChar (ch '-') = true := by decide
    unfold intRepr
    split
    · rw [List.all_cons, hm, all_isNumChar_decDigits]
      rfl
    · exact all_isNumChar_decDigits _
  unfold serdeText
  split
  · rw [List.all_append, List.all_append, List.all_cons, all_isNumChar_sign, all_isNumChar_mantissa,
      he, hexp]
    rfl
  · rw [List.all_append, all_isNumChar_sign, all_isNumChar_fixed]
    rfl

/-! ## Where the layouts differ -/

theorem not_mem_fixed_e (d : Decimal) : ch 'e' ∉ d.fixed := by
  have hdigits : ch 'e' ∉ d.digitsText := by
    intro h
    obtain ⟨x, _, hx⟩ := List.mem_map.1 h
    have hne : ∀ y < 10, ch (Nat.digitChar y) ≠ ch 'e' := by decide
    exact hne x x.isLt hx
  have hzeros : ∀ n, ch 'e' ∉ zeros n := by
    intro n h
    have hz := (List.mem_replicate.1 h).2
    revert hz
    decide
  have hzero : ch 'e' ∉ lit "0." := by decide
  have hend : ch 'e' ∉ lit ".0" := by decide
  have hdot : ch 'e' ≠ ch '.' := by decide
  unfold fixed
  split
  · simp only [List.mem_append, hzero, hzeros, hdigits, or_self, not_false_eq_true]
  split
  · simp only [List.mem_append, hend, hzeros, hdigits, or_self, not_false_eq_true]
  · rw [List.mem_append, List.mem_cons, not_or, not_or]
    exact ⟨fun h => hdigits (List.mem_of_mem_take h), hdot,
      fun h => hdigits (List.mem_of_mem_drop h)⟩

/-- The exponents that both layouts write the same way have a minus sign and two digits. -/
theorem exponent_eq_iff (e : ℤ) :
    intRepr e = (if e < 0 then ch '-' else ch '+') ::
      (zeros (2 - (decDigits e.natAbs).length) ++ decDigits e.natAbs) ↔ e ≤ -10 := by
  have hlen : (decDigits e.natAbs).length ≤ 1 ↔ e.natAbs < 10 := by
    rw [decDigits, List.length_map]
    exact Nat.length_toDigits_le_iff (by omega) (by omega)
  unfold intRepr
  by_cases hneg : e < 0
  · rw [if_pos hneg, if_pos hneg]
    constructor
    · intro h
      have hl := congrArg List.length (List.cons.inj h).2
      rw [List.length_append, zeros, List.length_replicate] at hl
      omega
    · intro h
      have hz : 2 - (decDigits e.natAbs).length = 0 := by omega
      rw [hz]
      rfl
  · rw [if_neg hneg, if_neg hneg]
    constructor
    · intro h
      obtain ⟨d, t, hd, ht⟩ := decDigits_head e.natAbs
      rw [ht] at h
      have hne : ∀ d < 10, ch (Nat.digitChar d) ≠ ch '+' := by decide
      exact absurd (List.cons.inj h).1 (hne d hd)
    · intro h
      omega

/-- **The two layouts** agree outside `1e-9 ≤ |x| < 1e-4` and `1e16 ≤ |x|`. -/
theorem serdeText_eq_iff (d : Decimal) :
    d.serdeText = d.reprText ↔ ¬ (16 < d.point ∨ (-9 < d.point ∧ d.point ≤ -4)) := by
  unfold serdeText reprText
  by_cases hmid : -4 < d.point ∧ d.point ≤ 16
  · have h1 : ¬ (d.point ≤ -5 ∨ 16 < d.point) := by omega
    have h2 : ¬ (d.point ≤ -4 ∨ 16 < d.point) := by omega
    rw [if_neg h1, if_neg h2]
    exact ⟨fun _ => by omega, fun _ => rfl⟩
  by_cases hedge : d.point = -4
  · have h1 : ¬ (d.point ≤ -5 ∨ 16 < d.point) := by omega
    have h2 : d.point ≤ -4 ∨ 16 < d.point := by omega
    rw [if_neg h1, if_pos h2]
    constructor
    · intro h
      have hmem : ch 'e' ∈ d.fixed := by
        rw [List.append_assoc] at h
        rw [List.append_cancel_left h]
        simp
      exact absurd hmem (not_mem_fixed_e d)
    · intro h
      omega
  · have h1 : d.point ≤ -5 ∨ 16 < d.point := by omega
    have h2 : d.point ≤ -4 ∨ 16 < d.point := by omega
    rw [if_pos h1, if_pos h2]
    have hexp : d.exponent ≤ -10 ↔ ¬ (16 < d.point ∨ (-9 < d.point ∧ d.point ≤ -4)) := by
      unfold exponent
      omega
    rw [← hexp, ← exponent_eq_iff]
    constructor
    · intro h
      exact (List.cons.inj (List.append_cancel_left h)).2
    · intro h
      show _ = d.sign ++ d.mantissa ++ ch 'e' :: (if d.exponent < 0 then ch '-' else ch '+') ::
        (zeros (2 - (decDigits d.exponent.natAbs).length) ++ decDigits d.exponent.natAbs)
      rw [← h]

end Decimal

end PyLib
