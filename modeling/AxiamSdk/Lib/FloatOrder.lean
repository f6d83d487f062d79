import Mathlib.Data.Prod.Lex
import Mathlib.Data.Int.Order.Basic

/-! # The order of binary64 floats

`Float` compares by IEEE 754: a comparison with NaN is false. Every other float has a rank in a
linear order, and `<` and `≤` compare ranks (`lt_iff_rank`, `le_iff_rank`); transitivity follows. -/

namespace PyLib.FloatOrder
open Float.Model
set_option autoImplicit false

/-- Class of the float (negative infinity, negative, zero, positive, infinity), exponent, mantissa. -/
abbrev Rank := ℤ ×ₗ ℤ ×ₗ ℤ

def mkRank (a b c : ℤ) : Rank := toLex (a, toLex (b, c))

def unpackedRank : UnpackedFloat → Option Rank
  | .notANumber => none
  | .infinity .positive => some (mkRank 2 0 0)
  | .infinity .negative => some (mkRank (-2) 0 0)
  | .zero _ => some (mkRank 0 0 0)
  | .finite .positive m e _ => some (mkRank 1 e m)
  | .finite .negative m e _ => some (mkRank (-1) (-e) (-m))

/-- The rank of a float; NaN has none. -/
def rank (x : Float) : Option Rank := unpackedRank x.toModel.unpack

theorem mkRank_lt_iff {a b c a' b' c' : ℤ} :
    mkRank a b c < mkRank a' b' c' ↔ a < a' ∨ a = a' ∧ (b < b' ∨ b = b' ∧ c < c') := by
  simp only [mkRank, Prod.Lex.toLex_lt_toLex]

theorem mkRank_inj {a b c a' b' c' : ℤ} :
    mkRank a b c = mkRank a' b' c' ↔ a = a' ∧ b = b' ∧ c = c' := by
  simp [mkRank]

theorem then_eq_lt {α β : Type*} [LinearOrder α] [LinearOrder β] (a b : α) (c d : β) :
    (compare a b).then (compare c d) = .lt ↔ a < b ∨ a = b ∧ c < d := by
  rcases lt_trichotomy a b with h | h | h
  · simp [compare_lt_iff_lt.2 h, h]
  · simp [h, compare_lt_iff_lt]
  · simp [compare_gt_iff_gt.2 h, not_lt_of_gt h, ne_of_gt h]

theorem then_eq_gt {α β : Type*} [LinearOrder α] [LinearOrder β] (a b : α) (c d : β) :
    (compare a b).then (compare c d) = .gt ↔ b < a ∨ a = b ∧ d < c := by
  rcases lt_trichotomy a b with h | h | h
  · simp [compare_lt_iff_lt.2 h, not_lt_of_gt h, ne_of_lt h]
  · simp [h, compare_gt_iff_gt]
  · simp [compare_gt_iff_gt.2 h, h]

/-! ## Comparisons compare ranks -/

theorem unpacked_lt_iff (a b : UnpackedFloat) :
    a.compare b = some .lt ↔ ∃ x y, unpackedRank a = some x ∧ unpackedRank b = some y ∧ x < y := by
  rcases a with (_ | _) | _ | _ | ⟨_ | _, m, e, hm⟩ <;>
    rcases b with (_ | _) | _ | _ | ⟨_ | _, m', e', hm'⟩ <;>
    dsimp only [UnpackedFloat.compare, unpackedRank] <;>
    simp [mkRank_lt_iff, Ordering.swap_eq_lt, then_eq_gt, then_eq_lt]
  all_goals decide

theorem unpacked_eq_iff (a b : UnpackedFloat) :
    a.compare b = some .eq ↔ ∃ x y, unpackedRank a = some x ∧ unpackedRank b = some y ∧ x = y := by
  rcases a with (_ | _) | _ | _ | ⟨_ | _, m, e, hm⟩ <;>
    rcases b with (_ | _) | _ | _ | ⟨_ | _, m', e', hm'⟩ <;>
    dsimp only [UnpackedFloat.compare, unpackedRank] <;>
    simp [mkRank_inj]
  all_goals first | decide | omega

theorem lt_iff_rank (a b : Float) :
    a < b ↔ ∃ x y, rank a = some x ∧ rank b = some y ∧ x < y := by
  rw [rank, rank, ← unpacked_lt_iff]
  show decide (a.toModel < b.toModel) = true ↔ _
  rw [decide_eq_true_iff]
  show (a.toModel.unpack.compare b.toModel.unpack == some .lt) = true ↔ _
  rw [beq_iff_eq]

theorem le_iff_rank (a b : Float) :
    a ≤ b ↔ ∃ x y, rank a = some x ∧ rank b = some y ∧ x ≤ y := by
  have h : a ≤ b ↔ a.toModel.unpack.compare b.toModel.unpack = some .lt ∨
      a.toModel.unpack.compare b.toModel.unpack = some .eq := by
    show decide (a.toModel ≤ b.toModel) = true ↔ _
    rw [decide_eq_true_iff]
    show (a.toModel.unpack.compare b.toModel.unpack).any (·.isLE) = true ↔ _
    rcases a.toModel.unpack.compare b.toModel.unpack with _ | (_ | _ | _) <;> decide
  rw [h, unpacked_lt_iff, unpacked_eq_iff]
  constructor
  · rintro (⟨x, y, hx, hy, hxy⟩ | ⟨x, y, hx, hy, hxy⟩)
    · exact ⟨x, y, hx, hy, hxy.le⟩
    · exact ⟨x, y, hx, hy, hxy.le⟩
  · rintro ⟨x, y, hx, hy, hxy⟩
    rcases hxy.lt_or_eq with hlt | heq
    · exact Or.inl ⟨x, y, hx, hy, hlt⟩
    · exact Or.inr ⟨x, y, hx, hy, heq⟩

/-! ## Order laws -/

theorem le_trans {a b c : Float} (hab : a ≤ b) (hbc : b ≤ c) : a ≤ c := by
  obtain ⟨x, y, hx, hy, hxy⟩ := (le_iff_rank a b).1 hab
  obtain ⟨y', z, hy', hz, hyz⟩ := (le_iff_rank b c).1 hbc
  obtain rfl : y = y' := Option.some.inj (hy.symm.trans hy')
  exact (le_iff_rank a c).2 ⟨x, z, hx, hz, hxy.trans hyz⟩

theorem lt_of_lt_of_le {a b c : Float} (hab : a < b) (hbc : b ≤ c) : a < c := by
  obtain ⟨x, y, hx, hy, hxy⟩ := (lt_iff_rank a b).1 hab
  obtain ⟨y', z, hy', hz, hyz⟩ := (le_iff_rank b c).1 hbc
  obtain rfl : y = y' := Option.some.inj (hy.symm.trans hy')
  exact (lt_iff_rank a c).2 ⟨x, z, hx, hz, hxy.trans_le hyz⟩

theorem lt_of_le_of_lt {a b c : Float} (hab : a ≤ b) (hbc : b < c) : a < c := by
  obtain ⟨x, y, hx, hy, hxy⟩ := (le_iff_rank a b).1 hab
  obtain ⟨y', z, hy', hz, hyz⟩ := (lt_iff_rank b c).1 hbc
  obtain rfl : y = y' := Option.some.inj (hy.symm.trans hy')
  exact (lt_iff_rank a c).2 ⟨x, z, hx, hz, hxy.trans_lt hyz⟩

theorem not_le_of_lt {a b : Float} (h : a < b) : ¬ b ≤ a := by
  intro h'
  obtain ⟨x, y, hx, hy, hxy⟩ := (lt_iff_rank a b).1 h
  obtain ⟨y', x', hy', hx', hyx⟩ := (le_iff_rank b a).1 h'
  obtain rfl : y = y' := Option.some.inj (hy.symm.trans hy')
  obtain rfl : x = x' := Option.some.inj (hx.symm.trans hx')
  exact absurd hxy (not_lt_of_ge hyx)

/-! ## NaN -/

theorem unpacked_isNaN_iff (a : UnpackedFloat) : a.isNaN = true ↔ unpackedRank a = none := by
  rcases a with (_ | _) | _ | _ | ⟨_ | _, m, e, hm⟩
  case notANumber => exact iff_of_true rfl rfl
  all_goals exact iff_of_false Bool.false_ne_true (Option.some_ne_none _)

theorem isNaN_iff_rank (x : Float) : x.isNaN = true ↔ rank x = none :=
  unpacked_isNaN_iff x.toModel.unpack

theorem rank_of_not_isNaN {x : Float} (h : x.isNaN = false) : ∃ r, rank x = some r := by
  cases hr : rank x with
  | none =>
    rw [(isNaN_iff_rank x).2 hr] at h
    cases h
  | some r => exact ⟨r, rfl⟩

theorem le_of_not_lt {a b : Float} (ha : a.isNaN = false) (hb : b.isNaN = false) (h : ¬ a < b) :
    b ≤ a := by
  obtain ⟨x, hx⟩ := rank_of_not_isNaN ha
  obtain ⟨y, hy⟩ := rank_of_not_isNaN hb
  rw [lt_iff_rank] at h
  rw [le_iff_rank]
  exact ⟨y, x, hy, hx, not_lt.1 (fun hlt => h ⟨x, y, hx, hy, hlt⟩)⟩

theorem not_isNaN_of_le {a b : Float} (h : a ≤ b) : a.isNaN = false ∧ b.isNaN = false := by
  obtain ⟨x, y, hx, hy, _⟩ := (le_iff_rank a b).1 h
  constructor
  · rw [Bool.eq_false_iff, ne_eq, isNaN_iff_rank, hx]
    simp
  · rw [Bool.eq_false_iff, ne_eq, isNaN_iff_rank, hy]
    simp

theorem isNaN_ite {c : Prop} [Decidable c] {x y : UnpackedFloat} (hx : x.isNaN = false) (hy : y.isNaN = false) :
    (if c then x else y).isNaN = false := by
  by_cases h : c
  · rw [if_pos h]
    exact hx
  · rw [if_neg h]
    exact hy

theorem isNaN_dite {c : Prop} [Decidable c] {x : c → UnpackedFloat} {y : ¬ c → UnpackedFloat}
    (hx : ∀ h, (x h).isNaN = false) (hy : ∀ h, (y h).isNaN = false) : (dite c x y).isNaN = false := by
  by_cases h : c
  · rw [dif_pos h]
    exact hx h
  · rw [dif_neg h]
    exact hy h

theorem isNaN_unpack (spec : Format) (b : BitVec spec.numBits) :
    (UnpackedFloat.unpack spec b).isNaN = true ↔
      UnpackedFloat.unpackExponent b = -1#_ ∧ UnpackedFloat.unpackMantissa b ≠ 0#_ := by
  unfold UnpackedFloat.unpack
  dsimp only
  by_cases hexponent : UnpackedFloat.unpackExponent b = -1#_
  · rw [if_pos hexponent]
    by_cases hmantissa : UnpackedFloat.unpackMantissa b = 0#_
    · rw [if_pos hmantissa]
      exact iff_of_false Bool.false_ne_true (fun h => h.2 hmantissa)
    · rw [if_neg hmantissa]
      exact iff_of_true rfl ⟨hexponent, hmantissa⟩
  · rw [if_neg hexponent]
    refine iff_of_false (fun h => ?_) (fun h => hexponent h.1)
    rw [isNaN_ite (isNaN_dite (fun _ => rfl) (fun _ => rfl)) rfl] at h
    cases h

theorem isNaN_unpack_pack (a : UnpackedFloat) (h : a.isNaN = false) :
    (UnpackedFloat.unpack Format.binary64 (UnpackedFloat.pack Format.binary64 a)).isNaN = false := by
  rw [Bool.eq_false_iff, ne_eq, isNaN_unpack]
  fun_cases UnpackedFloat.pack Format.binary64 a with
  | case1 => cases h
  | case2 s => simp [UnpackedFloat.packedInfinity]
  | case3 s => simp [UnpackedFloat.packedZero]
  | case4 s m e hm biased hbig => simp [UnpackedFloat.packedInfinity]
  | case5 s m e hm bits biased hsmall hbits =>
    rw [UnpackedFloat.unpackExponent_packComponents]
    rintro ⟨hexp, _⟩
    have hnat := congrArg BitVec.toNat hexp
    simp only [BitVec.toNat_ofNat] at hnat
    have hlt : biased < 2047 := by simpa using hsmall
    rw [Nat.mod_eq_of_lt (by omega)] at hnat
    simp at hnat
    omega
  | case6 s m e hm bits biased hsmall hbits => simp

theorem isNaN_ofPack (a : UnpackedFloat) (h : a.isNaN = false) :
    (Float.ofModel (Float.Model.pack a)).isNaN = false :=
  isNaN_unpack_pack a h

theorem unpacked_isNaN_round (s : UnpackedFloat.Sign) (m : ℕ) (e : ℤ) (acc : UnpackedFloat.Accuracy) :
    (UnpackedFloat.roundWithAccuracy Format.binary64 s m e acc).isNaN = false := by
  unfold UnpackedFloat.roundWithAccuracy
  exact isNaN_dite (fun _ => rfl) (fun _ => rfl)

theorem unpacked_isNaN_normalize (m : Int) (e : Int) :
    (UnpackedFloat.normalize Format.binary64 m e .positive).isNaN = false := by
  unfold UnpackedFloat.normalize
  split
  · exact unpacked_isNaN_round _ _ _ _
  · rfl
  · exact unpacked_isNaN_round _ _ _ _

theorem unpacked_isNaN_of_isFinite {a : UnpackedFloat} (h : a.isFinite = true) : a.isNaN = false := by
  cases a with
  | notANumber => cases h
  | _ => rfl

theorem unpacked_isNaN_sub {a b : UnpackedFloat} (ha : a.isNaN = false) (hb : b.isNaN = false)
    (h : a.isFinite = true ∨ b.isFinite = true) : (UnpackedFloat.sub Format.binary64 a b).isNaN = false := by
  cases a with
  | notANumber => cases ha
  | infinity s =>
    cases b with
    | notANumber => cases hb
    | infinity s' => rcases h with h | h <;> cases h
    | _ => rfl
  | zero s =>
    cases b with
    | notANumber => cases hb
    | zero s' => cases s <;> cases s' <;> rfl
    | _ => rfl
  | finite s m e hm =>
    cases b with
    | notANumber => cases hb
    | finite s' m' e' hm' => exact unpacked_isNaN_normalize _ _
    | _ => rfl

theorem isNaN_sub {a b : Float} (ha : a.isFinite = true) (hb : b.isNaN = false) : (a - b).isNaN = false :=
  isNaN_ofPack _ (unpacked_isNaN_sub (unpacked_isNaN_of_isFinite ha) hb (Or.inl ha))

theorem isNaN_abs {a : Float} (ha : a.isNaN = false) : a.abs.isNaN = false := by
  apply isNaN_ofPack
  change a.toModel.unpack.isNaN = false at ha
  revert ha
  rcases a.toModel.unpack with s | _ | s | ⟨s, m, e, hm⟩ <;> intro ha
  · rfl
  · cases ha
  · rfl
  · rfl

theorem isNaN_ofModel_notANumber : (Float.ofModel (Float.Model.pack .notANumber)).isNaN = true := by rfl

theorem unpack_of_isNaN {a : Float} (ha : a.isNaN = true) : a.toModel.unpack = .notANumber := by
  change a.toModel.unpack.isNaN = true at ha
  revert ha
  rcases a.toModel.unpack with s | _ | s | ⟨s, m, e, hm⟩ <;> intro ha <;> first | rfl | cases ha

theorem isNaN_abs_sub_of_isNaN {a b : Float} (hb : b.isNaN = true) : (a - b).abs.isNaN = true := by
  have hsub : a - b = Float.ofModel (Float.Model.pack .notANumber) := by
    show Float.ofModel (Float.Model.pack (UnpackedFloat.sub _ a.toModel.unpack b.toModel.unpack)) = _
    rw [unpack_of_isNaN hb]
    rcases a.toModel.unpack with s | _ | s | ⟨s, m, e, hm⟩ <;> rfl
  rw [hsub]
  show (Float.ofModel (Float.Model.pack (Float.ofModel (Float.Model.pack .notANumber)).toModel.unpack.abs)).isNaN = true
  rw [unpack_of_isNaN isNaN_ofModel_notANumber]
  exact isNaN_ofModel_notANumber

theorem sub_self_eq (x : Float) : x - x = 0.0 ∨ (x - x).isNaN = true := by
  have h : ∀ u : UnpackedFloat, UnpackedFloat.sub Format.binary64 u u = .zero .positive ∨
      UnpackedFloat.sub Format.binary64 u u = .notANumber := by
    intro u
    rcases u with s | _ | s | ⟨s, m, e, hm⟩
    · right
      cases s <;> rfl
    · right
      rfl
    · left
      cases s <;> rfl
    · left
      show UnpackedFloat.normalize _ (_ - _) _ _ = _
      rw [Int.sub_self]
      rfl
  have hx : x - x = Float.ofModel (Float.Model.pack
      (UnpackedFloat.sub Format.binary64 x.toModel.unpack x.toModel.unpack)) := rfl
  rcases h x.toModel.unpack with h | h
  · left
    rw [hx, h]
    rfl
  · right
    rw [hx, h]
    exact isNaN_ofModel_notANumber

theorem isNaN_mul {a : Float} (b : Float) (ha : a.isNaN = true) : (a * b).isNaN = true := by
  have hmul : a * b = Float.ofModel (Float.Model.pack .notANumber) := by
    show Float.ofModel (Float.Model.pack (UnpackedFloat.mul _ a.toModel.unpack b.toModel.unpack)) = _
    rw [unpack_of_isNaN ha]
    rcases b.toModel.unpack with s | _ | s | ⟨s, m, e, hm⟩ <;> rfl
  rw [hmul]
  exact isNaN_ofModel_notANumber

/-! ## Numbers that are no NaN -/

theorem isNaN_neg {a : Float} (ha : a.isNaN = false) : (-a).isNaN = false := by
  apply isNaN_ofPack
  change a.toModel.unpack.isNaN = false at ha
  revert ha
  rcases a.toModel.unpack with s | _ | s | ⟨s, m, e, hm⟩ <;> intro ha
  · rfl
  · cases ha
  · rfl
  · rfl

theorem isNaN_sub_finite {a b : Float} (ha : a.isNaN = false) (hb : b.isFinite = true) : (a - b).isNaN = false :=
  isNaN_ofPack _ (unpacked_isNaN_sub ha (unpacked_isNaN_of_isFinite hb) (Or.inr hb))

/-- The unpacked number is finite and not zero. -/
def isNonzero : UnpackedFloat → Bool
  | .finite _ _ _ _ => true
  | _ => false

theorem unpacked_isNaN_mul {a b : UnpackedFloat} (ha : a.isNaN = false) (hb : isNonzero b = true) :
    (UnpackedFloat.mul Format.binary64 a b).isNaN = false := by
  cases b with
  | finite s m e hm =>
    cases a with
    | notANumber => cases ha
    | infinity s' => rfl
    | zero s' => rfl
    | finite s' m' e' hm' => exact unpacked_isNaN_round _ _ _ _
  | _ => cases hb

theorem unpacked_isNaN_div {a b : UnpackedFloat} (ha : a.isNaN = false) (hb : isNonzero b = true) :
    (UnpackedFloat.div Format.binary64 a b).isNaN = false := by
  cases b with
  | finite s m e hm =>
    cases a with
    | notANumber => cases ha
    | infinity s' => rfl
    | zero s' => rfl
    | finite s' m' e' hm' => exact unpacked_isNaN_round _ _ _ _
  | _ => cases hb

theorem unpacked_isNaN_ofScientific (m : ℕ) (e : ℤ) :
    (UnpackedFloat.ofScientific Format.binary64 m e).isNaN = false := by
  unfold UnpackedFloat.ofScientific
  refine isNaN_dite (fun _ => rfl) (fun _ => isNaN_ite rfl (isNaN_ite rfl (isNaN_ite ?_ ?_)))
  · exact unpacked_isNaN_mul rfl rfl
  · exact unpacked_isNaN_div rfl rfl

theorem isNaN_toFloat (n : UInt64) : n.toFloat.isNaN = false := isNaN_ofPack _ (unpacked_isNaN_normalize _ _)

theorem isNonzero_one : isNonzero (Float.ofBits 0x3FF0000000000000).toModel.unpack = true := by rfl

theorem isNonzero_million : isNonzero (Float.ofBits 0x412E848000000000).toModel.unpack = true := by rfl

theorem isNaN_ofNat (n : ℕ) : (Float.ofNat n).isNaN = false := by
  show (Float.ofScientific n false 0).isNaN = false
  unfold Float.ofScientific
  split
  · exact isNaN_ofPack _ (unpacked_isNaN_mul (isNaN_toFloat _) isNonzero_one)
  · exact isNaN_ofPack _ (unpacked_isNaN_ofScientific _ _)

theorem isNaN_ofInt (n : ℤ) : (Float.ofInt n).isNaN = false := by
  cases n with
  | ofNat n => exact isNaN_ofNat n
  | negSucc n => exact isNaN_neg (isNaN_ofNat (n + 1))

theorem isNaN_millionths (n : ℕ) : (Float.ofScientific n true 6).isNaN = false := by
  unfold Float.ofScientific
  split
  · exact isNaN_ofPack _ (unpacked_isNaN_div (isNaN_toFloat _) isNonzero_million)
  · exact isNaN_ofPack _ (unpacked_isNaN_ofScientific _ _)

/-- `float(n)`; `none` is the `OverflowError` of an integer too large for a float. -/
def ofInt? (n : Int) : Option Float :=
  let x := Float.ofInt n
  if x.isInf then none else some x

theorem isFinite_ofInt? {n : ℤ} {x : Float} (h : ofInt? n = some x) : x.isFinite = true := by
  have hx : Float.ofInt n = x ∧ (Float.ofInt n).isInf = false := by
    unfold ofInt? at h
    dsimp only at h
    split at h
    · cases h
    · next hinf => exact ⟨Option.some.inj h, by simpa using hinf⟩
  obtain ⟨rfl, hinf⟩ := hx
  have hnan := isNaN_ofInt n
  change (Float.ofInt n).toModel.unpack.isFinite = true
  change (Float.ofInt n).toModel.unpack.isNaN = false at hnan
  change (Float.ofInt n).toModel.unpack.isInf = false at hinf
  revert hnan hinf
  rcases (Float.ofInt n).toModel.unpack with s | _ | s | ⟨s, m, e, hm⟩
  · intro _ h
    cases h
  · intro h
    cases h
  · intros
    rfl
  · intros
    rfl

end PyLib.FloatOrder
