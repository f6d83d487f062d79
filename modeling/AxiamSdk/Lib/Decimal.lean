import Mathlib.Algebra.Group.Nat.Defs
import Mathlib.Data.List.Induction
import Mathlib.Data.List.TakeWhile
import AxiamSdk.Lib.JsonRender
import AxiamSdk.Lib.PyInt

/-! # Decimal texts

ASCII digits without leading zeros: the texts of the natural numbers.

* `decDigits_valueOf`, `isDecimal_decDigits`: a decimal text and its number determine each other.
* `ofText_decDigits`: `int` reads a decimal text, up to the interpreter's limit.
* `digitsOk_of_ofText`: what `int` reads may be written again. -/

namespace PyLib.Decimal
open JsonDumps JsonText
set_option autoImplicit false

/-- ASCII digits without leading zeros. -/
def isDecimal (text : PyStr) : Bool :=
  !text.isEmpty && text.all (fun c => (digit? c).isSome) && (decide (text.head? ≠ some (ch '0')) || text = [ch '0'])

def valueOf (text : PyStr) : ℕ := text.foldl (fun n c => 10 * n + (digit? c).getD 0) 0

/-! ## Texts and numbers -/

theorem valueOf_append (text : PyStr) (c : CodePoint) :
    valueOf (text ++ [c]) = 10 * valueOf text + (digit? c).getD 0 := by
  rw [valueOf, List.foldl_append]
  rfl

theorem digit?_some {c : CodePoint} {d : ℕ} (h : digit? c = some d) : d < 10 ∧ c = ch (Nat.digitChar d) := by
  unfold digit? at h
  split at h
  · next hrange =>
    obtain rfl := Option.some.inj h
    have hd : c.val - 48 < 10 := by omega
    refine ⟨hd, ?_⟩
    have hval : ∀ d < 10, (ch (Nat.digitChar d)).val = 48 + d := by decide
    apply Fin.ext
    rw [hval _ hd]
    omega
  · cases h

theorem decDigits_valueOf {text : PyStr} (h : isDecimal text = true) : decDigits (valueOf text) = text := by
  induction text using List.reverseRecOn with
  | nil => cases h
  | append_singleton text c ih =>
    simp only [isDecimal, Bool.and_eq_true, List.all_append, Bool.or_eq_true, decide_eq_true_eq] at h
    obtain ⟨⟨-, hall, hc⟩, hzero⟩ := h
    obtain ⟨d, hd⟩ := Option.isSome_iff_exists.1 (by simpa using hc : (digit? c).isSome = true)
    obtain ⟨hlt, rfl⟩ := digit?_some hd
    rw [valueOf_append, hd, Option.getD_some]
    cases text with
    | nil =>
      have hval : 10 * valueOf [] + d = d := by simp [valueOf]
      rw [hval, decDigits_of_lt hlt, List.nil_append]
    | cons c' text =>
      have hhead : (c' :: text).head? ≠ some (ch '0') := by
        refine hzero.elim (fun hne => hne) (fun heq => ?_)
        cases text <;> cases heq
      have hdecimal : isDecimal (c' :: text) = true := by
        simp only [isDecimal, hall, List.isEmpty_cons, Bool.not_false, Bool.true_and, hhead, ne_eq, not_false_eq_true,
          decide_true, Bool.true_or]
      have htext := ih hdecimal
      have hpos : 0 < valueOf (c' :: text) := by
        refine Nat.pos_of_ne_zero (fun hzero => hhead ?_)
        rw [← htext, hzero]
        rfl
      have hdiv : (10 * valueOf (c' :: text) + d) / 10 = valueOf (c' :: text) := by omega
      have hmod : (10 * valueOf (c' :: text) + d) % 10 = d := by omega
      rw [decDigits_of_le (by omega), hdiv, hmod, htext]

open PyInt in
theorem isDigits_of_all {ds : List ℕ} (hne : ds ≠ []) (h : ∀ o ∈ ds, isDigit o = true) : isDigits ds = true := by
  induction ds with
  | nil => exact absurd rfl hne
  | cons o ds ih =>
    cases ds with
    | nil => exact h o List.mem_cons_self
    | cons o' ds =>
      rw [isDigits, h o List.mem_cons_self, ih (by simp) (fun x hx => h x (List.mem_cons_of_mem o hx))]
      rfl

theorem toAscii_digit {c : CodePoint} (h : (digit? c).isSome = true) :
    Uuid.toAscii c = c.val ∧ PyInt.isDigit c.val = true := by
  obtain ⟨d, hd⟩ := Option.isSome_iff_exists.1 h
  obtain ⟨hlt, rfl⟩ := digit?_some hd
  have hall : ∀ d < 10, Uuid.toAscii (ch (Nat.digitChar d)) = (ch (Nat.digitChar d)).val ∧
      PyInt.isDigit (ch (Nat.digitChar d)).val = true := by decide
  exact hall d hlt

theorem value_eq_valueOf (text : PyStr) (h : text.all (fun c => (digit? c).isSome) = true) :
    PyInt.value (text.map Fin.val) = valueOf text := by
  have hfilter : (text.map Fin.val).filter PyInt.isDigit = text.map Fin.val := by
    rw [List.filter_eq_self]
    intro o ho
    obtain ⟨c, hc, rfl⟩ := List.mem_map.1 ho
    exact (toAscii_digit (List.all_eq_true.1 h c hc)).2
  rw [PyInt.value, hfilter, valueOf, List.foldl_map]
  refine List.foldl_ext _ _ _ (fun n c hc => ?_)
  obtain ⟨d, hd⟩ := Option.isSome_iff_exists.1 (List.all_eq_true.1 h c hc)
  obtain ⟨hlt, rfl⟩ := digit?_some hd
  have hall : ∀ d < 10, (ch (Nat.digitChar d)).val - 48 = d := by decide
  rw [hall d hlt, hd, Option.getD_some]

/-- `int` reads a decimal text, unless it has too many digits. -/
theorem ofText_decimal (I : Interp) {text : PyStr} (h : isDecimal text = true) :
    PyInt.ofText I text = if I.digitsOk text.length then .ok (valueOf text : ℤ) else .error .value := by
  simp only [isDecimal, Bool.and_eq_true, Bool.not_eq_true'] at h
  obtain ⟨⟨hempty, hall⟩, -⟩ := h
  have hmap : text.map Uuid.toAscii = text.map Fin.val :=
    List.map_congr_left (fun c hc => (toAscii_digit (List.all_eq_true.1 hall c hc)).1)
  have hdigit : ∀ o ∈ text.map Fin.val, PyInt.isDigit o = true := by
    intro o ho
    obtain ⟨c, hc, rfl⟩ := List.mem_map.1 ho
    exact (toAscii_digit (List.all_eq_true.1 hall c hc)).2
  have hvalue := value_eq_valueOf text hall
  have hlength : (text.map Fin.val).length = text.length := List.length_map ..
  have hne : text.map Fin.val ≠ [] := by
    cases text with
    | nil => cases hempty
    | cons c text => exact List.cons_ne_nil _ _
  rw [← hvalue, ← hlength]
  unfold PyInt.ofText
  rw [hmap]
  generalize text.map Fin.val = ds at hdigit hne
  obtain ⟨o, rest, rfl⟩ := List.exists_cons_of_ne_nil hne
  have ho := hdigit o List.mem_cons_self
  have hrange : 48 ≤ o ∧ o ≤ 57 := of_decide_eq_true ho
  have hdrop : (o :: rest).dropWhile Uuid.isBlank = o :: rest := by
    rw [List.dropWhile_cons_of_neg]
    simp only [Uuid.isBlank, decide_eq_true_eq]
    omega
  have hsign : Uuid.dropSign (o :: rest) = o :: rest := by
    unfold Uuid.dropSign
    split
    · next heq =>
      cases heq
      omega
    · next heq =>
      cases heq
      omega
    · rfl
  have htake : (o :: rest).takeWhile (fun o => PyInt.isDigit o || decide (o = 95)) = o :: rest := by
    rw [List.takeWhile_eq_self_iff]
    intro x hx
    rw [hdigit x hx, Bool.true_or]
  have hfilter : (o :: rest).filter PyInt.isDigit = o :: rest := List.filter_eq_self.2 hdigit
  have h95 : ¬ o = 95 := by omega
  have h45 : ¬ o = 45 := by omega
  dsimp only
  rw [hdrop, hsign, htake, hfilter, isDigits_of_all hne hdigit]
  simp [h95, h45]

theorem foldl_digits_lt (ds : List ℕ) (h : ∀ o ∈ ds, PyInt.isDigit o = true) :
    ds.foldl (fun n o => 10 * n + (o - 48)) 0 < 10 ^ ds.length := by
  induction ds using List.reverseRecOn with
  | nil => exact Nat.one_pos
  | append_singleton ds o ih =>
    have hprefix := ih (fun x hx => h x (List.mem_append_left _ hx))
    have ho : 48 ≤ o ∧ o ≤ 57 := of_decide_eq_true (h o (List.mem_append_right _ List.mem_cons_self))
    rw [List.foldl_append, List.length_append, List.length_singleton, Nat.pow_succ, List.foldl_cons, List.foldl_nil]
    omega

open PyInt in
theorem filter_pos_of_isDigits {ds : List ℕ} (h : isDigits ds = true) : 0 < (ds.filter isDigit).length := by
  fun_induction isDigits ds with
  | case1 => cases h
  | case2 o => simp [h]
  | case3 o o' rest ih =>
    have hrest := ih (Bool.and_eq_true_iff.1 h).2
    exact Nat.lt_of_lt_of_le hrest ((List.sublist_cons_self o (o' :: rest)).filter isDigit).length_le

/-- What `int` reads has no more digits than its text. -/
theorem digitsOk_of_ofText {I : Interp} {text : PyStr} {n : ℤ} (h : PyInt.ofText I text = .ok n) :
    I.digitsOk (decDigits n.natAbs).length = true := by
  unfold PyInt.ofText at h
  dsimp only at h
  generalize (Uuid.dropSign ((text.map Uuid.toAscii).dropWhile Uuid.isBlank)).takeWhile
    (fun o => PyInt.isDigit o || decide (o = 95)) = ds at h
  split at h
  · next hok =>
    simp only [Bool.and_eq_true] at hok
    obtain ⟨⟨⟨-, hdigits⟩, -⟩, hlimit⟩ := hok
    have habs : n.natAbs = PyInt.value ds := by
      rw [← Except.ok.inj h]
      split <;> omega
    have hlt : n.natAbs < 10 ^ (ds.filter PyInt.isDigit).length := by
      rw [habs]
      exact foldl_digits_lt _ (fun o ho => (List.mem_filter.1 ho).2)
    have hlength : (decDigits n.natAbs).length ≤ (ds.filter PyInt.isDigit).length := by
      rw [decDigits, List.length_map]
      exact (Nat.length_toDigits_le_iff (by omega) (filter_pos_of_isDigits hdigits)).2 hlt
    rw [Interp.digitsOk, decide_eq_true_eq] at hlimit ⊢
    omega
  · cases h

end PyLib.Decimal
