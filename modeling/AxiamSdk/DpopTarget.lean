import AxiamSdk.Dpop
import AxiamSdk.Lib.UrlText

/-! # The comparison form of a request URI (`canonical_htu` of `_dpop.py`)

* `canonicalHtu_eq`: the form is read off the text before the first `?` or `#`.
* `Confusable`: the pairs of different texts that have one form; `exact_iff`: the comparison is exact
  on all others. -/

namespace AxiamSdk.Dpop
open PyLib PyLib.Url
set_option autoImplicit false

/-- Of two URIs that have a comparison form, it is the same exactly if they are equal up to query and
fragment. -/
def Exact (L : Library) (a b : PyStr) : Prop :=
  ∀ formA formB, canonicalHtu L a = .ok formA → canonicalHtu L b = .ok formB →
    (formA = formB ↔ untilMark a = untilMark b)

/-- Two texts that differ, but only in leading controls and spaces, in tabs and line breaks, in the case of
the scheme, and in how a path without an authority is spelled. -/
def Confusable (u v : PyStr) : Prop := u ≠ v ∧ Alike u v

theorem untilMark_untilMark (s : PyStr) : untilMark (untilMark s) = untilMark s := List.takeWhile_idem

theorem canonicalHtu_eq {L : Library} {uri form : PyStr} (h : canonicalHtu L uri = .ok form) :
    form = bare (untilMark uri) := by
  unfold canonicalHtu at h
  split at h
  · cases h
  · next parts hparts => rw [← bare_eq hparts, Except.ok.inj h]

theorem exact_iff (L : Library) (a b : PyStr) : Exact L a b ↔
    (isOk (canonicalHtu L a) = true → isOk (canonicalHtu L b) = true → ¬ Confusable (untilMark a) (untilMark b)) := by
  have hform : ∀ formA formB, canonicalHtu L a = .ok formA → canonicalHtu L b = .ok formB →
      (formA = formB ↔ Alike (untilMark a) (untilMark b)) := by
    intro formA formB ha hb
    rw [canonicalHtu_eq ha, canonicalHtu_eq hb]
    exact bare_eq_iff (untilMark_untilMark a) (untilMark_untilMark b)
  constructor
  · intro hexact ha hb hconfusable
    obtain ⟨hne, halike⟩ := hconfusable
    cases hformA : canonicalHtu L a with
    | error e =>
      rw [hformA] at ha
      cases ha
    | ok formA =>
      cases hformB : canonicalHtu L b with
      | error e =>
        rw [hformB] at hb
        cases hb
      | ok formB =>
        exact hne ((hexact formA formB hformA hformB).1 ((hform formA formB hformA hformB).2 halike))
  · intro hnot formA formB ha hb
    constructor
    · intro heq
      by_contra hne
      exact hnot (by rw [ha]; rfl) (by rw [hb]; rfl) ⟨hne, (hform formA formB ha hb).1 heq⟩
    · intro heq
      rw [canonicalHtu_eq ha, canonicalHtu_eq hb, heq]

/-- A tab makes two unequal URIs equal. -/
theorem not_exact : ¬ ∀ (L : Library) (a b : PyStr), Exact L a b := by
  intro hall
  have heq := (hall ReplayAtExpiry.library (lit "https://a/r") (lit "https://a/\tr") (lit "https://a/r")
    (lit "https://a/r") (by decide +kernel) (by decide +kernel)).1 rfl
  revert heq
  decide

end AxiamSdk.Dpop
