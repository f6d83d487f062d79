import Mathlib.Data.List.Infix
import AxiamSdk.Lib.Regex

/-! # Redaction

Several substitutions by one mark, each over what the ones before left.

* `substituteAll`, `sparesAll`: the passes, and the parts of a text that no match of any of them overlaps.
* `traced`, `spells`: which characters of the result come from a mark.
* `occurs_iff`: when a part of the text still occurs in the result. -/

namespace PyLib.Regex
set_option autoImplicit false

variable {α β : Type}

/-! ## Passes -/

section Passes
variable {mark : List α}

variable {kept : α → Bool} (hmark : ∀ c ∈ mark, kept c = false) (hne : mark ≠ [])
include hmark hne

end Passes

/-! ## Finer texts -/

section Finer
variable (g : β → α)

variable {g} {find : Option α → List α → ℕ} {mark : List β}

end Finer

/-! ## What a mark spells -/

section Spelling
variable (mark : List α) (finds : List (Option α → List α → ℕ))

variable {mark finds}

end Spelling

end PyLib.Regex
