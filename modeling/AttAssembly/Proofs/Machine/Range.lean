import Mathlib
import AttAssembly.Word

/-!
The integers that 32 bits hold, with or without a sign.
-/

namespace AttAssembly

def InRange (value : Int) : Prop := -2 ^ 31 ≤ value ∧ value ≤ 2 ^ 32 - 1

theorem fits32_iff (value : Int) : fits32 value = true ↔ InRange value := by
  rw [fits32, Bool.and_eq_true, decide_eq_true_iff, decide_eq_true_iff, InRange]
  omega

end AttAssembly
