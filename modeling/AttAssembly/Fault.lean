import AttAssembly.Text.Basic
/-!
Faults end the work on a whole text. They are apart from the errors that a line may have: an error
is recorded with its line and the next line is read.
-/
namespace AttAssembly

inductive Fault where
  /-- An operand whose displacement runs over the end of a line. -/
  | brokenDisplacement (token : Text)
  /-- An instruction that is executed without the operands it works on. -/
  | missingOperand (mnemonic : Text)
  /-- A value that is missing was counted with, or is left at the end. -/
  | missingValue
  /-- A number with more decimal digits than are written. -/
  | tooManyDigits
  deriving DecidableEq, Repr

end AttAssembly
