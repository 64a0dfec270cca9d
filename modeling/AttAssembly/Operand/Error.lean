import AttAssembly.Text.Digit
/-!
Why an operand cannot be read. Every cause carries the text that is shown with it.
-/
namespace AttAssembly

inductive OperandError where
  | invalidImmediate (token : Text)
  | immediateOutOfRange (token : Text)
  /-- A register operand that does not begin with a percent sign. -/
  | unmarkedRegister (token : Text)
  | unknownRegister (token : Text)
  | invalidDisplacement (token : Text)
  /-- A displacement that runs over the end of a line. A physical line has none. -/
  | brokenDisplacement (token : Text)
  | invalidScale (token : Text)
  | scaleNotAllowed
  | unbalancedParentheses (token : Text)
  | textAfterParenthesis (token : Text)
  | nestedParentheses (token : Text)
  | tooManyComponents (token : Text)
  | invalidBase (token : Text)
  | invalidIndex (token : Text)
  | invalidDirectiveOperand (token : Text)
  /-- A decimal number with more digits than are converted. -/
  | tooManyDigits (count : Nat)
  deriving DecidableEq, Repr

def OperandError.message : OperandError → Text
  | .invalidImmediate token => "invalid immediate: " ++ quoted token
  | .immediateOutOfRange token => "immediate out of 32-bit range: " ++ quoted token
  | .unmarkedRegister token => "invalid register: " ++ quoted token
  | .unknownRegister token => "invalid register: " ++ token
  | .invalidDisplacement token => "invalid displacement: " ++ quoted token
  | .brokenDisplacement token => "displacement broken over two lines: " ++ quoted token
  | .invalidScale token => "invalid scale: " ++ quoted token
  | .scaleNotAllowed => "scale must be 1, 2, 4, or 8"
  | .unbalancedParentheses token =>
      "unbalanced parentheses in memory operand: " ++ quoted token
  | .textAfterParenthesis token =>
      "unexpected text after ')' in memory operand: " ++ quoted token
  | .nestedParentheses token => "nested parentheses in memory operand: " ++ quoted token
  | .tooManyComponents token => "too many components in memory operand: " ++ quoted token
  | .invalidBase token => "invalid base register: " ++ quoted token
  | .invalidIndex token => "invalid index register: " ++ quoted token
  | .invalidDirectiveOperand token => "invalid directive operand: " ++ token
  | .tooManyDigits count => tooManyDigitsMessage (some count)

end AttAssembly
