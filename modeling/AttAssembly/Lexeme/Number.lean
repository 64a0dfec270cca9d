import AttAssembly.Text.Blank
import AttAssembly.Text.Digit
/-!
Number literals: decimal digits of any script, `0x` with hexadecimal digits or `0b` with binary
digits, in either letter case, after an optional minus sign. There is no plus sign. A decimal literal
with too many digits is recognised but not read.
-/
namespace AttAssembly

def magnitude? : Text → Option Nat
  | '0' :: mark :: digits =>
      if mark = 'x' ∨ mark = 'X' then numeral? 16 hexDigitValue? digits
      else if mark = 'b' ∨ mark = 'B' then numeral? 2 binaryDigitValue? digits
      else numeral? 10 digitValue? ('0' :: mark :: digits)
  | digits => numeral? 10 digitValue? digits

/-- The value that a literal spells. -/
def literal? : Text → Option Int
  | '-' :: digits => (magnitude? digits).map fun value : Nat => -(value : Int)
  | digits => (magnitude? digits).map fun value : Nat => (value : Int)

def withoutMinus : Text → Text
  | '-' :: digits => digits
  | digits => digits

/-- How many digits a decimal literal has, if they are too many. -/
def excessDigits? (literal : Text) : Option Nat :=
  let digits := withoutMinus literal
  if digitLimit < digits.length ∧ (numeral? 10 digitValue? digits).isSome then some digits.length
  else none

/-- The value that is read from a literal, blanks around it ignored. Too many digits give none; unlike
    other tokens without a number they are an error wherever a number is looked for. -/
def number? (token : Text) : Option Int :=
  match excessDigits? (trim token) with
  | some _ => none
  | none => literal? (trim token)

end AttAssembly
