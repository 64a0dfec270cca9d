import AttAssembly.Lexeme.Label
import AttAssembly.Lexeme.Number
import AttAssembly.Operand.Basic
import AttAssembly.Operand.Error
/-!
Reading the operands of directives: a string between double quotes, a number, a symbol, or terms
joined by plus and minus signs. A term is a name that may contain dots and begin with a dot or an
at sign, a dot alone, or a number without a sign.
-/
namespace AttAssembly

namespace Operand

def isDottedPart (c : Char) : Bool := isNamePart c || c = '.'

def isDottedName : Text → Bool
  | [] => false
  | c :: rest => isNameStart c && rest.all isDottedPart

/-- Only a small `x` marks a hexadecimal term. -/
def isTerm : Text → Bool
  | '.' :: name => name = [] || isDottedName name
  | '@' :: name => isDottedName name
  | '0' :: 'x' :: digits => (numeral? 16 hexDigitValue? digits).isSome
  | term => isDottedName term || (numeral? 10 digitValue? term).isSome

def isSign (c : Char) : Bool := c = '+' || c = '-'

def isExpression (text : Text) : Bool :=
  let (term, others) := splitWhere isSign text
  (term :: others).all fun part => isTerm (trim part)

/-- The text between the quotes when the first and the last code point are double quotes. -/
def stringContent? : Text → Option Text
  | '"' :: rest =>
      if rest.getLast? = some '"' then some rest.dropLast else none
  | _ => none

def readDirective (token : Text) : Except OperandError Operand :=
  let text := trim token
  match stringContent? text with
  | some content => .ok ⟨text, .immediate (.string content), .immediate⟩
  | none =>
      match excessDigits? text, number? text with
      | some count, _ => .error (.tooManyDigits count)
      | none, some value => .ok ⟨text, .immediate (.number value), .immediate⟩
      | none, none =>
          if isExpression text then .ok ⟨text, .symbolic, .direct⟩
          else .error (.invalidDirectiveOperand text)

end Operand

end AttAssembly
