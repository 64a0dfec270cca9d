import AttAssembly.Lexeme.Label
import AttAssembly.Lexeme.Number
import AttAssembly.Operand.Basic
import AttAssembly.Operand.Error
import AttAssembly.Word
/-!
Reading the operands of instructions. The first code point decides the kind: a dollar sign makes an
immediate, a percent sign a register, and anything else is a memory reference.
-/
namespace AttAssembly

namespace Operand

/-- The number of a token. Too many digits are an error of their own. -/
def readNumber (invalid : OperandError) (token : Text) : Except OperandError Int :=
  match excessDigits? (trim token) with
  | some count => .error (.tooManyDigits count)
  | none =>
      match number? token with
      | some value => .ok value
      | none => .error invalid

def readImmediate (token : Text) : Except OperandError Operand :=
  match trim token with
  | '$' :: rest =>
      let body := trim rest
      if isLabelName body then .ok ⟨'$' :: rest, .immediate (.symbol body), .immediate⟩
      else do
        let value ← readNumber (.invalidImmediate token) body
        if fits32 value then return ⟨'$' :: rest, .immediate (.number value), .immediate⟩
        else .error (.immediateOutOfRange token)
  | _ => .error (.invalidImmediate token)

/-- The register that a token names. -/
def readRegisterName (token : Text) : Except OperandError Register :=
  match Register.read? token with
  | some register => .ok register
  | none => .error (.unknownRegister token)

def readRegister (token : Text) : Except OperandError Operand :=
  match trim token with
  | '%' :: name => do
      let register ← readRegisterName ('%' :: name)
      return ⟨'%' :: name, .register register, .register⟩
  | _ => .error (.unmarkedRegister token)

/-- The number of a displacement, which may have a sign of its own after the one in front of it. -/
def signedDisplacement (token : Text) (symbol : Option Text) (sign : Int) (digits : Text) :
    Except OperandError (Option Text × Option Int) := do
  return (symbol, some (sign * (← readNumber (.invalidDisplacement token) digits)))

/-- A symbol, a number, or a symbol with a signed number after it. Both may be missing. -/
def readDisplacement (token : Text) : Except OperandError (Option Text × Option Int) :=
  let body := trim token
  if '\n' ∈ body then .error (.brokenDisplacement token)
  else
    let (name, rest) := leadingName body
    let symbol := if name = [] then none else some name
    match trim rest with
    | [] => .ok (symbol, none)
    | '+' :: digits => signedDisplacement token symbol 1 digits
    | '-' :: digits => signedDisplacement token symbol (-1) digits
    | digits =>
        if symbol.isSome then .error (.invalidDisplacement token)
        else signedDisplacement token none 1 digits

def readScale (token : Text) : Except OperandError Scale := do
  match Scale.ofFactor? (← readNumber (.invalidScale token) token) with
  | some scale => return scale
  | none => .error .scaleNotAllowed

/-- A scale that may be left out. -/
def readScaleComponent (component : Text) : Except OperandError (Option Scale) :=
  match component with
  | [] => .ok none
  | _ => return some (← readScale component)

/-- Every parenthesis closes one that was opened before it, `depth` of them being open already. -/
def balancedFrom (depth : Nat) : Text → Bool
  | [] => depth = 0
  | '(' :: rest => balancedFrom (depth + 1) rest
  | ')' :: rest =>
      match depth with
      | 0 => false
      | outer + 1 => balancedFrom outer rest
  | _ :: rest => balancedFrom depth rest

def balanced (text : Text) : Bool := balancedFrom 0 text

/-- A component that may be left out: blank means absent, otherwise a register after a percent
    sign. -/
def readComponent (error : Text → OperandError) (component : Text) :
    Except OperandError (Option Register) :=
  match component with
  | [] => .ok none
  | '%' :: name =>
      match Register.read? ('%' :: name) with
      | some register => .ok (some register)
      | none => .error (error component)
  | _ => .error (error component)

/-- The three components between the parentheses; missing ones are blank. -/
def readComponents (token inside : Text) :
    Except OperandError (Option Register × Option Register × Option Scale) :=
  let (first, others) := splitWhere (· = ',') inside
  let components := (first :: others).map trim
  if 3 < components.length then .error (.tooManyComponents token)
  else do
    let base ← readComponent .invalidBase (components.getD 0 [])
    let index ← readComponent .invalidIndex (components.getD 1 [])
    let scale ← readScaleComponent (components.getD 2 [])
    return (base, index, scale)

/-- What follows the opening parenthesis, cut at the last closing one. -/
def splitAtLastClose (text : Text) : Text × Text :=
  let reversed := text.reverse
  ((reversed.dropWhile (· ≠ ')')).tail.reverse, (reversed.takeWhile (· ≠ ')')).reverse)

/-- A reference without its star, and its mode. Without parentheses it is direct unless nothing is
    written. A text after the last parenthesis is noticed before a faulty displacement, and a faulty
    displacement before a parenthesis too many. -/
def readReference (token body : Text) (indirect : Bool) :
    Except OperandError (MemoryReference × AddressingMode) :=
  match body.dropWhile (· ≠ '(') with
  | [] => do
      let (symbol, displacement) ← readDisplacement body
      let mode := if symbol.isSome || displacement.isSome then .direct else .unknown
      return (⟨symbol, displacement, none, none, none, indirect⟩, mode)
  | _ :: rest =>
      let (inside, after) := splitAtLastClose rest
      if trim after ≠ [] then .error (.textAfterParenthesis token)
      else do
        let (symbol, displacement) ← readDisplacement (body.takeWhile (· ≠ '('))
        if '(' ∈ inside then .error (.nestedParentheses token)
        else do
          let (base, index, scale) ← readComponents token inside
          let reference : MemoryReference :=
            ⟨symbol, displacement, base, index, scale, indirect⟩
          return (reference, reference.mode)

/-- Whether a star stands in front, and what follows it. -/
def splitStar (text : Text) : Bool × Text :=
  match text with
  | '*' :: rest => (true, trim rest)
  | _ => (false, text)

/-- A memory reference, or a star before a register: a jump through the register. -/
def readMemory (token : Text) : Except OperandError Operand :=
  let text := trim token
  let (indirect, body) := splitStar text
  if !balanced body then .error (.unbalancedParentheses token)
  else if indirect && body.head? = some '%' then do
    let base ← readRegisterName body
    return ⟨text, .memory ⟨none, none, some base, none, none, true⟩, .indirect⟩
  else do
    let (reference, mode) ← readReference token body indirect
    return ⟨text, .memory reference, mode⟩

/-- An operand of an instruction. -/
def read (token : Text) : Except OperandError Operand :=
  let text := trim token
  match text with
  | '$' :: _ => readImmediate text
  | '%' :: _ => readRegister text
  | _ => readMemory text

end Operand

end AttAssembly
