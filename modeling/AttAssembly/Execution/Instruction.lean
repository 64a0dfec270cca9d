import AttAssembly.Line.Record
import AttAssembly.Machine.Basic
import AttAssembly.Word
/-!
The instructions that can be executed, and how they come out of records. Whether a record yields an
instruction does not depend on the machine: only an empty stack can make an instruction fail.
-/
namespace AttAssembly

inductive Source where
  | number (value : Int)
  | register (register : GeneralRegister)
  deriving DecidableEq, Repr

inductive Arithmetic where
  | add
  | sub
  deriving DecidableEq, Repr

inductive Instruction where
  | move (source : Source) (destination : GeneralRegister)
  | compute (operation : Arithmetic) (source : Source) (destination : GeneralRegister)
  | push (source : Source)
  | pop (destination : GeneralRegister)
  | idle
  /-- An interrupt is named by the text of its operand and does nothing. -/
  | interrupt (vector : Option Text)
  deriving DecidableEq, Repr

/-- The mnemonics that can be executed. -/
inductive Operation where
  | move
  | compute (operation : Arithmetic)
  | push
  | pop
  | idle
  | interrupt
  deriving DecidableEq, Repr

namespace Operation

def all : List Operation := [compute .add, interrupt, move, idle, pop, push, compute .sub]

def name : Operation → Text
  | move => "mov"
  | compute .add => "add"
  | compute .sub => "sub"
  | push => "push"
  | pop => "pop"
  | idle => "nop"
  | interrupt => "int"

def ofName? (name : Text) : Option Operation := all.find? (·.name = name)

end Operation

/-- Why a record is not executed. -/
inductive Rejection where
  | structural (error : LineError)
  | unsupported (statement : Text)
  | destinationNotRegister (mnemonic : Text)
  | registerTooNarrow (register : Register)
  | unresolvedSymbol (name : Text)
  | unsupportedSource (text : Text)
  | emptyStack
  deriving DecidableEq, Repr

namespace Rejection

def message : Rejection → Text
  | structural error => error.message
  | unsupported statement => "unsupported instruction: " ++ statement
  | destinationNotRegister mnemonic => mnemonic ++ " destination must be a register"
  | registerTooNarrow register => "only 32-bit registers are supported: " ++ register.name
  | unresolvedSymbol name => "unresolved symbol: " ++ name
  | unsupportedSource text => "unsupported source operand: " ++ text
  | emptyStack => "stack is empty, cannot pop"

def hint? : Rejection → Option Text
  | unsupported _ => some ("supported: " ++ joinWith ", " (Operation.all.map (·.name)))
  | _ => none

end Rejection

/-- The 32-bit register that an operand has to be. -/
def fullRegister : Register → Except Rejection GeneralRegister
  | .long register => .ok register
  | register => .error (.registerTooNarrow register)

def destinationOf (operation : Operation) (operand : Operand) : Except Rejection GeneralRegister :=
  match operand.form with
  | .register register => fullRegister register
  | _ => .error (.destinationNotRegister operation.name)

def sourceOf (operand : Operand) : Except Rejection Source :=
  match operand.form with
  | .register register => (fullRegister register).map .register
  | .immediate (.number value) => .ok (.number value)
  | .immediate (.symbol name) => .error (.unresolvedSymbol name)
  | _ => .error (.unsupportedSource operand.text)

/-- What becomes of a record before the machine is looked at. -/
inductive Decoded where
  | skipped
  | rejected (causes : List Rejection)
  | instruction (instruction : Instruction)
  | faulty (fault : Fault)
  deriving DecidableEq, Repr

def Decoded.ofExcept : Except Rejection Instruction → Decoded
  | .ok decoded => .instruction decoded
  | .error cause => .rejected [cause]

/-- A destination is looked at before the source. -/
def decodeOperands (operation : Operation) (operands : List Operand) : Decoded :=
  match operation, operands with
  | .move, [source, destination] => .ofExcept do
      let register ← destinationOf .move destination
      return .move (← sourceOf source) register
  | .compute arithmetic, [source, destination] => .ofExcept do
      let register ← destinationOf (.compute arithmetic) destination
      return .compute arithmetic (← sourceOf source) register
  | .push, source :: _ => .ofExcept do return .push (← sourceOf source)
  | .pop, destination :: _ => .ofExcept do return .pop (← destinationOf .pop destination)
  | .idle, _ => .instruction .idle
  | .interrupt, operands => .instruction (.interrupt (operands.head?.map (·.text)))
  | _, _ => .faulty (.missingOperand operation.name)

/-- The mnemonic with the repeat prefix in front of it. -/
def statementName (record : Record) : Text :=
  match record.repetition with
  | some repetition => repetition.name ++ " " ++ record.mnemonic
  | none => record.mnemonic

def decode (record : Record) : Decoded :=
  if record.category = .label ∨ record.category = .directive then .skipped
  else if record.errors ≠ [] then .rejected (record.errors.map .structural)
  else match Operation.ofName? record.mnemonic, record.repetition with
    | some operation, none => decodeOperands operation record.operands
    | _, _ => .rejected [.unsupported (statementName record)]

end AttAssembly
