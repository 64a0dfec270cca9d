import AttAssembly.Fault
import AttAssembly.Mnemonic.Validation
import AttAssembly.Operand.Error
/-!
What is known about one line of source: its parts, their classification, and every error in it.
-/
namespace AttAssembly

inductive LineError where
  | operand (error : OperandError)
  | instruction (error : InstructionError)
  | unknownDirective (name : Text)
  | loneRepeat
  deriving DecidableEq, Repr

namespace LineError

def message : LineError → Text
  | operand error => error.message
  | instruction error => error.message
  | unknownDirective name => "unknown directive: " ++ name
  | loneRepeat => "prefix without instruction"

/-- The one error that is not recorded but ends the analysis. -/
def fault? : LineError → Option Fault
  | operand (.brokenDisplacement token) => some (.brokenDisplacement token)
  | _ => none

end LineError

structure Record where
  line : Int
  label : Option Text
  mnemonic : Text
  /-- The size that a suffix names, when there is one. -/
  size : Option OperandSize
  category : Category
  operands : List Operand
  /-- A summary of the addressing modes, for a directive the operands as written. -/
  addressing : Text
  reads : FlagSet
  writes : FlagSet
  errors : List LineError
  repetition : Option RepeatPrefix
  /-- The statement with its blanks collapsed, without label and comment. -/
  source : Text
  deriving DecidableEq, Repr

namespace Record

def fault? (record : Record) : Option Fault := record.errors.findSome? (·.fault?)

end Record

end AttAssembly
