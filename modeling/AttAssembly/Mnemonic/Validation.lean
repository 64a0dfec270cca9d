import AttAssembly.Mnemonic.Classification
import AttAssembly.Operand.Basic
/-!
The rules an instruction has to keep whatever its operands hold: a move does not have memory on
both sides, and the number of operands is one that the mnemonic takes.
-/
namespace AttAssembly

/-- How a wrong number of operands is put into words. -/
inductive Requirement where
  | targetLabel
  | atMostOneImmediate
  | target
  | oneOperand
  | twoOperands
  deriving DecidableEq, Repr

def Requirement.message : Requirement → Text
  | .targetLabel => "requires a target label"
  | .atMostOneImmediate => "accepts at most one immediate operand"
  | .target => "requires a target"
  | .oneOperand => "requires one operand"
  | .twoOperands => "requires two operands"

inductive InstructionError where
  | memoryToMemory (mnemonic : Text)
  | wrongCount (mnemonic : Text) (requirement : Requirement)
  deriving DecidableEq, Repr

def InstructionError.message : InstructionError → Text
  | .memoryToMemory mnemonic => mnemonic ++ " does not allow memory to memory"
  | .wrongCount mnemonic requirement => mnemonic ++ " " ++ requirement.message

/-- The rule for the number of operands, for an unknown mnemonic the one of its family. -/
def operandCount? (mnemonic : Text) (count : Int) : Option OperandCount :=
  let name := lower mnemonic
  if isStringMove name count then none
  else match entryOf? name with
    | some entry => entry.operands
    | none =>
        match category name count with
        | .data => some .two
        | .branch => some .one
        | .byteSetting => some .one
        | .conditionalMove => some .two
        | _ => none

def requirement (name : Text) (rule : OperandCount) : Requirement :=
  if ("loop" : Text).isPrefixOf name then .targetLabel
  else if name = ("ret" : Text) then .atMostOneImmediate
  else match category name rule.least with
    | .branch => .target
    | .byteSetting => .target
    | _ => if rule = .one then .oneOperand else .twoOperands

def isMemoryToMemory (name : Text) (operands : List Operand) (count : Int) : Bool :=
  ("mov" : Text).isPrefixOf name && category name count = .data && operands.length = 2 &&
    operands.all (·.isMemory)

/-- The rules that are not kept. `count` operands were written; those among them that could be read
    are `operands`. -/
def validate (mnemonic : Text) (operands : List Operand) (count : Int) :
    List InstructionError :=
  let name := lower mnemonic
  let memory := if isMemoryToMemory name operands count then [.memoryToMemory name] else []
  let counted :=
    match operandCount? name count with
    | some rule => if rule.allows count then [] else [.wrongCount name (requirement name rule)]
    | none => []
  memory ++ counted

end AttAssembly
