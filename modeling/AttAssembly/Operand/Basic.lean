import AttAssembly.Operand.Addressing
import AttAssembly.Register
/-!
Operands. An operand keeps the text it was written with and its addressing mode beside what the text
stands for. The mode is settled where the operand is read.
-/
namespace AttAssembly

inductive Immediate where
  | number (value : Int)
  | symbol (name : Text)
  /-- A string literal; only directives have them. -/
  | string (content : Text)
  deriving DecidableEq, Repr

inductive Scale where
  | one
  | two
  | four
  | eight
  deriving DecidableEq, Repr

namespace Scale

def factor : Scale → Nat
  | one => 1
  | two => 2
  | four => 4
  | eight => 8

def ofFactor? (value : Int) : Option Scale :=
  [one, two, four, eight].find? fun scale => value = scale.factor

end Scale

/-- A memory reference: a symbol and a number outside the parentheses, a base, an index and a scale
    inside them, and a star in front of an indirect jump target. Any of them may be missing. -/
structure MemoryReference where
  symbol : Option Text
  displacement : Option Int
  base : Option Register
  index : Option Register
  scale : Option Scale
  indirect : Bool
  deriving DecidableEq, Repr

/-- The mode that the components of a reference give. -/
def MemoryReference.mode (reference : MemoryReference) : AddressingMode :=
  .ofComponents reference.base.isSome reference.index.isSome
    (reference.symbol.isSome || reference.displacement.isSome) reference.scale.isSome

/-- What an operand stands for. -/
inductive OperandForm where
  | immediate (value : Immediate)
  | register (register : Register)
  | memory (reference : MemoryReference)
  /-- The target of a jump: a name and a number, neither read from memory. -/
  | target (name : Text) (displacement : Option Int)
  /-- A symbol or a symbolic expression in a directive; its name is its text. -/
  | symbolic
  deriving DecidableEq, Repr

structure Operand where
  text : Text
  form : OperandForm
  mode : AddressingMode
  deriving DecidableEq, Repr

namespace Operand

def isMemory (operand : Operand) : Bool :=
  match operand.form with
  | .memory _ => true
  | _ => false

/-- The number of an immediate that has one. -/
def numericValue? (operand : Operand) : Option Int :=
  match operand.form with
  | .immediate (.number value) => some value
  | _ => none

/-- A direct memory reference in the place of a jump target names the target itself. It is called
    by its text when it has no symbol. -/
def asBranchTarget (operand : Operand) : Operand :=
  match operand.form with
  | .memory ⟨symbol, displacement, none, none, none, false⟩ =>
      if operand.mode = .direct then
        ⟨operand.text, .target (symbol.getD operand.text) displacement, .relative⟩
      else operand
  | _ => operand

end Operand

end AttAssembly
