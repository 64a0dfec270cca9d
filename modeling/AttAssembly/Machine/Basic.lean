import AttAssembly.Register
/-!
The machine: eight registers, the zero and sign flags, and a stack. Values are unbounded integers
and nothing is ever reduced to 32 bits. The stack keeps the values that were pushed, the top first;
the address of the top is what the stack pointer holds.
-/
namespace AttAssembly

structure Registers where
  eax : Int
  ebx : Int
  ecx : Int
  edx : Int
  esi : Int
  edi : Int
  ebp : Int
  esp : Int
  deriving DecidableEq, Repr

namespace Registers

def get (registers : Registers) : GeneralRegister → Int
  | .eax => registers.eax
  | .ebx => registers.ebx
  | .ecx => registers.ecx
  | .edx => registers.edx
  | .esi => registers.esi
  | .edi => registers.edi
  | .ebp => registers.ebp
  | .esp => registers.esp

def set (registers : Registers) (register : GeneralRegister) (value : Int) : Registers :=
  match register with
  | .eax => { registers with eax := value }
  | .ebx => { registers with ebx := value }
  | .ecx => { registers with ecx := value }
  | .edx => { registers with edx := value }
  | .esi => { registers with esi := value }
  | .edi => { registers with edi := value }
  | .ebp => { registers with ebp := value }
  | .esp => { registers with esp := value }

end Registers

structure Machine where
  registers : Registers
  zero : Bool
  sign : Bool
  /-- The top comes first. -/
  stack : List Int
  deriving DecidableEq, Repr

namespace Machine

/-- The bytes that one stack value takes. -/
def wordSize : Int := 4

def defaultStackBase : Int := 0x1000

def initial (stackBase : Int) : Machine where
  registers := ⟨0, 0, 0, 0, 0, 0, 0, stackBase⟩
  zero := false
  sign := false
  stack := []

def get (machine : Machine) (register : GeneralRegister) : Int := machine.registers.get register

def set (machine : Machine) (register : GeneralRegister) (value : Int) : Machine :=
  { machine with registers := machine.registers.set register value }

/-- Moves the stack pointer to another place and forgets what was pushed. -/
def rebase (machine : Machine) (address : Int) : Machine :=
  { machine.set .esp address with stack := [] }

def setFlags (machine : Machine) (result : Int) : Machine :=
  { machine with zero := decide (result = 0), sign := decide (result < 0) }

def push (machine : Machine) (value : Int) : Machine :=
  { machine.set .esp (machine.get .esp - wordSize) with stack := value :: machine.stack }

/-- The top value and the machine without it. An empty stack has none. -/
def pop? (machine : Machine) : Option (Int × Machine) :=
  match machine.stack with
  | [] => none
  | value :: rest =>
      some (value, { machine.set .esp (machine.get .esp + wordSize) with stack := rest })

end Machine

end AttAssembly
