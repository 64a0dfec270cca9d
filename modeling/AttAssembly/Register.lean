import AttAssembly.Text.Blank
import AttAssembly.Text.LetterCase
/-!
The registers. Eight general registers hold 32 bits; all of them but for their lower halves, and
four of them but for the two bytes of the lower half, go by further names.
-/
namespace AttAssembly

inductive OperandSize where
  | byte
  | word
  | long
  deriving DecidableEq, Repr

def OperandSize.letter : OperandSize → Char
  | .byte => 'b'
  | .word => 'w'
  | .long => 'l'

/-- The 32-bit registers, in the order in which they are shown. -/
inductive GeneralRegister where
  | eax
  | ebx
  | ecx
  | edx
  | esi
  | edi
  | ebp
  | esp
  deriving DecidableEq, Repr

namespace GeneralRegister

def all : List GeneralRegister := [eax, ebx, ecx, edx, esi, edi, ebp, esp]

def name : GeneralRegister → Text
  | eax => "EAX"
  | ebx => "EBX"
  | ecx => "ECX"
  | edx => "EDX"
  | esi => "ESI"
  | edi => "EDI"
  | ebp => "EBP"
  | esp => "ESP"

def ofName? (name : Text) : Option GeneralRegister := all.find? (·.name = name)

end GeneralRegister

/-- The general registers whose two lower bytes have names. -/
inductive ByteHolder where
  | a
  | b
  | c
  | d
  deriving DecidableEq, Repr

namespace ByteHolder

def all : List ByteHolder := [a, b, c, d]

def letter : ByteHolder → Char
  | a => 'A'
  | b => 'B'
  | c => 'C'
  | d => 'D'

def holder : ByteHolder → GeneralRegister
  | a => .eax
  | b => .ebx
  | c => .ecx
  | d => .edx

end ByteHolder

inductive Register where
  | long (register : GeneralRegister)
  | word (register : GeneralRegister)
  | low (holder : ByteHolder)
  | high (holder : ByteHolder)
  deriving DecidableEq, Repr

namespace Register

def all : List Register :=
  GeneralRegister.all.map long ++ GeneralRegister.all.map word ++
    ByteHolder.all.map low ++ ByteHolder.all.map high

/-- A lower half goes by the name of its register without the first letter. -/
def name : Register → Text
  | long register => register.name
  | word register => register.name.drop 1
  | low holder => [holder.letter, 'L']
  | high holder => [holder.letter, 'H']

def size : Register → OperandSize
  | long _ => .long
  | word _ => .word
  | low _ => .byte
  | high _ => .byte

/-- The general register that holds it. -/
def parent : Register → GeneralRegister
  | long register => register
  | word register => register
  | low holder => holder.holder
  | high holder => holder.holder

def ofName? (name : Text) : Option Register := all.find? (·.name = name)

/-- A register as it is written: blanks around it, one percent sign and letter case are ignored. -/
def read? (token : Text) : Option Register :=
  match trim token with
  | '%' :: name => ofName? (upper name)
  | name => ofName? (upper name)

end Register

end AttAssembly
