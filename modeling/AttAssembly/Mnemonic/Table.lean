import AttAssembly.Mnemonic.Condition
import AttAssembly.Register
/-!
The known mnemonics. An entry gives the category, the flags that are always written and, where the
number of operands is checked, which numbers are allowed.
-/
namespace AttAssembly

inductive Category where
  | data
  | arithmetic
  | logic
  | shift
  | comparison
  | byteSetting
  | branch
  | conditionalMove
  | string
  | stack
  | miscellaneous
  | directive
  | label
  deriving DecidableEq, Repr

def Category.name : Category → Text
  | .data => "data"
  | .arithmetic => "arith"
  | .logic => "logic"
  | .shift => "shift"
  | .comparison => "verify"
  | .byteSetting => "setcc"
  | .branch => "branch"
  | .conditionalMove => "cmov"
  | .string => "string"
  | .stack => "stack"
  | .miscellaneous => "misc"
  | .directive => "directive"
  | .label => "label"

/-- How many operands a mnemonic takes. -/
inductive OperandCount where
  | one
  | two
  | atMostOne
  deriving DecidableEq, Repr

namespace OperandCount

def least : OperandCount → Int
  | one => 1
  | two => 2
  | atMostOne => 0

def most : OperandCount → Int
  | one => 1
  | two => 2
  | atMostOne => 1

def allows (rule : OperandCount) (count : Int) : Bool :=
  decide (rule.least ≤ count) && decide (count ≤ rule.most)

end OperandCount

structure MnemonicEntry where
  category : Category
  writes : FlagSet
  operands : Option OperandCount
  deriving DecidableEq, Repr

abbrev MnemonicTable := List (Text × MnemonicEntry)

def alike (category : Category) (writes : FlagSet) (operands : Option OperandCount)
    (names : List Text) : MnemonicTable :=
  names.map fun name => (name, ⟨category, writes, operands⟩)

def arithmeticFlags : FlagSet := [.carry, .overflow, .sign, .zero]

/-- Words that repeat the string instruction after them. -/
inductive RepeatPrefix where
  | rep
  | repe
  | repne
  | repnz
  | repz
  deriving DecidableEq, Repr

namespace RepeatPrefix

def all : List RepeatPrefix := [rep, repe, repne, repnz, repz]

def name : RepeatPrefix → Text
  | rep => "rep"
  | repe => "repe"
  | repne => "repne"
  | repnz => "repnz"
  | repz => "repz"

def ofName? (name : Text) : Option RepeatPrefix := all.find? (·.name = name)

end RepeatPrefix

def plainMnemonics : MnemonicTable :=
  alike .data [] (some .two) ["mov", "movzb", "movzw", "movsb", "movsw", "xchg", "lea"] ++
  alike .data [] none ["cbtw", "cwtl", "cwtd", "cltd"] ++
  alike .stack [] (some .one) ["push", "pop"] ++
  alike .arithmetic arithmeticFlags (some .two) ["add", "sub", "adc", "sbb"] ++
  alike .arithmetic [.overflow, .sign, .zero] none ["inc", "dec"] ++
  alike .arithmetic arithmeticFlags (some .one) ["neg"] ++
  alike .arithmetic [.carry, .overflow] (some .one) ["mul"] ++
  alike .arithmetic [.carry, .overflow] none ["imul"] ++
  alike .arithmetic [] (some .one) ["div", "idiv"] ++
  alike .logic arithmeticFlags (some .two) ["and", "or", "xor"] ++
  alike .logic [] (some .one) ["not"] ++
  alike .shift arithmeticFlags none ["shl", "sal", "shr", "sar"] ++
  alike .shift [.carry, .overflow] none ["rol", "ror", "rcl", "rcr"] ++
  alike .comparison arithmeticFlags (some .two) ["cmp", "test"] ++
  alike .branch [] (some .one) ["jmp", "jcxz", "jecxz"] ++
  alike .branch [] (some .one) ["loop", "loope", "loopz", "loopne", "loopnz", "call"] ++
  alike .branch [] (some .atMostOne) ["ret"] ++
  alike .string [] none ["lods", "stos", "movs", "scas", "cmps", "cld", "std"] ++
  alike .string [] none (RepeatPrefix.all.map (·.name)) ++
  alike .miscellaneous [] none ["nop", "int", "hlt", "leave", "enter", "clc", "stc", "cmc"]

/-- The stems before a condition, with the entry their family shares. -/
def conditionalFamilies : MnemonicTable :=
  [ ("cmov", ⟨.conditionalMove, [], some .two⟩),
    ("set", ⟨.byteSetting, [], some .one⟩),
    ("j", ⟨.branch, [], some .one⟩)]

def conditionalMnemonics : MnemonicTable :=
  conditionalFamilies.flatMap fun (stem, entry) =>
    conditionTable.map fun (condition, _) => (stem ++ condition, entry)

def mnemonicTable : MnemonicTable := plainMnemonics ++ conditionalMnemonics

/-- The entry of a mnemonic in lower case. -/
def entryOf? (mnemonic : Text) : Option MnemonicEntry := mnemonicTable.lookup mnemonic

def isKnown (mnemonic : Text) : Bool := (entryOf? mnemonic).isSome

end AttAssembly
