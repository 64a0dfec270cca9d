import AttAssembly.Mnemonic.Table
/-!
What a mnemonic is: its size suffix, its condition, its category, and the flags it reads and
writes. Letter case does not matter. A mnemonic that the table does not know is put into the family
that its first letters suggest.
-/
namespace AttAssembly

def OperandSize.ofLetter? : Char → Option OperandSize
  | 'b' => some .byte
  | 'w' => some .word
  | 'l' => some .long
  | _ => none

/-- A size letter is cut off only when the whole is not known and what is left is. -/
def splitSizeSuffix (mnemonic : Text) : Text × Option OperandSize :=
  let name := lower mnemonic
  if isKnown name then (name, none)
  else match name.getLast?.bind OperandSize.ofLetter? with
    | some size => if isKnown name.dropLast then (name.dropLast, some size) else (name, none)
    | none => (name, none)

/-- What follows a stem, when something does. -/
def afterStem? (stem name : Text) : Option Text :=
  if stem.isPrefixOf name && stem.length < name.length then some (name.drop stem.length) else none

/-- The ending of a conditional mnemonic, whether or not it is a condition. -/
def condition? (mnemonic : Text) : Option Text :=
  let name := lower mnemonic
  if name = ("jmp" : Text) then none
  else conditionalFamilies.findSome? fun (stem, _) => afterStem? stem name

/-- Names shared by the string moves, which have no operands, and the moves that extend a sign. -/
def stringMoves : List Text := ["movs", "movsb", "movsw"]

def isStringMove (name : Text) (count : Int) : Bool := stringMoves.contains name && count = 0

/-- The families of unknown mnemonics, tried in this order. -/
def families : List (Text × Category) :=
  [ ("mov", .data), ("set", .byteSetting), ("cmov", .conditionalMove), ("j", .branch),
    ("lods", .string), ("stos", .string), ("scas", .string), ("cmps", .string)]

def category (mnemonic : Text) (count : Int) : Category :=
  let name := lower mnemonic
  if isStringMove name count then .string
  else match entryOf? name with
    | some entry => entry.category
    | none =>
        match families.find? fun (stem, _) => stem.isPrefixOf name with
        | some (_, category) => category
        | none => .miscellaneous

def flagsRead (mnemonic : Text) (count : Int) : FlagSet :=
  if lower mnemonic = ("imul" : Text) && count = 3 then [.carry, .overflow]
  else match condition? (lower mnemonic) with
    | some condition => conditionFlags condition
    | none => []

def flagsWritten (mnemonic : Text) : FlagSet :=
  match entryOf? (lower mnemonic) with
  | some entry => entry.writes
  | none => []

structure Classification where
  category : Category
  reads : FlagSet
  writes : FlagSet
  deriving DecidableEq, Repr

def classify (mnemonic : Text) (count : Int) : Classification where
  category := category mnemonic count
  reads := flagsRead mnemonic count
  writes := flagsWritten mnemonic

end AttAssembly
