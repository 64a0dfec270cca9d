import AttAssembly.Lexeme.Comment
import AttAssembly.Lexeme.Pieces
import AttAssembly.Lexeme.Statement
import AttAssembly.Line.Directives
import AttAssembly.Line.Record
import AttAssembly.Operand.Directive
import AttAssembly.Operand.Reader
/-!
Reading one line. A line that holds nothing but blanks and a comment has no record; every other line
has one. Operands that cannot be read are left out of the record and leave an error in it.
-/
namespace AttAssembly

section Operands

variable (read : Text → Except OperandError Operand)

def acceptedOperands (pieces : List Text) : List Operand :=
  pieces.filterMap fun piece => (read piece).toOption

def refusedOperands (pieces : List Text) : List LineError :=
  pieces.filterMap fun piece =>
    match read piece with
    | .ok _ => none
    | .error error => some (.operand error)

end Operands

def noOperands : Text := "sin-operandos"

/-- The first operand is a source and all others are destinations, unless there is only one. -/
def addressingSummary : List Operand → Text
  | [] => noOperands
  | [operand] => operand.mode.name
  | first :: others =>
      joinWith " " (("src:" ++ first.mode.name) :: others.map fun operand =>
        "dst:" ++ operand.mode.name)

/-- Where a statement stands. -/
structure Place where
  line : Int
  label : Option Text
  source : Text
  deriving DecidableEq, Repr

def labelRecord (line : Int) (label : Text) : Record where
  line := line
  label := some label
  mnemonic := "label"
  size := none
  category := .label
  operands := []
  addressing := noOperands
  reads := []
  writes := []
  errors := []
  repetition := none
  source := []

def directiveRecord (place : Place) (name operandText : Text) : Record :=
  let pieces := splitPieces operandText
  let unknown := if knownDirectives.contains name then [] else [.unknownDirective name]
  { line := place.line
    label := place.label
    mnemonic := name
    size := none
    category := .directive
    operands := acceptedOperands Operand.readDirective pieces
    addressing := if pieces = [] then noOperands else joinWith ", " pieces
    reads := []
    writes := []
    errors := unknown ++ refusedOperands Operand.readDirective pieces
    repetition := none
    source := place.source }

/-- The classification goes by the number of operands written, whether or not they can be read. -/
def instructionRecord (place : Place) (repetition : Option RepeatPrefix)
    (mnemonic operandText : Text) : Record :=
  let pieces := splitPieces operandText
  let (base, size) := splitSizeSuffix mnemonic
  let kind := classify base pieces.length
  let accepted := acceptedOperands Operand.read pieces
  let operands :=
    if kind.category = .branch then accepted.map Operand.asBranchTarget else accepted
  { line := place.line
    label := place.label
    mnemonic := base
    size := size
    category := kind.category
    operands := operands
    addressing := addressingSummary operands
    reads := kind.reads
    writes := kind.writes
    errors := refusedOperands Operand.read pieces ++
      (validate base operands pieces.length).map .instruction
    repetition := repetition
    source := place.source }

def loneRepeatRecord (place : Place) (repetition : RepeatPrefix) : Record where
  line := place.line
  label := place.label
  mnemonic := repetition.name
  size := none
  category := .string
  operands := []
  addressing := noOperands
  reads := []
  writes := []
  errors := [.loneRepeat]
  repetition := some repetition
  source := place.source

/-- The statement after a repeat prefix is an instruction whatever its first word is. -/
def repeatedRecord (place : Place) (repetition : RepeatPrefix) (statement : Text) : Record :=
  match splitMnemonic statement with
  | ([], _) => loneRepeatRecord place repetition
  | (mnemonic, operandText) =>
      instructionRecord place (some repetition) mnemonic operandText

def statementRecord (line : Int) (label : Option Text) (statement : Text) : Record :=
  let (mnemonic, operandText) := splitMnemonic statement
  let place : Place := ⟨line, label, collapseBlanks statement⟩
  if isDirectiveName mnemonic then directiveRecord place mnemonic operandText
  else match RepeatPrefix.ofName? mnemonic with
    | some repetition => repeatedRecord place repetition operandText
    | none => instructionRecord place none mnemonic operandText

/-- The record of a line. An operand broken over two lines is an error like any other here. -/
def readLine (text : Text) (line : Int) : Option Record :=
  match stripComment text with
  | [] => none
  | core =>
      match splitLabel core with
      | (some label, []) => some (labelRecord line label)
      | (label, statement) => some (statementRecord line label statement)

/-- The record of a line, or the fault that ends the analysis. -/
def analyzeLine (text : Text) (line : Int) : Except Fault (Option Record) :=
  match readLine text line with
  | none => .ok none
  | some record =>
      match record.fault? with
      | some fault => .error fault
      | none => .ok (some record)

end AttAssembly
