import AttAssembly.Proofs.Analysis.Operands
import AttAssembly.Proofs.Line.Statements

/-!
The operands and the errors of an instruction. Each piece of the operand text leaves either an operand
or an error, in the order of the pieces. The rules for whole instructions come after that: one goes by
the operands that could be read, the other by the pieces that were written. So a record without errors
has every operand that was written, and as many of them as its mnemonic takes.
-/

namespace AttAssembly

section Pieces

variable {read : Text → Except OperandError Operand} {pieces : List Text} {operands : List Operand}
  {refused : List LineError}

/-- Every piece is read to an operand or refused with an error, and nothing changes its place. -/
inductive ReadInTurn (read : Text → Except OperandError Operand) :
    List Text → List Operand → List LineError → Prop
  | nil : ReadInTurn read [] [] []
  | accepted {piece : Text} {pieces : List Text} {operand : Operand} {operands : List Operand}
      {refused : List LineError} (found : read piece = .ok operand)
      (later : ReadInTurn read pieces operands refused) :
      ReadInTurn read (piece :: pieces) (operand :: operands) refused
  | refused {piece : Text} {pieces : List Text} {cause : OperandError} {operands : List Operand}
      {refused : List LineError} (failed : read piece = .error cause)
      (later : ReadInTurn read pieces operands refused) :
      ReadInTurn read (piece :: pieces) operands (.operand cause :: refused)

theorem readInTurn (read : Text → Except OperandError Operand) (pieces : List Text) :
    ReadInTurn read pieces (acceptedOperands read pieces) (refusedOperands read pieces) := by
  induction pieces with
  | nil => exact .nil
  | cons piece pieces ih =>
      rw [acceptedOperands, refusedOperands, List.filterMap_cons, List.filterMap_cons]
      cases found : read piece with
      | ok operand => exact .accepted found ih
      | error cause => exact .refused found ih

theorem ReadInTurn.length (turn : ReadInTurn read pieces operands refused) :
    pieces.length = operands.length + refused.length := by
  induction turn with
  | nil => rfl
  | accepted found later ih => simp [ih, Nat.add_right_comm]
  | refused failed later ih => simp [ih, Nat.add_assoc]

/-- A branch refuses what every instruction refuses. -/
theorem refused_reader (pieces : List Text) {category : Category}
    (directive : category ≠ .directive) :
    refusedOperands category.reader pieces = refusedOperands Operand.read pieces := by
  by_cases branch : category = .branch
  · subst category
    refine List.filterMap_congr fun piece _ => ?_
    simp only [Category.reader]
    cases Operand.read piece <;> rfl
  · rw [Category.reader_plain directive branch]

end Pieces

section Rules

/-- The rules for mnemonics that are not known, by their first letters. -/
def familyRules : List (Text × OperandCount) :=
  [("mov", .two), ("set", .one), ("cmov", .two), ("j", .one)]

/-- The rule for the number of operands of a mnemonic in lower case: none for a string move without
    operands, the one in the table for a known mnemonic, the one of its family for all others. -/
def countRule? (mnemonic : Text) (written : Nat) : Option OperandCount :=
  if mnemonic ∈ stringMoves ∧ written = 0 then none
  else match entryOf? mnemonic with
    | some entry => entry.operands
    | none => (familyRules.find? fun (stem, _) => stem.isPrefixOf mnemonic).map (·.2)

theorem isStringMove_iff (name : Text) (written : Nat) :
    isStringMove name written = true ↔ name ∈ stringMoves ∧ written = 0 := by
  simp [isStringMove]

theorem operandCount_rule {mnemonic : Text} (small : lower mnemonic = mnemonic) (written : Nat) :
    operandCount? mnemonic written = countRule? mnemonic written := by
  simp only [operandCount?, countRule?, small]
  by_cases move : mnemonic ∈ stringMoves ∧ written = 0
  · rw [if_pos ((isStringMove_iff _ _).mpr move), if_pos move]
  · have other : ¬ isStringMove mnemonic written = true := fun same =>
      move ((isStringMove_iff _ _).mp same)
    rw [if_neg other, if_neg move]
    cases known : entryOf? mnemonic with
    | some entry => rfl
    | none =>
        simp only [category, small, if_neg other, known, families, familyRules, List.find?_cons,
          List.find?_nil]
        -- The string families come last and have no rule.
        cases ("mov" : Text).isPrefixOf mnemonic
        case true => rfl
        cases ("set" : Text).isPrefixOf mnemonic
        case true => rfl
        cases ("cmov" : Text).isPrefixOf mnemonic
        case true => rfl
        cases ("j" : Text).isPrefixOf mnemonic
        case true => rfl
        cases ("lods" : Text).isPrefixOf mnemonic <;> cases ("stos" : Text).isPrefixOf mnemonic <;>
          cases ("scas" : Text).isPrefixOf mnemonic <;> cases ("cmps" : Text).isPrefixOf mnemonic <;>
            rfl

end Rules

section Records

/-- A move whose operands are two memory references. -/
def Record.movesMemory (record : Record) : Bool :=
  record.category = .data && ("mov" : Text).isPrefixOf record.mnemonic &&
    match record.operands with
    | [source, destination] => source.isMemory && destination.isMemory
    | _ => false

def Record.memoryErrors (record : Record) : List LineError :=
  if record.movesMemory then [.instruction (.memoryToMemory record.mnemonic)] else []

/-- The error of an instruction that was written with a wrong number of operands. -/
def Record.countErrors (record : Record) (written : Nat) : List LineError :=
  match countRule? record.mnemonic written with
  | some rule =>
      if rule.least ≤ written ∧ written ≤ rule.most then []
      else [.instruction (.wrongCount record.mnemonic (requirement record.mnemonic rule))]
  | none => []

/-- What is recorded of an instruction, told from its mnemonic and the pieces of its operand text. -/
structure Record.Accounts (record : Record) (mnemonic : Text) (pieces : List Text) : Prop where
  named : (record.mnemonic, record.size) = splitSizeSuffix mnemonic
  classified : record.category = (classify record.mnemonic pieces.length).category
  each : ∃ refused, ReadInTurn record.category.reader pieces record.operands refused ∧
    record.errors = refused ++ record.memoryErrors ++ record.countErrors pieces.length

variable {record : Record} {mnemonic : Text} {pieces : List Text}

theorem Record.Accounts.clean (accounts : record.Accounts mnemonic pieces)
    (clean : record.errors = []) :
    record.operands.length = pieces.length ∧
      ∀ rule ∈ countRule? record.mnemonic pieces.length,
        rule.least ≤ record.operands.length ∧ record.operands.length ≤ rule.most := by
  obtain ⟨refused, turn, errors⟩ := accounts.each
  rw [clean, List.append_assoc, eq_comm, List.append_eq_nil_iff] at errors
  have all : record.operands.length = pieces.length := by
    rw [turn.length, errors.1, List.length_nil, Nat.add_zero]
  refine ⟨all, fun rule given => ?_⟩
  have counted := (List.append_eq_nil_iff.mp errors.2).2
  rw [Record.countErrors, given] at counted
  rw [all]
  by_contra wrong
  simp [wrong] at counted

theorem isMemoryToMemory_moves {written : Nat}
    (classified : record.category = category record.mnemonic written) :
    isMemoryToMemory record.mnemonic record.operands written = record.movesMemory := by
  rw [isMemoryToMemory, Record.movesMemory, classified]
  rcases record.operands with _ | ⟨source, _ | ⟨destination, _ | ⟨third, others⟩⟩⟩ <;>
    simp [Bool.and_comm]

theorem validate_rules {written : Nat} (small : lower record.mnemonic = record.mnemonic)
    (classified : record.category = category record.mnemonic written) :
    (validate record.mnemonic record.operands written).map .instruction =
      record.memoryErrors ++ record.countErrors written := by
  simp only [validate, small, isMemoryToMemory_moves classified, operandCount_rule small,
    List.map_append, Record.memoryErrors, Record.countErrors, OperandCount.allows]
  congr 1
  · split <;> rfl
  · cases countRule? record.mnemonic written with
    | none => rfl
    | some rule =>
        by_cases allowed : rule.least ≤ written ∧ written ≤ rule.most
        · simp [allowed]
        · simp only [Bool.and_eq_true, decide_eq_true_eq, if_neg allowed]
          rfl

theorem instructionRecord_accounts (place : Place) (repetition : Option RepeatPrefix)
    (mnemonic operandText : Text) :
    (instructionRecord place repetition mnemonic operandText).Accounts mnemonic
      (splitPieces operandText) := by
  have operands := instructionRecord_operands place repetition mnemonic operandText
  generalize same : instructionRecord place repetition mnemonic operandText = record at operands ⊢
  have named : (record.mnemonic, record.size) = splitSizeSuffix mnemonic := same ▸ rfl
  have small : lower record.mnemonic = record.mnemonic := same ▸ splitSizeSuffix_lower mnemonic
  have classified : record.category = category record.mnemonic (splitPieces operandText).length :=
    same ▸ rfl
  have directive : record.category ≠ .directive := classified ▸ (category_statement _ _).2
  have errors : record.errors = refusedOperands Operand.read (splitPieces operandText) ++
      (validate record.mnemonic record.operands (splitPieces operandText).length).map .instruction :=
    same ▸ rfl
  refine ⟨named, classified, _, operands ▸ readInTurn _ _, ?_⟩
  rw [errors, refused_reader _ directive, validate_rules small classified, List.append_assoc]

end Records

/-- Every piece of the operand text of an instruction is either an operand of its record or an error in
it, in order; a rule that is not kept leaves an error after those, and there are no other errors. So all
operands are there when there is no error, as many as the mnemonic takes. -/
theorem instruction_accounted {text : Text} {line : Int} {record : Record}
    (analyzed : analyzeLine text line = .ok (some record)) (label : record.category ≠ .label)
    (directive : record.category ≠ .directive) (instruction : ¬ IsLoneRepeat (statementOf text)) :
    record.Accounts (mnemonicOf text) (piecesOf text) ∧
    (record.errors = [] →
      record.operands.length = (piecesOf text).length ∧
        ∀ rule ∈ countRule? record.mnemonic (piecesOf text).length,
          rule.least ≤ record.operands.length ∧ record.operands.length ≤ rule.most) := by
  have accounts : record.Accounts (mnemonicOf text) (piecesOf text) := by
    cases readLine_stated (readLine_of_analyzed analyzed) label with
    | directive place => exact absurd rfl directive
    | loneRepeat place repetition alone => exact absurd alone instruction
    | instruction place repetition single => exact instructionRecord_accounts _ _ _ _
  exact ⟨accounts, accounts.clean⟩

/-- A piece that cannot be read counts as written, so three errors come together. -/
theorem instruction_accounted_mixed :
    (∃ record, analyzeLine "movl (%eax), 4(%ebx), foo 8" 1 = .ok (some record) ∧
      record.Accounts "movl" ["(%eax)", "4(%ebx)", "foo 8"] ∧ record.errors.length = 3) ∧
    ∃ record, analyzeLine "rep movsb" 2 = .ok (some record) ∧ record.errors = [] ∧
      record.operands.length = (piecesOf "rep movsb").length := by
  have mixed := @instruction_accounted "movl (%eax), 4(%ebx), foo 8" 1 _ rfl (by decide) (by decide)
    (by decide)
  have repeated := @instruction_accounted "rep movsb" 2 _ rfl (by decide) (by decide) (by decide)
  exact ⟨⟨_, rfl, mixed.1, rfl⟩, _, rfl, rfl, (repeated.2 rfl).1⟩

end AttAssembly
