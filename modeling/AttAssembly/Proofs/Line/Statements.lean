import AttAssembly.Proofs.Line.Totality
import AttAssembly.Proofs.Text.LetterCase
import AttAssembly.Proofs.Text.Trimming

/-!
The statement of a line and the instruction in it. A line without its comment and its label is a
statement; a repeat prefix in front of a statement leaves the instruction after it, whatever that
begins with. The record of a line is made from its directive, from its instruction, or from a repeat
prefix that has none.
-/

namespace AttAssembly

/-- The line without its comment and its label. -/
def statementOf (line : Text) : Text := (splitLabel (stripComment line)).2

/-- What follows the first word of a line that may have a label. -/
def operandTextOf (line : Text) : Text := (splitMnemonic (splitLabel (stripComment line)).2).2

/-- What follows a repeat prefix, or the whole statement if it does not begin with one. -/
def instructionOf (statement : Text) : Text :=
  match RepeatPrefix.ofName? (splitMnemonic statement).1 with
  | some _ => (splitMnemonic statement).2
  | none => statement

/-- A repeat prefix with nothing after it. -/
def IsLoneRepeat (statement : Text) : Prop :=
  (RepeatPrefix.ofName? (splitMnemonic statement).1).isSome = true ∧
    (splitMnemonic statement).2 = []

instance (statement : Text) : Decidable (IsLoneRepeat statement) := inferInstanceAs (Decidable (_ ∧ _))

/-- The mnemonic of the instruction of a line, with its size letter. -/
def mnemonicOf (line : Text) : Text := (splitMnemonic (instructionOf (statementOf line))).1

/-- The pieces of the operand text of the instruction of a line. -/
def piecesOf (line : Text) : List Text :=
  splitPieces (splitMnemonic (instructionOf (statementOf line))).2

theorem mnemonic_eq_nil_iff (statement : Text) :
    (splitMnemonic statement).1 = [] ↔ trim statement = [] := by
  simp only [splitMnemonic, lower_eq_nil_iff, firstWord]
  cases trimmed : trim statement with
  | nil => simp
  | cons c rest =>
      have front : isBlank c = false := (trimmed_trim statement).1 c (by simp [trimmed])
      simp [front]

theorem operandText_nothing {statement : Text}
    (nothing : (splitMnemonic (splitMnemonic statement).2).1 = []) :
    (splitMnemonic statement).2 = [] := by
  have blank := (trim_eq_nil_iff _).mp ((mnemonic_eq_nil_iff _).mp nothing)
  have front : ∀ c ∈ (splitMnemonic statement).2.head?, isBlank c = false := trimLeft_front _
  cases rest : (splitMnemonic statement).2 with
  | nil => rfl
  | cons c others =>
      rw [rest] at blank front
      have solid := front c rfl
      rw [blank c List.mem_cons_self] at solid
      cases solid

/-- How the record of a statement comes about. -/
inductive StatedAs (statement : Text) : Record → Prop
  | directive (place : Place) :
      StatedAs statement
        (directiveRecord place (splitMnemonic statement).1 (splitMnemonic statement).2)
  | loneRepeat (place : Place) (repetition : RepeatPrefix) (alone : IsLoneRepeat statement) :
      StatedAs statement (loneRepeatRecord place repetition)
  | instruction (place : Place) (repetition : Option RepeatPrefix)
      (single : repetition = RepeatPrefix.ofName? (splitMnemonic statement).1) :
      StatedAs statement
        (instructionRecord place repetition (splitMnemonic (instructionOf statement)).1
          (splitMnemonic (instructionOf statement)).2)

theorem statementRecord_stated (line : Int) (label : Option Text) (statement : Text) :
    StatedAs statement (statementRecord line label statement) := by
  have directed := @StatedAs.directive statement ⟨line, label, collapseBlanks statement⟩
  have alone := @StatedAs.loneRepeat statement ⟨line, label, collapseBlanks statement⟩
  have stated := @StatedAs.instruction statement ⟨line, label, collapseBlanks statement⟩ _ rfl
  have nothing := @operandText_nothing statement
  rw [IsLoneRepeat] at alone
  rw [instructionOf] at stated
  rw [statementRecord]
  rcases separated : splitMnemonic statement with ⟨first, others⟩
  simp only [separated] at directed alone stated nothing ⊢
  split
  · exact directed
  · cases named : RepeatPrefix.ofName? first with
    | none =>
        simp only [named, separated] at stated
        exact stated
    | some repetition =>
        rw [named] at alone stated
        dsimp only at alone stated ⊢
        rw [repeatedRecord]
        split
        · next rest empty => exact alone repetition ⟨rfl, nothing (congrArg Prod.fst empty)⟩
        · next mnemonic rest _ instruction =>
            rw [instruction] at stated
            exact stated

theorem statementRecord_source (line : Int) (label : Option Text) (statement : Text) :
    (statementRecord line label statement).source = collapseBlanks statement := by
  simp only [statementRecord]
  split
  · rfl
  · split
    · rw [repeatedRecord]
      split <;> rfl
    · rfl

theorem readLine_stated {text : Text} {line : Int} {record : Record}
    (read : readLine text line = some record) (statement : record.category ≠ .label) :
    StatedAs (statementOf text) record := by
  rw [statementOf]
  cases readLine_iff.mp read with
  | label => exact absurd rfl statement
  | @statement label rest separated =>
      rw [separated]
      exact statementRecord_stated line label rest

theorem readLine_of_analyzed {text : Text} {line : Int} {record : Record}
    (analyzed : analyzeLine text line = .ok (some record)) : readLine text line = some record := by
  rw [analyzeLine] at analyzed
  cases read : readLine text line with
  | none =>
      rw [read] at analyzed
      cases analyzed
  | some found =>
      simp only [read] at analyzed
      split at analyzed
      · cases analyzed
      · cases analyzed
        rfl

end AttAssembly
