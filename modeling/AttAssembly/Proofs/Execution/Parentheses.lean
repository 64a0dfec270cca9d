import AttAssembly.Proofs.Execution.StructuralErrors
import AttAssembly.Proofs.Line.Statements
import AttAssembly.Proofs.Operand.Parentheses

/-!
Unbalanced parentheses are never executed. A record without errors has no refused piece, so all the
pieces of its operand text are balanced, and with them the operand text. A line whose operand text is
not balanced therefore leaves an error in its record, and every machine rejects a record with errors.
-/

namespace AttAssembly

/-- Every machine rejects the record for its own errors and stays as it is, so a run that comes to the
    record goes on as if it were not there. -/
structure Record.NeverRuns (record : Record) : Prop where
  stepped : ∀ machine, step machine record =
    .ok (machine, .rejected record.line (record.errors.map .structural))
  passed : ∀ machine before after run, execute machine (before ++ record :: after) = .ok run →
    ∃ first last, execute machine before = .ok first ∧ execute first.machine after = .ok last ∧
      run = ⟨last.machine, first.outcomes ++
        .rejected record.line (record.errors.map .structural) :: last.outcomes⟩

theorem neverRuns_of_errors {record : Record}
    (statement : ¬ (record.category = .label ∨ record.category = .directive))
    (faulty : record.errors ≠ []) : record.NeverRuns := by
  have decoded := decode_structural statement faulty
  have stepped (machine : Machine) := (step_iff machine _ _ _).mpr (.rejected _ decoded)
  refine ⟨stepped, fun machine before after run ran => ?_⟩
  rw [execute_append] at ran
  obtain ⟨first, earlier, ran⟩ := (bind_ok_iff _ _ _).mp ran
  obtain ⟨rest, ran, whole⟩ := (bind_ok_iff _ _ _).mp ran
  obtain ⟨next, outcome, last, here, later, grown⟩ := (execute_cons _ _ _).mp ran
  cases Except.ok.inj ((stepped first.machine).symm.trans ((step_iff _ _ _ _).mpr here))
  subst grown
  cases whole
  exact ⟨first, last, earlier, later, rfl⟩

section Balance

variable {statement text : Text} {line : Int} {record : Record}

theorem instruction_balanced {place : Place} {repetition : Option RepeatPrefix}
    {mnemonic operandText : Text}
    (clean : (instructionRecord place repetition mnemonic operandText).errors = []) :
    Balanced operandText := by
  refine operandText_balanced fun piece written => ?_
  cases read : Operand.read piece with
  | ok operand => exact (Operand.read_grouped read).balanced
  | error cause =>
      have refused : .operand cause ∈ refusedOperands Operand.read (splitPieces operandText) :=
        (refused_operand_iff _ _ _).mpr ⟨piece, written, cause, read, rfl⟩
      rw [(List.append_eq_nil_iff.mp clean).1] at refused
      cases refused

theorem StatedAs.balanced (stated : StatedAs statement record)
    (directive : record.category ≠ .directive) (clean : record.errors = []) :
    Balanced (splitMnemonic (instructionOf statement)).2 := by
  cases stated with
  | directive place => exact absurd rfl directive
  | loneRepeat place repetition alone => cases clean
  | instruction place repetition single => exact instruction_balanced clean

theorem StatedAs.unrepeated (stated : StatedAs statement record)
    (directive : record.category ≠ .directive) (single : record.repetition = none) :
    instructionOf statement = statement := by
  cases stated with
  | directive place => exact absurd rfl directive
  | loneRepeat place repetition alone => cases single
  | instruction place repetition named =>
      have unnamed : RepeatPrefix.ofName? (splitMnemonic statement).1 = none := named.symm.trans single
      rw [instructionOf, unnamed]

end Balance

section Grouping

variable {record : Record} {text : Text} {line : Int}

theorem Category.read_of_reader {category : Category} (directive : category ≠ .directive)
    {token : Text} {operand : Operand} (found : category.reader token = .ok operand) :
    ∃ first, Operand.read token = .ok first := by
  by_cases branch : category = .branch
  · subst category
    obtain ⟨first, read, _⟩ := Operand.branch_reader found
    exact ⟨first, read⟩
  · rw [Category.reader_plain directive branch] at found
    exact ⟨operand, found⟩

theorem ReadAs.operands_grouped (kind : ReadAs text line record)
    (directive : record.category ≠ .directive) :
    ∀ operand ∈ record.operands, AtMostOneGroup operand.text := by
  intro operand among
  obtain ⟨first, read⟩ := Category.read_of_reader directive (kind.operands_suit operand among).reread
  exact Operand.read_grouped read

end Grouping

/-- A line with an operand text that is not balanced leaves an error in its record, and no machine runs
it. Every operand of a record without errors has one pair of parentheses at most. -/
theorem unbalanced_never_runs {text : Text} {line : Int} {record : Record}
    (analyzed : analyzeLine text line = .ok (some record)) (label : record.category ≠ .label)
    (directive : record.category ≠ .directive) :
    (record.repetition = none → ¬ Balanced (operandTextOf text) →
      record.errors ≠ [] ∧ record.NeverRuns) ∧
    (record.errors = [] → ∀ operand ∈ record.operands,
      operand.text.count '(' ≤ 1 ∧ operand.text.count ')' ≤ 1) := by
  have read := readLine_of_analyzed analyzed
  have stated := readLine_stated read label
  constructor
  · intro single unbalanced
    have faulty : record.errors ≠ [] := by
      intro clean
      have balanced := stated.balanced directive clean
      rw [stated.unrepeated directive single] at balanced
      exact unbalanced balanced
    exact ⟨faulty, neverRuns_of_errors (not_or.mpr ⟨label, directive⟩) faulty⟩
  · intro _ operand among
    have grouped := (readLine_readAs _ _ _ read).operands_grouped directive operand among
    exact ⟨grouped.single, grouped.closing⟩

/-- In the first line as many parentheses open as close, but the first of them closes nothing. -/
theorem unbalanced_never_runs_crossed :
    (∃ record, analyzeLine "mov %eax), (%ebx" 1 = .ok (some record) ∧
      ¬ Balanced (operandTextOf "mov %eax), (%ebx") ∧ record.errors ≠ [] ∧ record.NeverRuns) ∧
    ∃ record, analyzeLine "jmp *tabla(,%ecx,4)" 2 = .ok (some record) ∧ record.operands.length = 1 ∧
      ∀ operand ∈ record.operands, operand.text.count '(' ≤ 1 ∧ operand.text.count ')' ≤ 1 := by
  have unbalanced : ¬ Balanced (operandTextOf "mov %eax), (%ebx") := by decide
  have rejected := (@unbalanced_never_runs "mov %eax), (%ebx" 1 _ rfl (by decide) (by decide)).1
    rfl unbalanced
  have grouped := (@unbalanced_never_runs "jmp *tabla(,%ecx,4)" 2 _ rfl (by decide) (by decide)).2
    (by decide)
  exact ⟨⟨_, rfl, unbalanced, rejected⟩, _, rfl, by decide, grouped⟩

end AttAssembly
