import AttAssembly.Proofs.Analysis.Errors
import AttAssembly.Proofs.Execution.Decoding
import AttAssembly.Proofs.Execution.Step

/-!
How a run of analysed records ends. The carrying out of an instruction takes its operands without
counting them. It may do so because the count was checked when the line was read: a record without
errors has as many operands as were written, and as many as its mnemonic takes. So no record is
faulty, and only a number that cannot be written down ends a run early.
-/

namespace AttAssembly

namespace Operation

/-- How many operands are taken apart when it is carried out. -/
def operandCount? : Operation → Option OperandCount
  | move | compute _ => some .two
  | push | pop => some .one
  | idle | interrupt => none

theorem countRule_of_name (operation : Operation) (written : Nat) :
    countRule? operation.name written = operation.operandCount? := by
  cases operation with
  | compute arithmetic => cases arithmetic <;> rfl
  | _ => rfl

end Operation

theorem decoded_not_faulty (reading : Except Rejection Instruction) (fault : Fault) :
    Decoded.ofExcept reading ≠ .faulty fault := by
  cases reading <;> simp [Decoded.ofExcept]

-- The operands are taken apart only as far as the table of counts lets them be written.
theorem decodeOperands_not_faulty (operation : Operation) (operands : List Operand)
    (allowed : ∀ rule, operation.operandCount? = some rule →
      rule.least ≤ operands.length ∧ operands.length ≤ rule.most)
    (fault : Fault) : decodeOperands operation operands ≠ .faulty fault := by
  have one (single : operation.operandCount? = some .one) : operands.length = 1 := by
    have counted := allowed .one single
    simp only [OperandCount.least, OperandCount.most] at counted
    omega
  have two (double : operation.operandCount? = some .two) : operands.length = 2 := by
    have counted := allowed .two double
    simp only [OperandCount.least, OperandCount.most] at counted
    omega
  cases operation with
  | move =>
      obtain ⟨source, destination, same⟩ := List.length_eq_two.mp (two rfl)
      exact same ▸ decoded_not_faulty _ fault
  | compute arithmetic =>
      obtain ⟨source, destination, same⟩ := List.length_eq_two.mp (two rfl)
      exact same ▸ decoded_not_faulty _ fault
  | push =>
      obtain ⟨source, same⟩ := List.length_eq_one_iff.mp (one rfl)
      exact same ▸ decoded_not_faulty _ fault
  | pop =>
      obtain ⟨destination, same⟩ := List.length_eq_one_iff.mp (one rfl)
      exact same ▸ decoded_not_faulty _ fault
  | idle => simp [decodeOperands]
  | interrupt => simp [decodeOperands]

theorem ReadAs.not_faulty {text : Text} {line : Int} {record : Record}
    (kind : ReadAs text line record) (fault : Fault) : decode record ≠ .faulty fault := by
  intro faulty
  have reading := decode_decodedAs record
  generalize decode record = result at faulty reading
  cases reading with
  | skipped => cases faulty
  | structural => cases faulty
  | unsupported => cases faulty
  | @operands operation executable clean named =>
      cases kind with
      | label name => simp [labelRecord] at executable
      | directive place name operandText here inside => simp [directiveRecord] at executable
      | loneRepeat place repetition here => simp [loneRepeatRecord] at clean
      | instruction place repetition mnemonic operandText here inside =>
          -- The rules count what is written, decoding takes what was accepted.
          have accounts := instructionRecord_accounts place repetition mnemonic operandText
          obtain ⟨_, allowed⟩ := accounts.clean clean
          refine decodeOperands_not_faulty operation _ (fun rule required => ?_) fault faulty
          rw [← operation.countRule_of_name (splitPieces operandText).length, named] at required
          exact allowed rule required

/-- A run that ends at a record whose effect cannot be written down. -/
def CutShort (machine : Machine) (records : List Record) : Prop :=
  execute machine records = .error .tooManyDigits ∧
    ∃ earlier record later before, records = earlier ++ record :: later ∧
      execute machine earlier = .ok before ∧ Unwritten before.machine record

/-- Records that can be decoded have one outcome each, unless their run is cut short. -/
theorem execute_cases (machine : Machine) (records : List Record)
    (decodable : ∀ record ∈ records, ∀ fault, decode record ≠ .faulty fault) :
    (∃ run, execute machine records = .ok run ∧ run.outcomes.length = records.length) ∨
      CutShort machine records := by
  cases ran : execute machine records with
  | ok run => exact .inl ⟨run, rfl, execute_outcomes records run ran⟩
  | error fault =>
      obtain ⟨earlier, record, later, before, rfl, reached, faults⟩ :=
        (execute_error_iff _ _).mp ran
      cases faults with
      | faulty fault decoded => exact absurd decoded (decodable record (by simp) fault)
      | unwritten overlong => exact .inr ⟨ran, earlier, record, later, before, rfl, reached, overlong⟩

section Drawn

variable {text : Text} {records : List Record}

theorem DrawnFrom.decodable (drawn : DrawnFrom text records) :
    ∀ record ∈ records, ∀ fault, decode record ≠ .faulty fault := by
  intro record member
  obtain ⟨line, _, kind⟩ := drawn.readAs record member
  exact kind.not_faulty

theorem DrawnFrom.execute_cases (drawn : DrawnFrom text records) (machine : Machine) :
    (∃ run, execute machine records = .ok run ∧ run.outcomes.length = records.length) ∨
      CutShort machine records :=
  AttAssembly.execute_cases machine records drawn.decodable

theorem drawnFrom_recordsOf (text : Text) : DrawnFrom text (recordsOf text) :=
  (drawnFrom_iff _ _).mpr (List.Subset.refl _)

theorem simulate_eq_execute (text : Text) (base : Int) :
    simulate text base = execute (.initial base) (recordsOf text) := by
  rw [simulate, analyze_eq_records]
  rfl

/-- Of the faults only one can end the work on a whole text. -/
theorem simulate_cases (text : Text) (base : Int) :
    CutShort (.initial base) (recordsOf text) ∨ ∃ run, simulate text base = .ok run := by
  rw [simulate_eq_execute]
  rcases (drawnFrom_recordsOf text).execute_cases _ with ⟨run, ran, _⟩ | cut
  · exact .inr ⟨run, ran⟩
  · exact .inl cut

theorem CutShort.simulated {text : Text} {base : Int}
    (cut : CutShort (.initial base) (recordsOf text)) : simulate text base = .error .tooManyDigits :=
  (simulate_eq_execute text base).trans cut.1

end Drawn

/-- The stack pointer can be given too many digits from outside, and a push writes them down. -/
theorem pushed_address_unwritten :
    execute (.initial writingBound) (recordsOf "push %esp") = .error .tooManyDigits := rfl

theorem long_register_named (register : Register) (long : register.size = .long) :
    GeneralRegister.ofName? register.name = some register.parent := by
  cases register with
  | long holder => cases holder <;> rfl
  | word holder => cases long
  | low holder => cases long
  | high holder => cases long

end AttAssembly
