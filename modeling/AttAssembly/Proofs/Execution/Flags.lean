import AttAssembly.Proofs.Execution.Accounting
import AttAssembly.Proofs.Machine.State

/-!
The flags. They are those of the exact result of the last addition or subtraction that was executed,
and both are clear before there is one; no other record touches them. So a record that changes a flag
is one of these two, and the classification of both has the two flags among those that they write.
-/

namespace AttAssembly

/-- A flag of the machine. It keeps two of them, and the others are never set. -/
def Machine.flag (machine : Machine) : Flag → Bool
  | .zero => machine.zero
  | .sign => machine.sign
  | _ => false

/-- The flags are those of a result. Without a result both are clear. -/
def Machine.Shows (machine : Machine) : Option Int → Prop
  | none => machine.zero = false ∧ machine.sign = false
  | some result => machine.zero = decide (result = 0) ∧ machine.sign = decide (result < 0)

/-- The exact result of a record, if it is an addition or a subtraction and was executed. -/
def executedResult? (machine : Machine) (record : Record) (outcome : Outcome) : Option Int :=
  if outcome.log?.isSome then exactResult? machine record else none

/-- The exact results of the additions and subtractions that are executed, in order. -/
def executedResults (machine : Machine) : List Record → List Int
  | [] => []
  | record :: rest =>
      match step machine record with
      | .ok (next, outcome) =>
          (executedResult? machine record outcome).toList ++ executedResults next rest
      | .error _ => []

section Steps

variable {machine next : Machine} {record : Record} {outcome : Outcome} {last : Option Int}

namespace Machine.Shows

theorem exclusive (shown : machine.Shows last) :
    ¬ (machine.zero = true ∧ machine.sign = true) := by
  rintro ⟨zero, sign⟩
  cases last with
  | none => exact absurd (shown.1.symm.trans zero) (by decide)
  | some result =>
      have null : result = 0 := of_decide_eq_true (shown.1.symm.trans zero)
      have negative : result < 0 := of_decide_eq_true (shown.2.symm.trans sign)
      omega

theorem kept (shown : machine.Shows last) (zero : next.zero = machine.zero)
    (sign : next.sign = machine.sign) : next.Shows last := by
  cases last with
  | none => exact ⟨zero.trans shown.1, sign.trans shown.2⟩
  | some result => exact ⟨zero.trans shown.1, sign.trans shown.2⟩

end Machine.Shows

/-- An addition or a subtraction shows its result, and every other instruction leaves the flags as
    they were. -/
theorem run_flags (instruction : Instruction) (effect : Effect)
    (ran : instruction.run machine = some (next, effect)) :
    (∃ arithmetic source destination result,
      instruction = .compute arithmetic source destination ∧ effect.result? = some result ∧
        next.Shows (some result)) ∨
    (effect.result? = none ∧ next.zero = machine.zero ∧ next.sign = machine.sign) := by
  cases instruction with
  | compute arithmetic source destination =>
      cases ran
      exact .inl ⟨arithmetic, source, destination, _, rfl, rfl, rfl, rfl⟩
  | move source destination =>
      cases ran
      by_cases pointer : destination = .esp
      · exact .inr (by simp [pointer, Effect.result?])
      · exact .inr (by simp [pointer, Effect.result?])
  | push source =>
      cases ran
      exact .inr ⟨rfl, rfl, rfl⟩
  | pop destination =>
      obtain ⟨value, shorter, popped, rfl, rfl⟩ := run_pop_iff.mp ran
      obtain ⟨_, zero, sign, _⟩ := machine.pop_some value shorter popped
      exact .inr ⟨rfl, zero, sign⟩
  | idle =>
      cases ran
      exact .inr ⟨rfl, rfl, rfl⟩
  | interrupt vector =>
      cases ran
      exact .inr ⟨rfl, rfl, rfl⟩

theorem stepped_shows (stepped : Stepped machine record next outcome) (shown : machine.Shows last) :
    next.Shows ((executedResult? machine record outcome).or last) := by
  cases stepped with
  | executed instruction effect next decoded ran =>
      obtain ⟨operation, executable⟩ := decode_executable record instruction decoded
      have exact := executed_result _ _ record operation instruction effect executable ran
      rw [executedResult?, Outcome.log?, Option.isSome_some, if_pos rfl, exact]
      rcases run_flags instruction effect ran with
        ⟨_, _, _, result, _, computed, shows_⟩ | ⟨plain, zero, sign⟩
      · rw [computed]
        exact shows_
      · rw [plain]
        exact shown.kept zero sign
  | _ => exact shown

/-- What changes a flag is an addition or a subtraction, and the flag is one of the two. -/
theorem stepped_changes (stepped : Stepped machine record next outcome) (flag : Flag)
    (changed : next.flag flag ≠ machine.flag flag) :
    (flag = .zero ∨ flag = .sign) ∧ ∃ arithmetic instruction,
      record.Executable (.compute arithmetic) instruction := by
  have held : flag = .zero ∨ flag = .sign := by
    cases flag with
    | zero => exact .inl rfl
    | sign => exact .inr rfl
    | _ => exact absurd rfl changed
  refine ⟨held, ?_⟩
  cases stepped with
  | executed instruction effect next decoded ran =>
      rcases run_flags instruction effect ran with
        ⟨arithmetic, source, destination, _, rfl, _⟩ | ⟨_, zero, sign⟩
      · obtain ⟨operation, executable⟩ := decode_executable record _ decoded
        have taken := executable.taken
        generalize record.operands = operands at taken
        cases taken
        exact ⟨arithmetic, _, executable⟩
      · rcases held with rfl | rfl
        · exact absurd zero changed
        · exact absurd sign changed
  | _ => exact absurd rfl changed

end Steps

section Runs

variable {machine : Machine}

theorem executedResults_concat (records : List Record) (record : Record) (before : Run)
    (next : Machine) (outcome : Outcome) (ran : execute machine records = .ok before)
    (stepped : Stepped before.machine record next outcome) :
    executedResults machine (records ++ [record]) = executedResults machine records ++
      (executedResult? before.machine record outcome).toList := by
  induction records generalizing machine before with
  | nil =>
      cases ran
      simp [executedResults, (step_iff _ _ _ _).mpr stepped]
  | cons first rest ih =>
      obtain ⟨middle, earlier, later, taken, ranRest, rfl⟩ := (execute_cons _ _ _).mp ran
      rw [List.cons_append, executedResults, executedResults, (step_iff _ _ _ _).mpr taken]
      dsimp only
      rw [ih later ranRest stepped, List.append_assoc]

theorem execute_shows (stackBase : Int) (records : List Record) (run : Run)
    (ran : execute (.initial stackBase) records = .ok run) :
    run.machine.Shows (executedResults (.initial stackBase) records).getLast? := by
  refine execute_induction
    (fun records run => run.machine.Shows (executedResults (.initial stackBase) records).getLast?)
    ⟨rfl, rfl⟩ ?_ records run ran
  intro records record before next outcome earlier shown stepped
  have after := stepped_shows stepped shown
  rw [executedResults_concat records record before next outcome earlier stepped,
    List.getLast?_append]
  cases found : executedResult? before.machine record outcome with
  | none => simpa [found] using after
  | some result => simpa [found] using after

end Runs

theorem ReadAs.writes_eq {text : Text} {line : Int} {record : Record}
    (kind : ReadAs text line record)
    (statement : record.category ≠ .label ∧ record.category ≠ .directive) :
    record.writes = flagsWritten record.mnemonic := by
  cases kind with
  | label name => exact absurd rfl statement.1
  | directive place name operandText here inside => exact absurd rfl statement.2
  | instruction place repetition mnemonic operandText here inside => rfl
  | loneRepeat place repetition here => cases repetition <;> rfl

theorem flagsWritten_arithmetic (arithmetic : Arithmetic) :
    flagsWritten (Operation.compute arithmetic).name = arithmeticFlags := by
  cases arithmetic <;> rfl

/-- After every prefix of a run of records drawn from a text, the flags are those of the exact result
of the last addition or subtraction that was executed, so they are never both set. A flag that a
record changes is one of those that the classification of its mnemonic says are written. Only a record
that cannot be written down ends the run, and then there are no flags after it. -/
theorem flags_of_last_result (text : Text) (records : List Record)
    (drawn : DrawnFrom text records) (stackBase : Int) (count : Nat) :
    CutShort (.initial stackBase) (records.take count) ∨
    ∃ run, execute (.initial stackBase) (records.take count) = .ok run ∧
      run.machine.Shows (executedResults (.initial stackBase) (records.take count)).getLast? ∧
      ¬ (run.machine.zero = true ∧ run.machine.sign = true) ∧
      ∀ record, records[count]? = some record → Unwritten run.machine record ∨ ∃ after,
        execute (.initial stackBase) (records.take (count + 1)) = .ok after ∧
          ∀ flag, after.machine.flag flag ≠ run.machine.flag flag →
            flag ∈ record.writes ∧
              record.writes = (classify record.mnemonic record.operands.length).writes := by
  rcases (drawn.take count).execute_cases (.initial stackBase) with ⟨run, ran, _⟩ | cut
  · have shown := execute_shows stackBase _ run ran
    refine .inr ⟨run, ran, shown, shown.exclusive, fun record found => ?_⟩
    have member := List.mem_of_getElem? found
    obtain ⟨next, outcome, stepped, upTo⟩ | ⟨fault, faults, _⟩ := execute_next found ran
    · refine .inr ⟨_, upTo, fun flag changed => ?_⟩
      obtain ⟨held, arithmetic, instruction, executable⟩ := stepped_changes stepped flag changed
      obtain ⟨line, _, kind⟩ := drawn.readAs record member
      have writes := kind.writes_eq executable.statement
      have listed : record.writes = arithmeticFlags := by
        rw [writes, executable.named, flagsWritten_arithmetic]
      refine ⟨?_, writes⟩
      rw [listed]
      rcases held with rfl | rfl <;> decide
    · cases faults with
      | faulty fault decoded => exact absurd decoded (drawn.decodable record member fault)
      | unwritten overlong => exact .inl overlong
  · exact .inl cut

/-- A sum of zero with a size suffix, one that fails on its operands, a line of data and a pop from an
empty stack, executed twice over; the last result is below zero. -/
theorem flags_of_last_result_interleaved :
    let text : Text := "addl $0, %eax\nadd $1, %al\nn: .int 3\npop %ebx\nsub $9, %ecx"
    let records := recordsOf text ++ recordsOf text
    DrawnFrom text records ∧ ∃ run, execute (.initial 4096) (records.take 9) = .ok run ∧
      run.machine.Shows (some 0) ∧
      ∃ record after, records[9]? = some record ∧
        execute (.initial 4096) (records.take 10) = .ok after ∧
        after.machine.flag .sign = true ∧ Flag.sign ∈ record.writes := by
  intro text records
  have drawn : DrawnFrom text records := (drawnFrom_iff text records).mpr (by simp [records])
  have whole : ¬ CutShort (.initial 4096) (records.take 9) := fun cut => by cases cut.1
  obtain ⟨run, ran, shown, _, changes⟩ :=
    (flags_of_last_result text records drawn 4096 9).resolve_left whole
  have results : executedResults (.initial 4096) (records.take 9) = [0, -9, 0] := by decide
  rw [results] at shown
  obtain ⟨record, found⟩ : ∃ record, records[9]? = some record := ⟨_, rfl⟩
  obtain ⟨expected, computed, negative⟩ : ∃ expected,
      execute (.initial 4096) (records.take 10) = .ok expected ∧
        expected.machine.flag .sign = true := ⟨_, rfl, rfl⟩
  obtain overlong | ⟨after, upTo, each⟩ := changes record found
  · obtain ⟨before, _, earlier, stepped, _⟩ := execute_split found computed
    cases Except.ok.inj (earlier.symm.trans ran)
    exact absurd overlong stepped.written
  · cases Except.ok.inj (computed.symm.trans upTo)
    have changed : expected.machine.flag .sign ≠ run.machine.flag .sign := by
      rw [negative, Machine.flag, shown.2]
      decide
    exact ⟨drawn, run, ran, shown, record, expected, found, upTo, negative, (each .sign changed).1⟩

end AttAssembly
