import AttAssembly.Proofs.Analysis.Concatenation
import AttAssembly.Proofs.Analysis.Operands
import AttAssembly.Proofs.Execution.Decoding
import AttAssembly.Proofs.Execution.Step
import AttAssembly.Proofs.Line.Instructions
import AttAssembly.Proofs.Machine.State

/-!
A value that goes over the stack. A push and a pop after it hand a value on as a move does, whichever
registers they name: the source is read before the stack pointer moves, and the destination is
written after the pointer has come back. Only a move to the stack pointer does more, because it
forgets what was pushed. A value that cannot be written down ends the run on both ways.
-/

namespace AttAssembly

/-- The form of the operands that a source comes from. -/
def Source.form : Source → OperandForm
  | .number value => .immediate (.number value)
  | .register holder => .register (.long holder)

/-- An immediate with a number or a 32-bit register, read from any token that stands on one line. -/
structure Operand.Supplies (operand : Operand) (source : Source) : Prop where
  read : ∃ token, OnOneLine token ∧ Operand.read token = .ok operand
  form : operand.form = source.form

namespace Operand.Supplies

variable {operand : Operand} {source : Source} (supplies : operand.Supplies source)
include supplies

theorem direct : operand.isMemory = false := by
  rw [isMemory, supplies.form]
  cases source <;> rfl

/-- A branch makes targets of references only. -/
theorem asBranchTarget_eq : operand.asBranchTarget = operand := by
  refine asBranchTarget_other fun bare => ?_
  obtain ⟨_, symbol, displacement, form⟩ := bare
  have direct := supplies.direct
  rw [isMemory, form] at direct
  cases direct

theorem sourceOf_eq : sourceOf operand = .ok source := by
  rw [sourceOf_iff, supplies.form]
  cases source with
  | number value => exact .inr ⟨value, rfl, rfl⟩
  | register holder => exact .inl ⟨holder, rfl, rfl⟩

/-- The text of the operand is as good as the token it was read from. -/
theorem read_text : Operand.read operand.text = .ok operand := by
  obtain ⟨token, _, found⟩ := supplies.read
  rw [(read_from found).text, ← found]
  simp only [Operand.read, trim_trim]

theorem sourceParts : ∀ c ∈ operand.text, isSourcePart c = true := by
  obtain ⟨token, _, found⟩ := supplies.read
  rw [(read_from found).text]
  exact read_sourceParts found supplies.direct

theorem text_onOneLine : OnOneLine operand.text := by
  obtain ⟨token, oneLine, found⟩ := supplies.read
  rw [(read_from found).text]
  exact oneLine.of_subset (trim_subset token)

theorem text_isPiece : IsPiece operand.text where
  contained := selfContained_of_quiet _ fun c member =>
    sourcePart_quiet c (supplies.sourceParts c member)
  trimmed := by
    obtain ⟨token, _, found⟩ := supplies.read
    rw [(read_from found).text]
    exact trimmed_trim token
  nonempty := by
    intro nothing
    have read := supplies.read_text
    rw [nothing] at read
    cases read
    cases supplies.direct

theorem colonless : ':' ∉ operand.text := fun colon =>
  absurd (supplies.sourceParts ':' colon) (by decide)

end Operand.Supplies

namespace Operation

/-- The line of an operation and its operands. -/
def line (operation : Operation) (operands : List Operand) : Text :=
  operation.name ++ " " ++ joinWith ", " (operands.map (·.text))

theorem mem_all (operation : Operation) : operation ∈ all := by
  cases operation with
  | compute arithmetic => cases arithmetic <;> decide
  | _ => decide

theorem name_characters (operation : Operation) :
    operation.name ≠ [] ∧ ∀ c ∈ operation.name, c.isAlphanum = true := by
  have each : ∀ operation ∈ all, operation.name ≠ [] ∧
      operation.name.all Char.isAlphanum = true := by decide
  exact (each operation operation.mem_all).imp_right List.all_eq_true.mp

/-- The name of an operation is a mnemonic as it stands. -/
theorem name_whole (operation : Operation) :
    splitSizeSuffix (lower operation.name) = (operation.name, none) ∧
      ofName? operation.name = some operation ∧
        RepeatPrefix.ofName? (lower operation.name) = none := by
  have each : ∀ operation ∈ all,
      splitSizeSuffix (lower operation.name) = (operation.name, none) ∧
        ofName? operation.name = some operation ∧
          RepeatPrefix.ofName? (lower operation.name) = none := by decide +kernel
  exact each operation operation.mem_all

variable {operands : List Operand}
  (supplied : ∀ operand ∈ operands, ∃ source, operand.Supplies source)
include supplied

theorem pieces : ∀ piece ∈ operands.map (·.text), IsPiece piece ∧ ':' ∉ piece := by
  intro piece member
  obtain ⟨operand, among, same⟩ := List.mem_map.mp member
  obtain ⟨source, supplies⟩ := supplied operand among
  exact same ▸ ⟨supplies.text_isPiece, supplies.colonless⟩

theorem decode_instructionRecord (operation : Operation) (place : Place)
    (kept : validate operation.name operands operands.length = []) :
    decode (instructionRecord place none (lower operation.name)
      (joinWith ", " (operands.map (·.text)))) = decodeOperands operation operands := by
  obtain ⟨whole, named, _⟩ := operation.name_whole
  have pieces := splitPieces_joined _ fun piece member => (pieces supplied piece member).1
  have reads : ∀ operand ∈ operands, Operand.read operand.text = .ok (id operand) := by
    intro operand member
    obtain ⟨source, supplies⟩ := supplied operand member
    exact supplies.read_text
  obtain ⟨accepted, refused⟩ := accepted_of_read reads
  have kinds : operands.map Operand.asBranchTarget = operands := by
    refine (List.map_congr_left fun operand member => ?_).trans (List.map_id operands)
    obtain ⟨source, supplies⟩ := supplied operand member
    exact supplies.asBranchTarget_eq
  obtain ⟨label, directive⟩ := category_statement operation.name operands.length
  simp only [decode, instructionRecord, whole, pieces, accepted, refused, classify, List.map_id,
    kinds, ite_self, List.length_map, kept, List.map_nil, List.append_nil, label, directive, or_self,
    named, ne_eq, not_true_eq_false, if_false]

theorem line_onOneLine (operation : Operation) : OnOneLine (operation.line operands) := by
  refine spacedLine_avoids operation.name_characters.2 (by decide) fun piece member feed => ?_
  obtain ⟨operand, among, same⟩ := List.mem_map.mp member
  obtain ⟨source, supplies⟩ := supplied operand among
  exact supplies.text_onOneLine (same ▸ feed)

/-- Such a line has one record, and the instruction comes out of it. -/
theorem recordsOf_line {operation : Operation} {instruction : Instruction}
    (kept : validate operation.name operands operands.length = [])
    (taken : operation.Takes operands instruction) :
    ∃ record, recordsOf (operation.line operands) = [record] ∧
      decode record = .instruction instruction := by
  obtain ⟨written, word⟩ := operation.name_characters
  obtain ⟨place, read⟩ := readLine_spaced 1 written word operation.name_whole.2.2
    (fun piece member => (pieces supplied piece member).1)
    (fun piece member => (pieces supplied piece member).2)
  refine ⟨_, ?_, (decode_instructionRecord supplied operation place kept).trans taken.decoded⟩
  rw [recordsOf_eq_parts, splitParts, splitWhere_oneLine _ (line_onOneLine supplied operation),
    recordsFrom, line, read]
  rfl

end Operation

section Lines

variable {given target : Operand} {source : Source} {destination : GeneralRegister}
  (supplied : given.Supplies source) (received : target.Supplies (.register destination))

theorem Operand.Supplies.alone {operand : Operand} (supplies : operand.Supplies source) :
    ∀ other ∈ [operand], ∃ source, other.Supplies source :=
  List.forall_mem_singleton.mpr ⟨source, supplies⟩

theorem Record.decode_moved (record : Record) (count : Int) :
    decode (record.moved count) = decode record := rfl

include supplied received

theorem analyze_push_pop :
    ∃ pushing popping,
      analyze ("push " ++ given.text ++ "\npop " ++ target.text) = .ok [pushing, popping] ∧
      decode pushing = .instruction (.push source) ∧
      decode popping = .instruction (.pop destination) := by
  obtain ⟨pushing, first, pushed⟩ :=
    Operation.recordsOf_line supplied.alone rfl (.push supplied.sourceOf_eq)
  obtain ⟨popping, second, popped⟩ :=
    Operation.recordsOf_line received.alone rfl (.pop received.form)
  have lines : ("push " ++ given.text ++ "\npop " ++ target.text : Text) =
      Operation.push.line [given] ++ '\n' :: Operation.pop.line [target] := by
    simp [Operation.line, Operation.name, joinWith]
  refine ⟨pushing, popping.moved (1 + (Operation.push.line [given]).count '\n'), ?_, pushed,
    (popping.decode_moved _).trans popped⟩
  rw [lines, analyze_eq_records, recordsOf_append, first, second]
  rfl

theorem analyze_move :
    ∃ moving, analyze ("mov " ++ given.text ++ ", " ++ target.text) = .ok [moving] ∧
      decode moving = .instruction (.move source destination) := by
  have both : ∀ operand ∈ [given, target], ∃ source, operand.Supplies source :=
    List.forall_mem_cons.mpr ⟨⟨source, supplied⟩, received.alone⟩
  have kept : validate Operation.move.name [given, target] [given, target].length = [] := by
    have direct : [given, target].all (·.isMemory) = false := by simp [received.direct]
    rw [validate, isMemoryToMemory, direct, Bool.and_false]
    rfl
  obtain ⟨moving, alone, moved⟩ :=
    Operation.recordsOf_line both kept (.move supplied.sourceOf_eq received.form)
  have line : ("mov " ++ given.text ++ ", " ++ target.text : Text) =
      Operation.move.line [given, target] := by
    simp [Operation.line, Operation.name, joinWith]
  exact ⟨moving, by rw [line, analyze_eq_records, alone], moved⟩

end Lines

section Runs

variable {source : Source} {destination : GeneralRegister}

theorem handed_written {value : Int} (written : writable value = true) :
    (Effect.pushed (some value)).isWritable = true := by
  simpa [Effect.isWritable, Effect.value?] using written

/-- The pop finds the pointer and the stack where the push found them. -/
theorem push_pop_runs (machine : Machine) {pushing popping : Record}
    (pushed : decode pushing = .instruction (.push source))
    (popped : decode popping = .instruction (.pop destination))
    (written : writable (source.value machine) = true) :
    ∃ run, execute machine [pushing, popping] = .ok run ∧
      run.machine = machine.set destination (source.value machine) ∧
        ∀ file, run.diagnostics file = [] := by
  have pops : Instruction.run (machine.push (source.value machine)) (.pop destination) =
      some (machine.set destination (source.value machine),
        .popped (some (source.value machine)) destination) := by
    rw [Instruction.run, Machine.pop_push]
    rfl
  exact ⟨_, execute_executed pushed rfl (handed_written written)
    (execute_executed popped pops (handed_written written) rfl), rfl, fun _ => rfl⟩

theorem move_runs (machine : Machine) {moving : Record}
    (moved : decode moving = .instruction (.move source destination))
    (other : destination ≠ .esp) (written : writable (source.value machine) = true) :
    ∃ run, execute machine [moving] = .ok run ∧
      run.machine = machine.set destination (source.value machine) := by
  refine ⟨_, execute_executed moved rfl (handed_written written) rfl, ?_⟩
  rw [if_neg other]

end Runs

/-- In every state, a number or a 32-bit register that is pushed and popped into another register
    than the stack pointer leaves the machine as a move of it does, and a register that is pushed and
    popped into itself leaves it as it was, the stack pointer too. A value with too many digits is
    neither pushed nor moved to the end. -/
theorem push_pop_agrees_with_move (given target : Operand) (source : Source)
    (destination : GeneralRegister) (supplied : given.Supplies source)
    (received : target.Supplies (.register destination)) :
    ∃ pushing moving,
      analyze ("push " ++ given.text ++ "\npop " ++ target.text) = .ok pushing ∧
      analyze ("mov " ++ given.text ++ ", " ++ target.text) = .ok moving ∧
      ∀ machine,
        (writable (source.value machine) = true → ∃ after, execute machine pushing = .ok after ∧
          (∀ file, after.diagnostics file = []) ∧
          (destination ≠ .esp →
            ∃ moved, execute machine moving = .ok moved ∧ after.machine = moved.machine) ∧
          (source = .register destination → after.machine = machine)) ∧
        (writable (source.value machine) = false →
          execute machine pushing = .error .tooManyDigits ∧
            execute machine moving = .error .tooManyDigits) := by
  obtain ⟨pushing, popping, twoRecords, pushed, popped⟩ := analyze_push_pop supplied received
  obtain ⟨moving, oneRecord, moved⟩ := analyze_move supplied received
  refine ⟨_, _, twoRecords, oneRecord, fun machine => ⟨fun written => ?_, fun overlong => ?_⟩⟩
  · obtain ⟨after, ran, left, silent⟩ := push_pop_runs machine pushed popped written
    refine ⟨after, ran, silent, fun other => ?_, ?_⟩
    · obtain ⟨run, done, handed⟩ := move_runs machine moved other written
      exact ⟨run, done, left.trans handed.symm⟩
    · rintro rfl
      exact left.trans (machine.set_get destination)
  · have unwritten : (Effect.pushed (some (source.value machine))).isWritable = false := by
      simpa [Effect.isWritable, Effect.value?] using overlong
    exact ⟨execute_unwritten ⟨_, _, _, pushed, rfl, unwritten⟩,
      execute_unwritten ⟨_, _, _, moved, rfl, unwritten⟩⟩

theorem push_pop_agrees_with_move_spelled :
    (∃ pushing moving, analyze "push $\t-0B11\npop %eAx" = .ok pushing ∧
      analyze "mov $\t-0B11, %eAx" = .ok moving ∧
      ∀ machine, ∃ after moved, execute machine pushing = .ok after ∧
        execute machine moving = .ok moved ∧ after.machine = moved.machine) ∧
    ∃ pushing, analyze "push %ESP\npop %eſp" = .ok pushing ∧
      ∀ machine, writable (machine.get .esp) = true →
        ∃ after, execute machine pushing = .ok after ∧ after.machine = machine := by
  have number : (⟨"$\t-0B11", .immediate (.number (-3)), .immediate⟩ : Operand).Supplies
      (.number (-3)) := ⟨⟨"$\t-0B11", by decide, rfl⟩, rfl⟩
  have accumulator : (⟨"%eAx", .register (.long .eax), .register⟩ : Operand).Supplies
      (.register .eax) := ⟨⟨"%eAx", by decide, rfl⟩, rfl⟩
  have pointer : (⟨"%ESP", .register (.long .esp), .register⟩ : Operand).Supplies
      (.register .esp) := ⟨⟨"%ESP", by decide, rfl⟩, rfl⟩
  have again : (⟨"%eſp", .register (.long .esp), .register⟩ : Operand).Supplies
      (.register .esp) := ⟨⟨" %eſp\r", by decide, rfl⟩, rfl⟩
  constructor
  · obtain ⟨pushing, moving, pushed, moved, agree⟩ :=
      push_pop_agrees_with_move _ _ _ _ number accumulator
    refine ⟨pushing, moving, pushed, moved, fun machine => ?_⟩
    obtain ⟨after, ran, _, other, _⟩ := (agree machine).1 rfl
    obtain ⟨run, done, same⟩ := other (by decide)
    exact ⟨after, run, ran, done, same⟩
  · obtain ⟨pushing, _, pushed, _, agree⟩ := push_pop_agrees_with_move _ _ _ _ pointer again
    refine ⟨pushing, pushed, fun machine written => ?_⟩
    obtain ⟨after, ran, _, _, itself⟩ := (agree machine).1 written
    exact ⟨after, ran, itself rfl⟩

/-- A stack pointer with too many digits does not come back from the stack. -/
theorem pushed_pointer_not_popped :
    ¬ ∀ (stackBase : Int) (pushing : List Record), analyze "push %esp\npop %esp" = .ok pushing →
      ∃ after, execute (.initial stackBase) pushing = .ok after ∧
        after.machine = .initial stackBase := by
  intro claim
  obtain ⟨after, ran, _⟩ := claim writingBound _ (analyze_eq_records _)
  cases (show execute (.initial writingBound) (recordsOf "push %esp\npop %esp") =
    .error .tooManyDigits from rfl).symm.trans ran

end AttAssembly
