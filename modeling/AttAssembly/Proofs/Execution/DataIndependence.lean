import AttAssembly.Proofs.Execution.Accounting
import AttAssembly.Proofs.Execution.StackBase

/-!
Which records run does not depend on data. The numbers of immediates are taken out of a record by
`withoutData`; decoding looks at a number only to hand it on, so records that are the same without
their data come to the same kind of instruction. Of the machine only the height of the stack decides
whether an instruction can be carried out, and the height after it follows from the kind of the
instruction alone. Two runs of such records therefore keep step, from any two stack bases, until one of them is
cut short.
-/

namespace AttAssembly

namespace Operand

/-- The operand with its number, if it has one, and the text of the number taken out. -/
def withoutNumber (operand : Operand) : Operand :=
  match operand.form with
  | .immediate (.number _) => ⟨[], .immediate (.number 0), operand.mode⟩
  | _ => operand

theorem form_withoutNumber (operand : Operand) :
    operand.withoutNumber.form =
      match operand.form with
      | .immediate (.number _) => .immediate (.number 0)
      | form => form := by
  rw [withoutNumber.eq_def]
  split
  · rfl
  · rfl

end Operand

/-- The record without the numbers of its operands and without the texts that show them. -/
def Record.withoutData (record : Record) : Record :=
  { record with
    operands := record.operands.map (·.withoutNumber)
    addressing := []
    source := [] }

def Source.withoutNumber : Source → Source
  | .number _ => .number 0
  | source => source

/-- The text of an interrupt may be that of a number, so it goes as well. -/
def Instruction.withoutData : Instruction → Instruction
  | .move source destination => .move source.withoutNumber destination
  | .compute arithmetic source destination => .compute arithmetic source.withoutNumber destination
  | .push source => .push source.withoutNumber
  | .interrupt _ => .interrupt none
  | .pop destination => .pop destination
  | .idle => .idle

def Decoded.withoutData : Decoded → Decoded
  | .instruction taken => .instruction taken.withoutData
  | other => other

/-- Records that differ at most in the numbers of their operands and in what shows these. -/
def Record.Alike (first second : Record) : Prop := first.withoutData = second.withoutData

theorem all_alike_iff (records others : List Record) :
    List.Forall₂ Record.Alike records others ↔
      records.map (·.withoutData) = others.map (·.withoutData) := by
  rw [← List.forall₂_eq_eq_eq, List.forall₂_map_left_iff, List.forall₂_map_right_iff]
  rfl

section Decoding

theorem destinationOf_withoutNumber (operation : Operation) (operand : Operand) :
    destinationOf operation operand.withoutNumber = destinationOf operation operand := by
  rw [destinationOf, destinationOf, Operand.form_withoutNumber]
  cases operand.form with
  | immediate value => cases value <;> rfl
  | _ => rfl

theorem sourceOf_withoutNumber (operand : Operand) :
    sourceOf operand.withoutNumber = (sourceOf operand).map Source.withoutNumber := by
  rcases operand with ⟨text, form, mode⟩
  cases form with
  | immediate value => cases value <;> rfl
  | register register => cases register <;> rfl
  | _ => rfl

-- A number that was read is put into the instruction and taken out again.
theorem source_handed_on (build : Source → Instruction) (reading : Except Rejection Source)
    (handed : ∀ source, (build source.withoutNumber).withoutData = (build source).withoutData) :
    (Decoded.ofExcept ((reading.map Source.withoutNumber).map build)).withoutData =
      (Decoded.ofExcept (reading.map build)).withoutData := by
  cases reading with
  | error cause => rfl
  | ok source => exact congrArg Decoded.instruction (handed source)

theorem decodeOperands_withoutNumbers (operation : Operation) (operands : List Operand) :
    (decodeOperands operation (operands.map (·.withoutNumber))).withoutData =
      (decodeOperands operation operands).withoutData := by
  cases operation with
  | move =>
      match operands with
      | [source, destination] =>
          simp only [List.map, decodeOperands, destinationOf_withoutNumber, sourceOf_withoutNumber]
          cases destinationOf .move destination with
          | error cause => rfl
          | ok register =>
              exact source_handed_on (.move · register) _ fun source => by cases source <;> rfl
      | [] | [_] | _ :: _ :: _ :: _ => rfl
  | compute arithmetic =>
      match operands with
      | [source, destination] =>
          simp only [List.map, decodeOperands, destinationOf_withoutNumber, sourceOf_withoutNumber]
          cases destinationOf (.compute arithmetic) destination with
          | error cause => rfl
          | ok register =>
              exact source_handed_on (.compute arithmetic · register) _ fun source => by
                cases source <;> rfl
      | [] | [_] | _ :: _ :: _ :: _ => rfl
  | push =>
      cases operands with
      | nil => rfl
      | cons source others =>
          simp only [List.map, decodeOperands, sourceOf_withoutNumber]
          exact source_handed_on .push _ fun source => by cases source <;> rfl
  | pop =>
      cases operands with
      | nil => rfl
      | cons destination others =>
          simp only [List.map, decodeOperands, destinationOf_withoutNumber]
  | idle => rfl
  | interrupt => rfl

theorem decode_withoutData (record : Record) :
    (decode record.withoutData).withoutData = (decode record).withoutData := by
  have name : statementName record.withoutData = statementName record := rfl
  simp only [decode, name]
  simp only [Record.withoutData]
  by_cases skipped : record.category = .label ∨ record.category = .directive
  · simp only [skipped, ↓reduceIte]
  · by_cases clean : record.errors = []
    · simp only [skipped, clean, ne_eq, not_true_eq_false, ↓reduceIte]
      split
      · exact decodeOperands_withoutNumbers _ _
      · rfl
    · simp only [skipped, clean, ne_eq, not_false_eq_true, ↓reduceIte]

/-- How high the stack stands after an instruction, unless it pops from an empty one. -/
def Instruction.heightAfter (height : Nat) : Instruction → Option Nat
  | .move _ destination => some (if destination = .esp then 0 else height)
  | .push _ => some (height + 1)
  | .pop _ => if height = 0 then none else some (height - 1)
  | .compute _ _ _ | .idle | .interrupt _ => some height

theorem heightAfter_withoutData (height : Nat) (instruction : Instruction) :
    instruction.withoutData.heightAfter height = instruction.heightAfter height := by
  cases instruction <;> rfl

theorem run_height (machine : Machine) (instruction : Instruction) :
    (instruction.run machine).map (·.1.stack.length) =
      instruction.heightAfter machine.stack.length := by
  cases instruction with
  | move source destination =>
      by_cases moved : destination = .esp
      · simp [Instruction.run, Instruction.heightAfter, moved]
      · simp [Instruction.run, Instruction.heightAfter, moved]
  | compute arithmetic source destination => simp [Instruction.run, Instruction.heightAfter]
  | push source => simp [Instruction.run, Instruction.heightAfter]
  | pop destination =>
      cases popped : machine.pop? with
      | none =>
          have empty := machine.pop_none_iff.mp popped
          simp [Instruction.run, Instruction.heightAfter, popped, empty]
      | some result =>
          have stack := (machine.pop_some result.1 result.2 popped).1
          simp [Instruction.run, Instruction.heightAfter, popped, stack]
  | idle => rfl
  | interrupt vector => rfl

end Decoding

/-- Outcomes that tell the same but for values and sources. -/
inductive Outcome.SameBranch : Outcome → Outcome → Prop
  | skipped : SameBranch .skipped .skipped
  | rejected (line : Int) (causes : List Rejection) :
      SameBranch (.rejected line causes) (.rejected line causes)
  | executed (entry other : LogEntry) (line : entry.line = other.line) :
      SameBranch (.executed entry) (.executed other)

/-- What a diagnostic says, wherever the text was read from. -/
def Diagnostic.content (diagnostic : Diagnostic) : Option Int × Text × Option Text :=
  (diagnostic.line, diagnostic.message, diagnostic.hint)

/-- The errors that a run reports, in order. -/
def Run.errorContents (run : Run) (file : Option Text) : List (Option Int × Text × Option Text) :=
  ((run.diagnostics file).filter (·.severity = .error)).map (·.content)

section Branches

variable {machine other next : Machine} {record twin : Record} {outcome : Outcome}

namespace Record.Alike

theorem line_eq (alike : record.Alike twin) : record.line = twin.line := by
  have same : record.withoutData.line = twin.withoutData.line := congrArg Record.line alike
  exact same

theorem decoded_eq (alike : record.Alike twin) :
    (decode twin).withoutData = (decode record).withoutData := by
  rw [← decode_withoutData record, ← decode_withoutData twin, alike]

theorem skipped (alike : record.Alike twin) (decoded : decode record = .skipped) :
    decode twin = .skipped := by
  have same := alike.decoded_eq
  rw [decoded] at same
  cases twinDecoded : decode twin <;> simp [twinDecoded, Decoded.withoutData] at same ⊢

theorem rejected (alike : record.Alike twin) (causes : List Rejection)
    (decoded : decode record = .rejected causes) : decode twin = .rejected causes := by
  have same := alike.decoded_eq
  rw [decoded] at same
  cases twinDecoded : decode twin <;> simp [twinDecoded, Decoded.withoutData] at same ⊢
  exact same

/-- The two instructions move the height of the stack in the same way. -/
theorem instruction (alike : record.Alike twin) (taken : Instruction)
    (decoded : decode record = .instruction taken) :
    ∃ mate, decode twin = .instruction mate ∧
      ∀ height, mate.heightAfter height = taken.heightAfter height := by
  have same := alike.decoded_eq
  rw [decoded] at same
  cases twinDecoded : decode twin with
  | instruction mate =>
      refine ⟨mate, rfl, fun height => ?_⟩
      rw [twinDecoded] at same
      rw [← heightAfter_withoutData, Decoded.instruction.inj same, heightAfter_withoutData]
  | _ => simp [twinDecoded, Decoded.withoutData] at same

end Record.Alike

theorem step_alike {after : Machine} {result : Outcome} (alike : record.Alike twin)
    (level : machine.stack.length = other.stack.length)
    (stepped : Stepped machine record next outcome) (twinStepped : Stepped other twin after result) :
    outcome.SameBranch result ∧ next.stack.length = after.stack.length := by
  cases stepped with
  | skipped decoded =>
      obtain ⟨rfl, rfl⟩ := twinStepped.unique (.skipped (alike.skipped decoded))
      exact ⟨.skipped, level⟩
  | rejected causes decoded =>
      obtain ⟨rfl, rfl⟩ := twinStepped.unique (.rejected causes (alike.rejected causes decoded))
      exact ⟨alike.line_eq ▸ .rejected _ causes, level⟩
  | starved taken decoded stuck =>
      obtain ⟨mate, twinDecoded, heights⟩ := alike.instruction taken decoded
      have height := run_height machine taken
      rw [stuck, level, ← heights, ← run_height] at height
      obtain ⟨rfl, rfl⟩ :=
        twinStepped.unique (.starved mate twinDecoded (Option.map_eq_none_iff.mp height.symm))
      exact ⟨alike.line_eq ▸ .rejected _ _, level⟩
  | executed taken effect next decoded ran written =>
      obtain ⟨mate, twinDecoded, heights⟩ := alike.instruction taken decoded
      have height := run_height machine taken
      rw [ran, level, ← heights, ← run_height] at height
      obtain ⟨⟨shifted, effect⟩, twinRan, same⟩ := Option.map_eq_some_iff.mp height.symm
      have twinWritten : effect.isWritable = true := by
        by_contra overlong
        exact twinStepped.written ⟨mate, shifted, effect, twinDecoded, twinRan, by simpa using overlong⟩
      obtain ⟨rfl, rfl⟩ :=
        twinStepped.unique (.executed mate effect shifted twinDecoded twinRan twinWritten)
      exact ⟨.executed _ _ alike.line_eq, same.symm⟩

theorem execute_alike (records twins : List Record) (alike : List.Forall₂ Record.Alike records twins)
    (run twinRun : Run) (level : machine.stack.length = other.stack.length)
    (ran : execute machine records = .ok run) (twinRan : execute other twins = .ok twinRun) :
    List.Forall₂ Outcome.SameBranch run.outcomes twinRun.outcomes ∧
      run.machine.stack.length = twinRun.machine.stack.length := by
  -- Each step leads to two other machines, so both are left open in the induction.
  induction alike generalizing machine other run twinRun with
  | nil =>
      cases ran
      cases twinRan
      exact ⟨.nil, level⟩
  | cons alike _ ih =>
      obtain ⟨next, outcome, later, stepped, ranRest, rfl⟩ := (execute_cons _ _ _).mp ran
      obtain ⟨after, result, twinLater, twinStepped, twinRest, rfl⟩ := (execute_cons _ _ _).mp twinRan
      obtain ⟨branch, nextLevel⟩ := step_alike alike level stepped twinStepped
      obtain ⟨branches, endLevel⟩ := ih later twinLater nextLevel ranRest twinRest
      exact ⟨.cons branch branches, endLevel⟩

theorem Record.Alike.decodable (alike : record.Alike twin)
    (decodable : ∀ fault, decode record ≠ .faulty fault) (fault : Fault) :
    decode twin ≠ .faulty fault := by
  intro faulty
  have same := alike.decoded_eq
  rw [faulty] at same
  cases decoded : decode record with
  | faulty other => exact decodable other decoded
  | _ => simp [decoded, Decoded.withoutData] at same

theorem alike_decodable {records twins : List Record}
    (alike : List.Forall₂ Record.Alike records twins)
    (decodable : ∀ record ∈ records, ∀ fault, decode record ≠ .faulty fault) :
    ∀ twin ∈ twins, ∀ fault, decode twin ≠ .faulty fault := by
  induction alike with
  | nil => simp
  | cons pair _ ih =>
      obtain ⟨first, others⟩ := List.forall_mem_cons.mp decodable
      exact List.forall_mem_cons.mpr ⟨pair.decodable first, ih others⟩

end Branches

section Reports

variable {run twin : Run}

theorem log_lines_eq (branches : List.Forall₂ Outcome.SameBranch run.outcomes twin.outcomes) :
    run.log.map (·.line) = twin.log.map (·.line) := by
  rw [Run.log, Run.log]
  generalize run.outcomes = outcomes, twin.outcomes = results at branches ⊢
  induction branches with
  | nil => rfl
  | cons branch _ ih =>
      cases branch with
      | skipped => simpa [Outcome.log?] using ih
      | rejected line causes => simpa [Outcome.log?] using ih
      | executed entry other line => simpa [Outcome.log?, line] using ih

theorem Outcome.SameBranch.errors {outcome result : Outcome} (branch : outcome.SameBranch result)
    (file otherFile : Option Text) :
    ((outcome.diagnostics file).filter (·.severity = .error)).map (·.content) =
      ((result.diagnostics otherFile).filter (·.severity = .error)).map (·.content) := by
  cases branch with
  | skipped => rfl
  | rejected line causes =>
      simp [Outcome.diagnostics, List.filter_map, Diagnostic.content, Function.comp_def]
  | executed entry other line =>
      have silent (entry : LogEntry) (file : Option Text) :
          ((Outcome.executed entry).diagnostics file).filter (·.severity = .error) = [] :=
        List.filter_eq_nil_iff.mpr fun diagnostic member => by
          simp [executed_diagnostics entry file diagnostic member]
      rw [silent, silent]

theorem errorContents_eq (branches : List.Forall₂ Outcome.SameBranch run.outcomes twin.outcomes)
    (file otherFile : Option Text) : run.errorContents file = twin.errorContents otherFile := by
  simp only [Run.errorContents, Run.diagnostics]
  generalize run.outcomes = outcomes, twin.outcomes = results at branches ⊢
  induction branches with
  | nil => rfl
  | cons branch _ ih =>
      simp only [List.flatMap_cons, List.filter_append, List.map_append]
      rw [branch.errors file otherFile, ih]

end Reports

/-- Records that differ in their numbers only, executed from any two stack bases: after every prefix
the two runs have logged the same lines and reported the same errors, and their stacks are equally
high, unless one of them is cut short. The same records, none of which names the stack pointer, come to
the same registers, flags and stack from every base, and the stack pointers stay as far apart as the
bases, or else both runs are cut short. -/
theorem branches_independent_of_data (text : Text) (records others : List Record)
    (drawn : DrawnFrom text records) (alike : List.Forall₂ Record.Alike records others)
    (stackBase otherBase : Int) (file otherFile : Option Text) :
    (∀ count,
      (∃ run other, execute (.initial stackBase) (records.take count) = .ok run ∧
        execute (.initial otherBase) (others.take count) = .ok other ∧
        run.log.map (·.line) = other.log.map (·.line) ∧
        run.errorContents file = other.errorContents otherFile ∧
        run.machine.stack.length = other.machine.stack.length) ∨
      CutShort (.initial stackBase) (records.take count) ∨
      CutShort (.initial otherBase) (others.take count)) ∧
    (records = others →
      (∀ record ∈ records, ∀ operand ∈ record.operands, operand.form ≠ .register (.long .esp)) →
      (∃ run other, execute (.initial stackBase) records = .ok run ∧
        execute (.initial otherBase) others = .ok other ∧
        (∀ register, register ≠ .esp → run.machine.get register = other.machine.get register) ∧
        run.machine.zero = other.machine.zero ∧ run.machine.sign = other.machine.sign ∧
        run.machine.stack = other.machine.stack ∧
        run.machine.get .esp - other.machine.get .esp = stackBase - otherBase) ∨
      CutShort (.initial stackBase) records ∧ CutShort (.initial otherBase) others) := by
  constructor
  · intro count
    have part := drawn.take count
    have pairs := List.forall₂_take count alike
    rcases DrawnFrom.execute_cases part (.initial stackBase) with ⟨run, ran, _⟩ | short
    · rcases execute_cases (.initial otherBase) _ (alike_decodable pairs part.decodable) with
        ⟨other, otherRan, _⟩ | short
      · have empty : (Machine.initial stackBase).stack.length =
            (Machine.initial otherBase).stack.length := rfl
        obtain ⟨branches, level⟩ := execute_alike _ _ pairs run other empty ran otherRan
        exact .inl ⟨run, other, ran, otherRan, log_lines_eq branches,
          errorContents_eq branches file otherFile, level⟩
      · exact .inr (.inr short)
    · exact .inr (.inl short)
  · rintro rfl spared
    rcases drawn.execute_cases (.initial stackBase) with ⟨run, ran, _⟩ | short
    · obtain ⟨other, otherRan, _, shifted⟩ :=
        execute_shifted records run spared (initial_shifted stackBase otherBase) ran
      refine .inl ⟨run, other, ran, otherRan, shifted.registers, shifted.zero, shifted.sign,
        shifted.stack, ?_⟩
      have pointer := shifted.pointer
      omega
    · rcases drawn.execute_cases (.initial otherBase) with ⟨other, otherRan, _⟩ | also
      -- A run from the one base would make a run from the other.
      · obtain ⟨run, ran, _⟩ :=
          execute_shifted records other spared (initial_shifted otherBase stackBase) otherRan
        cases short.1.symm.trans ran
      · exact .inr ⟨short, also⟩

/-- A pop finds the stack empty and a register is too narrow. The second text has other numbers on
every line that has one, a line of data among them. -/
theorem branches_independent_of_data_other_numbers :
    let text : Text := "n: .int 1\npush $5\npop %eax\npop %eax\nadd $-7, %cl"
    let other : Text := "n: .int 99\npush $0\npop %eax\npop %eax\nadd $0x10, %cl"
    DrawnFrom text (recordsOf text) ∧
      List.Forall₂ Record.Alike (recordsOf text) (recordsOf other) ∧
      (∃ run twin, execute (.initial 4096) ((recordsOf text).take 4) = .ok run ∧
        execute (.initial (-1)) ((recordsOf other).take 4) = .ok twin ∧
        run.log.map (·.line) = twin.log.map (·.line) ∧
        run.machine.stack.length = twin.machine.stack.length) ∧
      (∀ record ∈ recordsOf text, ∀ operand ∈ record.operands,
        operand.form ≠ .register (.long .esp)) ∧
      ∃ run twin, execute (.initial 4096) (recordsOf text) = .ok run ∧
        execute (.initial (-1)) (recordsOf text) = .ok twin ∧
        run.machine.get .esp - twin.machine.get .esp = 4097 := by
  intro text other
  have drawn : DrawnFrom text (recordsOf text) :=
    (drawnFrom_iff text _).mpr (List.Subset.refl _)
  have alike : List.Forall₂ Record.Alike (recordsOf text) (recordsOf other) :=
    (all_alike_iff _ _).mpr (by decide +kernel)
  have spared : ∀ record ∈ recordsOf text, ∀ operand ∈ record.operands,
      operand.form ≠ .register (.long .esp) := by decide
  obtain ⟨run, twin, ran, twinRan, lines, level⟩ : ∃ run twin,
      execute (.initial 4096) ((recordsOf text).take 4) = .ok run ∧
        execute (.initial (-1)) ((recordsOf other).take 4) = .ok twin ∧
        run.log.map (·.line) = twin.log.map (·.line) ∧
        run.machine.stack.length = twin.machine.stack.length := by
    rcases (branches_independent_of_data text _ _ drawn alike 4096 (-1) none none).1 4 with
      ⟨run, twin, ran, twinRan, lines, _, level⟩ | ⟨failed, _⟩ | ⟨failed, _⟩
    · exact ⟨run, twin, ran, twinRan, lines, level⟩
    · cases failed
    · cases failed
  rcases (branches_independent_of_data text _ _ drawn
    (List.forall₂_same.mpr fun _ _ => rfl) 4096 (-1) none none).2 rfl spared with
    ⟨whole, shifted, ranWhole, ranShifted, _, _, _, _, distance⟩ | ⟨⟨failed, _⟩, _⟩
  · exact ⟨drawn, alike, ⟨run, twin, ran, twinRan, lines, level⟩, spared, whole, shifted, ranWhole,
      ranShifted, distance⟩
  · cases failed

/-- Only one of two stack bases has too many digits to be pushed and written down. -/
theorem pushed_address_depends_on_base :
    ¬ ∀ (text : Text) (records others : List Record), DrawnFrom text records →
      List.Forall₂ Record.Alike records others → ∀ stackBase otherBase : Int, ∃ run other,
        execute (.initial stackBase) records = .ok run ∧
          execute (.initial otherBase) others = .ok other ∧
            run.log.map (·.line) = other.log.map (·.line) := by
  intro claim
  obtain ⟨_, other, _, ran, _⟩ := claim _ _ _ (drawnFrom_recordsOf "push %esp")
    (List.forall₂_same.mpr fun _ _ => rfl) 4096 writingBound
  cases ran.symm.trans pushed_address_unwritten

end AttAssembly
