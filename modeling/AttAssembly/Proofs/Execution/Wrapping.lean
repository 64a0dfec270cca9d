import AttAssembly.Proofs.Execution.Accounting
import AttAssembly.Proofs.Machine.Words

/-!
Execution on a machine of 32-bit words. Records are decoded the same way, so the two machines take
the same branches: the stacks have one length, and nothing else of a machine decides whether an
instruction is carried out. Every step of the integers is matched by one step of the words, and a
run by a run. The flags stay equal for as long as every sum and difference is a signed word. Words are
never too long to be written down, so the machine of words goes on where a run of integers is cut short.
-/

namespace AttAssembly

def Source.word (source : Source) (machine : WordMachine) : Word :=
  match source with
  | .number literal => wordOf literal
  | .register holder => machine.registers holder

def Arithmetic.applyWord : Arithmetic → Word → Word → Word
  | .add, current, operand => current + operand
  | .sub, current, operand => current - operand

def Instruction.runWord (machine : WordMachine) : Instruction → Option WordMachine
  | .move source destination =>
      let word := source.word machine
      some (if destination = .esp then machine.rebase word else machine.set destination word)
  | .compute arithmetic source destination =>
      let result := arithmetic.applyWord (machine.registers destination) (source.word machine)
      some ((machine.set destination result).setFlags result)
  | .push source => some (machine.push (source.word machine))
  | .pop destination => machine.pop?.map fun (word, next) => next.set destination word
  | .idle => some machine
  | .interrupt _ => some machine

/-- An outcome without the values that were computed. -/
inductive Verdict where
  | skipped
  | rejected (line : Int) (causes : List Rejection)
  | executed (line : Int) (source : Text)
  deriving DecidableEq, Repr

def Outcome.verdict : Outcome → Verdict
  | skipped => .skipped
  | rejected line causes => .rejected line causes
  | executed entry => .executed entry.line entry.source

def Verdict.errors (file : Option Text) : Verdict → List Diagnostic
  | rejected line causes => (Outcome.rejected line causes).diagnostics file
  | _ => []

def stepWord (machine : WordMachine) (record : Record) : Except Fault (WordMachine × Verdict) :=
  match decode record with
  | .skipped => .ok (machine, .skipped)
  | .rejected causes => .ok (machine, .rejected record.line causes)
  | .faulty fault => .error fault
  | .instruction instruction =>
      match instruction.runWord machine with
      | some next => .ok (next, .executed record.line record.source)
      | none => .ok (machine, .rejected record.line [.emptyStack])

structure WordRun where
  machine : WordMachine
  verdicts : List Verdict

def WordRun.errors (run : WordRun) (file : Option Text) : List Diagnostic :=
  run.verdicts.flatMap (·.errors file)

def executeWord (machine : WordMachine) : List Record → Except Fault WordRun
  | [] => .ok ⟨machine, []⟩
  | record :: rest => do
      let (next, verdict) ← stepWord machine record
      let run ← executeWord next rest
      return ⟨run.machine, verdict :: run.verdicts⟩

/-- A sum or a difference, if there is one, in the range of signed words. -/
def Effect.Signed (effect : Effect) : Prop := ∀ result ∈ effect.result?, SignedRange result

section Simulation

variable {words : WordMachine} {machine next : Machine} {record : Record} {outcome : Outcome}

theorem source_represented (source : Source) (same : words.Represents machine) :
    source.word words = wordOf (source.value machine) := by
  cases source with
  | number literal => rfl
  | register holder => exact same.registers holder

theorem apply_represented (arithmetic : Arithmetic) (current operand : Int) :
    arithmetic.applyWord (wordOf current) (wordOf operand) =
      wordOf (arithmetic.apply current operand) := by
  cases arithmetic with
  | add => exact (wordOf_add current operand).symm
  | sub => exact (wordOf_sub current operand).symm

theorem run_starved (instruction : Instruction) (same : words.Represents machine)
    (stuck : instruction.run machine = none) : instruction.runWord words = none := by
  obtain ⟨⟨destination, pop⟩, empty⟩ := (run_none_iff _ _).mp stuck
  subst instruction
  have starved := same.pop_none (machine.pop_none_iff.mpr empty)
  simp [Instruction.runWord, starved]

/-- An instruction keeps the representation, and the flags too when its result is a signed word. -/
theorem run_represented (instruction : Instruction) (effect : Effect)
    (same : words.Represents machine) (ran : instruction.run machine = some (next, effect)) :
    ∃ after, instruction.runWord words = some after ∧ after.Represents next ∧
      (effect.Signed → words.FlagsAgree machine → after.FlagsAgree next) := by
  cases instruction with
  | move source destination =>
      cases ran
      have value := source_represented source same
      refine ⟨_, rfl, ?_⟩
      by_cases pointer : destination = .esp
      · simp only [pointer, value, ↓reduceIte]
        exact ⟨same.rebase _, fun _ agree => ⟨agree.zero, agree.sign⟩⟩
      · simp only [pointer, value, ↓reduceIte]
        exact ⟨same.set destination _, fun _ agree => ⟨agree.zero, agree.sign⟩⟩
  | compute arithmetic source destination =>
      cases ran
      have result : arithmetic.applyWord (words.registers destination) (source.word words) =
          wordOf (arithmetic.apply (machine.get destination) (source.value machine)) := by
        rw [same.registers, source_represented source same, apply_represented]
      refine ⟨_, rfl, ?_⟩
      rw [result]
      -- Both flags are set anew, so it does not matter whether they agreed before.
      exact ⟨(same.set destination _).setFlags _,
        fun signed _ => WordMachine.setFlags_agree _ _ _ (signed _ rfl)⟩
  | push source =>
      cases ran
      refine ⟨_, rfl, ?_⟩
      rw [source_represented source same]
      exact ⟨same.push _, fun _ agree => ⟨agree.zero, agree.sign⟩⟩
  | pop destination =>
      obtain ⟨value, shorter, popped, rfl, rfl⟩ := run_pop_iff.mp ran
      obtain ⟨after, found, shorterSame, zero, sign⟩ := same.pop_some value shorter popped
      obtain ⟨_, zeroKept, signKept, _⟩ := machine.pop_some value shorter popped
      refine ⟨after.set destination (wordOf value), ?_, shorterSame.set destination value,
        fun _ agree => ⟨?_, ?_⟩⟩
      · simp [Instruction.runWord, found]
      · exact zero.trans (agree.zero.trans zeroKept.symm)
      · exact sign.trans (agree.sign.trans signKept.symm)
  | idle =>
      cases ran
      exact ⟨words, rfl, same, fun _ agree => agree⟩
  | interrupt vector =>
      cases ran
      exact ⟨words, rfl, same, fun _ agree => agree⟩

theorem step_represented (same : words.Represents machine)
    (stepped : Stepped machine record next outcome) :
    ∃ after, stepWord words record = .ok (after, outcome.verdict) ∧ after.Represents next ∧
      ((∀ entry ∈ outcome.log?, entry.effect.Signed) → words.FlagsAgree machine →
        after.FlagsAgree next) := by
  cases stepped with
  | skipped decoded => exact ⟨words, by simp [stepWord, decoded, Outcome.verdict], same, fun _ => id⟩
  | rejected causes decoded =>
      exact ⟨words, by simp [stepWord, decoded, Outcome.verdict], same, fun _ => id⟩
  | starved instruction decoded stuck =>
      have starved := run_starved instruction same stuck
      exact ⟨words, by simp [stepWord, decoded, starved, Outcome.verdict], same, fun _ => id⟩
  | executed instruction effect next decoded ran written =>
      obtain ⟨after, found, afterSame, flags⟩ := run_represented instruction effect same ran
      exact ⟨after, by simp [stepWord, decoded, found, Outcome.verdict], afterSame,
        fun signed => flags (signed _ rfl)⟩

theorem execute_represented (records : List Record) (run : Run) (same : words.Represents machine)
    (ran : execute machine records = .ok run) :
    ∃ wordRun, executeWord words records = .ok wordRun ∧
      wordRun.machine.Represents run.machine ∧
      wordRun.verdicts = run.outcomes.map (·.verdict) ∧
      ((∀ entry ∈ run.log, entry.effect.Signed) → words.FlagsAgree machine →
        wordRun.machine.FlagsAgree run.machine) := by
  -- The first step leads to two other machines, so both are left open in the induction.
  induction records generalizing words machine run with
  | nil =>
      cases ran
      exact ⟨⟨words, []⟩, rfl, same, rfl, fun _ agree => agree⟩
  | cons record rest ih =>
      obtain ⟨next, outcome, later, stepped, ranRest, whole⟩ := (execute_cons _ _ _).mp ran
      obtain ⟨after, taken, afterSame, flags⟩ := step_represented same stepped
      obtain ⟨wordRun, ranWord, endSame, verdicts, laterFlags⟩ := ih later afterSame ranRest
      subst whole
      refine ⟨⟨wordRun.machine, outcome.verdict :: wordRun.verdicts⟩, ?_, endSame,
        by simp [verdicts], fun signed agree => ?_⟩
      · simp [executeWord, taken, ranWord, bind, Except.bind, pure, Except.pure]
      · have log : (⟨later.machine, outcome :: later.outcomes⟩ : Run).log =
            outcome.log?.toList ++ later.log := by
          cases logged : outcome.log? <;> simp [Run.log, logged]
        rw [log] at signed
        refine laterFlags (fun entry member => signed entry (List.mem_append_right _ member))
          (flags (fun entry member => signed entry ?_) agree)
        exact List.mem_append_left _ (Option.mem_toList.mpr member)

end Simulation

/-- The machine of words carries out whatever can be decoded. -/
theorem executeWord_total (words : WordMachine) (records : List Record)
    (decodable : ∀ record ∈ records, ∀ fault, decode record ≠ .faulty fault) :
    ∃ run, executeWord words records = .ok run := by
  induction records generalizing words with
  | nil => exact ⟨_, rfl⟩
  | cons record rest ih =>
      obtain ⟨next, verdict, stepped⟩ : ∃ next verdict, stepWord words record = .ok (next, verdict) := by
        rw [stepWord]
        cases decoded : decode record with
        | faulty fault => exact absurd decoded (decodable record List.mem_cons_self fault)
        | instruction instruction =>
            dsimp only
            cases instruction.runWord words <;> exact ⟨_, _, rfl⟩
        | _ => exact ⟨_, _, rfl⟩
      obtain ⟨later, ran⟩ := ih next fun other member =>
        decodable other (List.mem_cons_of_mem _ member)
      refine ⟨⟨later.machine, verdict :: later.verdicts⟩, ?_⟩
      simp [executeWord, stepped, ran, bind, Except.bind, pure, Except.pure]

theorem verdict_errors (outcome : Outcome) (file : Option Text) :
    (outcome.diagnostics file).filter (·.severity = .error) = outcome.verdict.errors file := by
  cases outcome with
  | skipped => rfl
  | rejected line causes =>
      exact List.filter_eq_self.mpr fun diagnostic member =>
        decide_eq_true (rejected_diagnostics line causes file diagnostic member).1
  | executed entry =>
      refine List.filter_eq_nil_iff.mpr fun diagnostic member => ?_
      simp [executed_diagnostics entry file diagnostic member]

theorem run_errors (run : Run) (file : Option Text) :
    (run.diagnostics file).filter (·.severity = .error) =
      (run.outcomes.map (·.verdict)).flatMap (·.errors file) := by
  rw [Run.diagnostics, List.filter_flatMap, List.flatMap_map]
  exact List.flatMap_congr fun outcome _ => verdict_errors outcome file

/-- What the machine of words has in common with a run of integers. -/
structure WordRun.Refines (words : WordRun) (run : Run) (file : Option Text) : Prop where
  registers (register : GeneralRegister) :
    lowWord (run.machine.get register) = (words.machine.registers register).toNat
  depth : run.machine.stack.length = words.machine.stack.length
  stack : run.machine.stack.map lowWord = words.machine.stack.map (·.toNat)
  verdicts : run.outcomes.map (·.verdict) = words.verdicts
  errors : (run.diagnostics file).filter (·.severity = .error) = words.errors file
  flags : (∀ entry ∈ run.log, ∀ result ∈ entry.effect.result?, SignedRange result) →
    run.machine.zero = words.machine.zero ∧ run.machine.sign = words.machine.sign

theorem execute_refined (stackBase : Int) (file : Option Text) (records : List Record) (run : Run)
    (ran : execute (.initial stackBase) records = .ok run) :
    ∃ words, executeWord (.initial stackBase) records = .ok words ∧ words.Refines run file := by
  obtain ⟨words, ranWord, same, verdicts, flags⟩ :=
    execute_represented _ run (WordMachine.initial_represents stackBase) ran
  refine ⟨words, ranWord, fun register => ?_, ?_, ?_, verdicts.symm, ?_, fun signed => ?_⟩
  · rw [lowWord_eq, same.registers]
  · rw [same.stack, List.length_map]
  · rw [same.stack, List.map_map]
    exact List.map_congr_left fun value _ => lowWord_eq value
  · rw [run_errors, WordRun.errors, verdicts]
  · have agree := flags signed (WordMachine.initial_flags stackBase)
    exact ⟨agree.zero.symm, agree.sign.symm⟩

/-- After every prefix of a run the wrapping machine holds the low words of registers and stack. It
carries out the same records and reports the same errors, and its flags are the same for as long as
every exact sum and difference is a signed word. It goes on where a run of integers is cut short. -/
theorem wrapping_machine_refined (text : Text) (records : List Record)
    (drawn : DrawnFrom text records) (stackBase : Int) (file : Option Text) (count : Nat) :
    ∃ words, executeWord (.initial stackBase) (records.take count) = .ok words ∧
      ((∃ run, execute (.initial stackBase) (records.take count) = .ok run ∧
          words.Refines run file) ∨
        CutShort (.initial stackBase) (records.take count)) := by
  have part := drawn.take count
  rcases DrawnFrom.execute_cases part _ with ⟨run, ran, _⟩ | short
  · obtain ⟨words, ranWord, refined⟩ := execute_refined stackBase file _ run ran
    exact ⟨words, ranWord, .inl ⟨run, ran, refined⟩⟩
  · obtain ⟨words, ranWord⟩ :=
      executeWord_total (.initial stackBase) _ (DrawnFrom.decodable part)
    exact ⟨words, ranWord, .inr short⟩

/-- Immediates that only an unsigned or only a signed word holds, a stack pointer that is counted
with, and a difference below zero at the end. -/
theorem wrapping_machine_refined_mixed :
    let text : Text :=
      "mov $-1, %eax\nadd $0x80000000, %eax\npush %eax\nadd $8, %esp\npop %ebx\nsub $2147483648, %ebx"
    let records := recordsOf text ++ (recordsOf text).drop 2
    DrawnFrom text records ∧
      ∃ run words, execute (.initial 4096) (records.take 10) = .ok run ∧
        executeWord (.initial 4096) (records.take 10) = .ok words ∧
        (∀ register,
          lowWord (run.machine.get register) = (words.machine.registers register).toNat) ∧
        (∀ entry ∈ run.log, ∀ result ∈ entry.effect.result?, SignedRange result) ∧
        words.machine.zero = false ∧ words.machine.sign = true := by
  intro text records
  have drawn : DrawnFrom text records :=
    (drawnFrom_iff text records).mpr (by simp [records, List.drop_subset])
  obtain ⟨run, ran, signed, zero, sign⟩ : ∃ run,
      execute (.initial 4096) (records.take 10) = .ok run ∧
        (∀ entry ∈ run.log, ∀ result ∈ entry.effect.result?, SignedRange result) ∧
        run.machine.zero = false ∧ run.machine.sign = true :=
    ⟨_, rfl, by decide, rfl, rfl⟩
  obtain ⟨words, ranWord, ⟨same, again, refined⟩ | ⟨failed, _⟩⟩ :=
    wrapping_machine_refined text records drawn 4096 none 10
  · cases Except.ok.inj (again.symm.trans ran)
    obtain ⟨zeroSame, signSame⟩ := refined.flags signed
    exact ⟨drawn, run, words, ran, ranWord, refined.registers, signed, zeroSame ▸ zero,
      signSame ▸ sign⟩
  · cases failed.symm.trans ran

/-- A pushed address with too many digits cuts the run short, while its low word is pushed without
    more ado. -/
theorem pushed_address_unrefined :
    ¬ ∀ (text : Text) (records : List Record), DrawnFrom text records →
      ∀ (stackBase : Int) (file : Option Text) (count : Nat), ∃ run words,
        execute (.initial stackBase) (records.take count) = .ok run ∧
          executeWord (.initial stackBase) (records.take count) = .ok words ∧
            words.Refines run file := by
  intro claim
  obtain ⟨run, _, ran, _⟩ :=
    claim _ _ (drawnFrom_recordsOf "push %esp") writingBound none 1
  cases ran.symm.trans pushed_address_unwritten

/-- One past the signed words, the two signs part. -/
example : ∃ run words, execute (.initial 4096) (recordsOf "add $0x80000000, %eax") = .ok run ∧
    executeWord (.initial 4096) (recordsOf "add $0x80000000, %eax") = .ok words ∧
      run.machine.sign = false ∧ words.machine.sign = true :=
  ⟨_, _, rfl, rfl, rfl, rfl⟩

end AttAssembly
