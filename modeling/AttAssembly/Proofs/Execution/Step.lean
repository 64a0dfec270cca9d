import Mathlib
import AttAssembly.Execution.Run

/-!
Execution one record at a time. `Stepped` lists all that a record can do to a machine, and `StepFaults`
all that can end the run there; a run is a chain of such steps, so what every step keeps holds at the end
of every run, and a run that ends early has its last step to say why.
-/

namespace AttAssembly

inductive Stepped (machine : Machine) (record : Record) : Machine → Outcome → Prop
  | skipped (decoded : decode record = .skipped) : Stepped machine record machine .skipped
  | rejected (causes : List Rejection) (decoded : decode record = .rejected causes) :
      Stepped machine record machine (.rejected record.line causes)
  | starved (instruction : Instruction) (decoded : decode record = .instruction instruction)
      (stuck : instruction.run machine = none) :
      Stepped machine record machine (.rejected record.line [.emptyStack])
  | executed (instruction : Instruction) (effect : Effect) (next : Machine)
      (decoded : decode record = .instruction instruction)
      (ran : instruction.run machine = some (next, effect)) (written : effect.isWritable = true) :
      Stepped machine record next (.executed ⟨record.line, record.source, effect⟩)

/-- The record is carried out, but what it did has too many digits to be written down. -/
def Unwritten (machine : Machine) (record : Record) : Prop :=
  ∃ instruction next effect, decode record = .instruction instruction ∧
    instruction.run machine = some (next, effect) ∧ effect.isWritable = false

inductive StepFaults (machine : Machine) (record : Record) : Fault → Prop
  | faulty (fault : Fault) (decoded : decode record = .faulty fault) :
      StepFaults machine record fault
  | unwritten (overlong : Unwritten machine record) : StepFaults machine record .tooManyDigits

theorem Stepped.written {machine next : Machine} {record : Record} {outcome : Outcome}
    (stepped : Stepped machine record next outcome) : ¬ Unwritten machine record := by
  rintro ⟨instruction, after, effect, decoded, ran, overlong⟩
  cases stepped with
  | skipped other => cases decoded.symm.trans other
  | rejected causes other => cases decoded.symm.trans other
  | starved same other stuck =>
      cases decoded.symm.trans other
      cases ran.symm.trans stuck
  | executed same found next other also written =>
      cases decoded.symm.trans other
      cases ran.symm.trans also
      rw [overlong] at written
      cases written

/-- What ends a run at a record does so at any record that is decoded in the same way. -/
theorem StepFaults.of_decode {machine : Machine} {record twin : Record} {fault : Fault}
    (faults : StepFaults machine record fault) (same : decode twin = decode record) :
    StepFaults machine twin fault := by
  cases faults with
  | faulty fault decoded => exact .faulty fault (same.trans decoded)
  | unwritten overlong =>
      obtain ⟨instruction, next, effect, decoded, ran, overlong⟩ := overlong
      exact .unwritten ⟨instruction, next, effect, same.trans decoded, ran, overlong⟩

theorem step_iff (machine next : Machine) (record : Record) (outcome : Outcome) :
    step machine record = .ok (next, outcome) ↔ Stepped machine record next outcome := by
  constructor
  · intro stepped
    rw [step] at stepped
    split at stepped
    · next decoded =>
        cases stepped
        exact .skipped decoded
    · next causes decoded =>
        cases stepped
        exact .rejected causes decoded
    · cases stepped
    · next instruction decoded =>
        split at stepped
        · next next effect ran =>
            split at stepped
            · next written =>
                cases stepped
                exact .executed instruction effect next decoded ran written
            · cases stepped
        · next stuck =>
            cases stepped
            exact .starved instruction decoded stuck
  · intro stepped
    cases stepped with
    | skipped decoded => simp [step, decoded]
    | rejected causes decoded => simp [step, decoded]
    | starved instruction decoded stuck => simp [step, decoded, stuck]
    | executed instruction effect next decoded ran written => simp [step, decoded, ran, written]

theorem Stepped.unique {machine next after : Machine} {record : Record} {outcome result : Outcome}
    (stepped : Stepped machine record next outcome) (other : Stepped machine record after result) :
    next = after ∧ outcome = result := by
  have same := ((step_iff _ _ _ _).mpr stepped).symm.trans ((step_iff _ _ _ _).mpr other)
  exact Prod.mk.injEq .. ▸ Except.ok.inj same

theorem step_error_iff (machine : Machine) (record : Record) (fault : Fault) :
    step machine record = .error fault ↔ StepFaults machine record fault := by
  constructor
  · intro stepped
    rw [step] at stepped
    split at stepped
    · cases stepped
    · cases stepped
    · next other decoded =>
        cases stepped
        exact .faulty fault decoded
    · next instruction decoded =>
        split at stepped
        · next next effect ran =>
            split at stepped
            · cases stepped
            · next overlong =>
                cases stepped
                exact .unwritten ⟨instruction, next, effect, decoded, ran, Bool.eq_false_iff.mpr overlong⟩
        · cases stepped
  · intro faults
    cases faults with
    | faulty fault decoded => simp [step, decoded]
    | unwritten overlong =>
        obtain ⟨instruction, next, effect, decoded, ran, overlong⟩ := overlong
        simp [step, decoded, ran, overlong]

/-- The machine is looked at only for its stack, and only by a pop. -/
theorem run_none_iff (instruction : Instruction) (machine : Machine) :
    instruction.run machine = none ↔
      (∃ destination, instruction = .pop destination) ∧ machine.stack = [] := by
  cases instruction with
  | pop destination => cases stack : machine.stack <;> simp [Instruction.run, Machine.pop?, stack]
  | _ => simp [Instruction.run]

theorem run_pop_iff {machine next : Machine} {destination : GeneralRegister} {effect : Effect} :
    (Instruction.pop destination).run machine = some (next, effect) ↔
      ∃ value shorter, machine.pop? = some (value, shorter) ∧
        next = shorter.set destination value ∧ effect = .popped (some value) destination := by
  simp [Instruction.run, eq_comm]

section Runs

variable {machine : Machine}

theorem execute_cons (record : Record) (rest : List Record) (run : Run) :
    execute machine (record :: rest) = .ok run ↔
      ∃ next outcome later, Stepped machine record next outcome ∧
        execute next rest = .ok later ∧ run = ⟨later.machine, outcome :: later.outcomes⟩ := by
  cases stepped : step machine record with
  | error fault => simp [execute, stepped, bind, Except.bind, ← step_iff]
  | ok result =>
      rcases result with ⟨next, outcome⟩
      simp only [execute, stepped, bind, Except.bind, ← step_iff, Except.ok.injEq, Prod.mk.injEq]
      cases ran : execute next rest with
      | error fault => simp [ran]
      | ok later => simp [ran, pure, Except.pure, eq_comm]

theorem execute_executed {record : Record} {rest : List Record} {instruction : Instruction}
    {next : Machine} {effect : Effect} {later : Run}
    (decoded : decode record = .instruction instruction)
    (ran : instruction.run machine = some (next, effect)) (written : effect.isWritable = true)
    (further : execute next rest = .ok later) :
    execute machine (record :: rest) =
      .ok ⟨later.machine, .executed ⟨record.line, record.source, effect⟩ :: later.outcomes⟩ :=
  (execute_cons record rest _).mpr ⟨next, _, later, .executed instruction effect next decoded ran
    written, further, rfl⟩

theorem execute_append (machine : Machine) (first second : List Record) :
    execute machine (first ++ second) = (do
      let before ← execute machine first
      let after ← execute before.machine second
      return ⟨after.machine, before.outcomes ++ after.outcomes⟩) := by
  induction first generalizing machine with
  | nil =>
      cases ran : execute machine second <;> simp [execute, ran, bind, Except.bind, pure, Except.pure]
  | cons record rest ih =>
      cases stepped : step machine record with
      | error fault => simp [execute, stepped, bind, Except.bind]
      | ok result =>
          rcases result with ⟨next, outcome⟩
          simp only [List.cons_append, execute, stepped, ih, bind, Except.bind, pure, Except.pure]
          cases execute next rest with
          | error fault => rfl
          | ok before =>
              dsimp only
              cases execute before.machine second with
              | error fault => rfl
              | ok after => simp

theorem execute_concat (records : List Record) (record : Record) (run : Run) :
    execute machine (records ++ [record]) = .ok run ↔
      ∃ before outcome, execute machine records = .ok before ∧
        Stepped before.machine record run.machine outcome ∧
          run.outcomes = before.outcomes ++ [outcome] := by
  rw [execute_append]
  cases execute machine records with
  | error fault => simp [bind, Except.bind]
  | ok before =>
      cases stepped : step before.machine record with
      | error fault =>
          simp [execute, stepped, bind, Except.bind, ← step_iff]
      | ok result =>
          rcases result with ⟨next, outcome⟩
          rcases run with ⟨after, outcomes⟩
          simp only [execute, bind, Except.bind, pure, Except.pure, ← step_iff]
          simp [stepped, eq_comm, and_assoc]

/-- A run that has come to a record goes on with it or ends there. -/
theorem execute_next {records : List Record} {count : Nat} {record : Record} {before : Run}
    (found : records[count]? = some record)
    (earlier : execute machine (records.take count) = .ok before) :
    (∃ next outcome, Stepped before.machine record next outcome ∧
      execute machine (records.take (count + 1)) = .ok ⟨next, before.outcomes ++ [outcome]⟩) ∨
    ∃ fault, StepFaults before.machine record fault ∧
      execute machine (records.take (count + 1)) = .error fault ∧
        execute machine records = .error fault := by
  have upTo : records.take (count + 1) = records.take count ++ [record] := by
    rw [List.take_add_one, found, Option.toList_some]
  cases stepped : step before.machine record with
  | ok result =>
      obtain ⟨next, outcome⟩ := result
      have here := (step_iff _ _ _ _).mp stepped
      refine .inl ⟨next, outcome, here, ?_⟩
      exact upTo ▸ (execute_concat _ _ _).mpr ⟨before, outcome, earlier, here, rfl⟩
  | error fault =>
      have ended : execute machine (records.take (count + 1)) = .error fault := by
        rw [upTo, execute_append, earlier]
        simp [execute, stepped, bind, Except.bind]
      refine .inr ⟨fault, (step_error_iff _ _ _).mp stepped, ended, ?_⟩
      rw [← List.take_append_drop (count + 1) records, execute_append, ended]
      rfl

/-- A run that ends early has run up to the record that it ends at. -/
theorem execute_error_iff (records : List Record) (fault : Fault) :
    execute machine records = .error fault ↔
      ∃ earlier record later before, records = earlier ++ record :: later ∧
        execute machine earlier = .ok before ∧ StepFaults before.machine record fault := by
  constructor
  · intro failed
    induction records generalizing machine with
    | nil => cases failed
    | cons record rest ih =>
        cases stepped : step machine record with
        | error other =>
            obtain rfl : other = fault := by simpa [execute, stepped, bind, Except.bind] using failed
            exact ⟨[], record, rest, ⟨machine, []⟩, rfl, rfl, (step_error_iff _ _ _).mp stepped⟩
        | ok result =>
            obtain ⟨next, outcome⟩ := result
            have laterFailed : execute next rest = .error fault := by
              cases ran : execute next rest <;>
                simp_all [execute, bind, Except.bind, pure, Except.pure]
            obtain ⟨earlier, last, later, before, rfl, ran, faults⟩ := ih laterFailed
            exact ⟨record :: earlier, last, later, ⟨before.machine, outcome :: before.outcomes⟩, rfl,
              (execute_cons _ _ _).mpr
                ⟨next, outcome, before, (step_iff _ _ _ _).mp stepped, ran, rfl⟩, faults⟩
  · rintro ⟨earlier, record, later, before, rfl, ran, faults⟩
    rw [execute_append, ran]
    simp [execute, (step_error_iff _ _ _).mpr faults, bind, Except.bind]

/-- A run ends at its first record when that is not written down. -/
theorem execute_unwritten {record : Record} {rest : List Record}
    (unwritten : Unwritten machine record) :
    execute machine (record :: rest) = .error .tooManyDigits :=
  (execute_error_iff _ _).mpr ⟨[], record, rest, ⟨machine, []⟩, rfl, rfl, .unwritten unwritten⟩

/-- What holds before a run and is kept by every step holds after it. -/
theorem execute_induction (motive : List Record → Run → Prop) (initial : motive [] ⟨machine, []⟩)
    (kept : ∀ records record before next outcome, execute machine records = .ok before →
      motive records before → Stepped before.machine record next outcome →
        motive (records ++ [record]) ⟨next, before.outcomes ++ [outcome]⟩)
    (records : List Record) (run : Run) (ran : execute machine records = .ok run) :
    motive records run := by
  -- A run grows at its end, so the induction takes the last record off.
  induction records using List.reverseRecOn generalizing run with
  | nil =>
      cases ran
      exact initial
  | append_singleton records record ih =>
      obtain ⟨before, outcome, earlier, stepped, grown⟩ := (execute_concat _ _ _).mp ran
      rcases run with ⟨after, outcomes⟩
      dsimp only at stepped grown
      subst grown
      exact kept records record before after outcome earlier (ih before earlier) stepped

theorem execute_outcomes (records : List Record) (run : Run)
    (ran : execute machine records = .ok run) : run.outcomes.length = records.length := by
  refine execute_induction (fun records run => run.outcomes.length = records.length) rfl ?_
    records run ran
  intro records record before next outcome _ ih _
  simp [ih]

end Runs

/-- Two runs come to ends that are related, or end early with the same fault. -/
inductive EndAlike (related : Run → Run → Prop) : Except Fault Run → Except Fault Run → Prop
  | finished {run again : Run} (same : related run again) : EndAlike related (.ok run) (.ok again)
  | ended (fault : Fault) : EndAlike related (.error fault) (.error fault)

section Pairs

variable {related : Run → Run → Prop} {machine : Machine}

theorem EndAlike.imp {wider : Run → Run → Prop} {first second : Except Fault Run}
    (alike : EndAlike related first second) (implies : ∀ run again, related run again → wider run again) :
    EndAlike wider first second := by
  cases alike with
  | finished same => exact .finished (implies _ _ same)
  | ended fault => exact .ended fault

theorem EndAlike.finished_left {run : Run} {second : Except Fault Run}
    (alike : EndAlike related (.ok run) second) : ∃ again, second = .ok again ∧ related run again := by
  cases alike with
  | finished same => exact ⟨_, rfl, same⟩

theorem EndAlike.ended_right {first : Except Fault Run} {fault : Fault}
    (alike : EndAlike related first (.error fault)) : first = .error fault := by
  cases alike
  rfl

theorem EndAlike.refl (reflexive : ∀ run, related run run) (ending : Except Fault Run) :
    EndAlike related ending ending := by
  cases ending with
  | ok run => exact .finished (reflexive run)
  | error fault => exact .ended fault

theorem EndAlike.trans {first second third : Except Fault Run}
    (transitive : ∀ one two three, related one two → related two three → related one three)
    (alike : EndAlike related first second) (also : EndAlike related second third) :
    EndAlike related first third := by
  cases alike with
  | finished same => cases also with
    | finished further => exact .finished (transitive _ _ _ same further)
  | ended fault => exact also

theorem EndAlike.map_right {first second : Except Fault Run} {change : Run → Run}
    (alike : EndAlike related first second)
    (keeps : ∀ run again, related run again → related run (change again)) :
    EndAlike related first (second.map change) := by
  cases alike with
  | finished same => exact .finished (keeps _ _ same)
  | ended fault => exact .ended fault

theorem execute_of_step {next : Machine} {record : Record} {outcome : Outcome} (rest : List Record)
    (stepped : Stepped machine record next outcome) :
    execute machine (record :: rest) =
      (execute next rest).map fun run => ⟨run.machine, outcome :: run.outcomes⟩ := by
  rw [execute, (step_iff _ _ _ _).mpr stepped]
  cases ran : execute next rest <;> simp [bind, Except.bind, pure, Except.pure, Except.map, ran]

theorem execute_of_fault {record : Record} {fault : Fault} (rest : List Record)
    (faults : StepFaults machine record fault) : execute machine (record :: rest) = .error fault := by
  rw [execute, (step_error_iff _ _ _).mpr faults]
  rfl

/-- Runs end alike when their first records do the same and the rest ends alike. -/
theorem EndAlike.cons {record twin : Record} {records twins : List Record}
    (faults : ∀ fault, StepFaults machine record fault → StepFaults machine twin fault)
    (steps : ∀ next outcome, Stepped machine record next outcome →
      ∃ other, Stepped machine twin next other ∧ ∀ run again, related run again →
        related ⟨run.machine, outcome :: run.outcomes⟩ ⟨again.machine, other :: again.outcomes⟩)
    (rest : ∀ next, EndAlike related (execute next records) (execute next twins)) :
    EndAlike related (execute machine (record :: records)) (execute machine (twin :: twins)) := by
  cases stepped : step machine record with
  | error fault =>
      have here := (step_error_iff _ _ _).mp stepped
      rw [execute_of_fault records here, execute_of_fault twins (faults fault here)]
      exact .ended fault
  | ok result =>
      have here := (step_iff _ result.1 _ result.2).mp stepped
      obtain ⟨other, there, grows⟩ := steps _ _ here
      have further := rest result.1
      rw [execute_of_step records here, execute_of_step twins there]
      generalize execute result.1 records = first, execute result.1 twins = second at further
      cases further with
      | finished same => exact .finished (grows _ _ same)
      | ended fault => exact .ended fault

end Pairs

end AttAssembly
