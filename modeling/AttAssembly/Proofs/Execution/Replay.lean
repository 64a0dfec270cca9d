import AttAssembly.Proofs.Execution.Accounting

/-!
Runs of the records that were executed. A record that is skipped or fails leaves the machine as it
was, so the records after it cannot tell that it was there: the records that are in the log,
executed alone, bring the machine to the same state, write the same log, and of all that was
reported they report the warnings.
-/

namespace AttAssembly

/-- The records that produced a log entry, told by the outcome of each. -/
def loggedRecords : List Record → List Outcome → List Record
  | record :: records, outcome :: outcomes =>
      if outcome.log?.isSome then record :: loggedRecords records outcomes
      else loggedRecords records outcomes
  | _, _ => []

/-- The log entry was written for the record. -/
def LogEntry.Records (entry : LogEntry) (record : Record) : Prop :=
  entry.line = record.line ∧ entry.source = record.source

theorem loggedRecords_sublist (records : List Record) (outcomes : List Outcome) :
    (loggedRecords records outcomes).Sublist records := by
  induction records generalizing outcomes with
  | nil => exact List.Sublist.refl _
  | cons record rest ih =>
      cases outcomes with
      | nil => exact List.nil_sublist _
      | cons outcome others =>
          rw [loggedRecords]
          split
          · exact (ih others).cons_cons record
          · exact (ih others).cons record

section Steps

variable {machine next : Machine} {record : Record} {outcome : Outcome}

theorem stepped_unlogged (stepped : Stepped machine record next outcome)
    (unlogged : outcome.log? = none) : next = machine := by
  cases stepped with
  | executed instruction effect next decoded ran => simp [Outcome.log?] at unlogged
  | _ => rfl

theorem stepped_records (stepped : Stepped machine record next outcome) :
    ∀ entry ∈ outcome.log?, entry.Records record := by
  cases stepped <;> simp [Outcome.log?, LogEntry.Records]

theorem execute_logged (records : List Record) (run : Run)
    (ran : execute machine records = .ok run) :
    execute machine (loggedRecords records run.outcomes) =
      .ok ⟨run.machine, run.outcomes.filter (·.log?.isSome)⟩ := by
  induction records generalizing machine run with
  | nil =>
      cases ran
      rfl
  | cons record rest ih =>
      obtain ⟨next, outcome, later, stepped, ranRest, whole⟩ := (execute_cons _ _ _).mp ran
      subst whole
      have replayed := ih later ranRest
      rw [loggedRecords]
      cases logged : outcome.log? with
      | none =>
          -- The rest starts from the machine that this record was given.
          rw [stepped_unlogged stepped logged] at replayed
          simpa [logged] using replayed
      | some entry =>
          rw [if_pos (by rfl)]
          apply (execute_cons _ _ _).mpr
          exact ⟨next, outcome, _, stepped, replayed, by simp [logged]⟩

theorem log_records (records : List Record) (run : Run) (ran : execute machine records = .ok run) :
    List.Forall₂ LogEntry.Records run.log (loggedRecords records run.outcomes) := by
  induction records generalizing machine run with
  | nil =>
      cases ran
      exact List.Forall₂.nil
  | cons record rest ih =>
      obtain ⟨next, outcome, later, stepped, ranRest, whole⟩ := (execute_cons _ _ _).mp ran
      subst whole
      have rest_recorded := ih later ranRest
      cases logged : outcome.log? with
      | none => simpa [Run.log, loggedRecords, logged] using rest_recorded
      | some entry =>
          have recorded := stepped_records stepped entry logged
          simpa [Run.log, loggedRecords, logged] using And.intro recorded rest_recorded

end Steps

namespace Outcome

/-- Executed records warn, all others report errors or nothing. -/
theorem warnings (outcome : Outcome) (file : Option Text) :
    (outcome.diagnostics file).filter (·.severity = .warning) =
      if outcome.log?.isSome then outcome.diagnostics file else [] := by
  cases outcome with
  | skipped => rfl
  | rejected line causes =>
      apply List.filter_eq_nil_iff.mpr
      intro diagnostic member
      simp [(rejected_diagnostics line causes file diagnostic member).1]
  | executed entry =>
      apply List.filter_eq_self.mpr
      intro diagnostic member
      simp [executed_diagnostics entry file diagnostic member]

end Outcome

theorem logged_log (machine : Machine) (outcomes : List Outcome) :
    (⟨machine, outcomes.filter (·.log?.isSome)⟩ : Run).log =
      (⟨machine, outcomes⟩ : Run).log := by
  rw [Run.log, Run.log, List.filterMap_filter]
  apply List.filterMap_congr
  intro outcome _
  cases outcome.log? <;> rfl

theorem logged_diagnostics (machine : Machine) (outcomes : List Outcome) (file : Option Text) :
    (⟨machine, outcomes.filter (·.log?.isSome)⟩ : Run).diagnostics file =
      ((⟨machine, outcomes⟩ : Run).diagnostics file).filter (·.severity = .warning) := by
  simp only [Run.diagnostics]
  induction outcomes with
  | nil => rfl
  | cons outcome rest ih =>
      rw [List.flatMap_cons, List.filter_append, Outcome.warnings, ← ih]
      by_cases logged : outcome.log?.isSome
      · simp [logged]
      · simp [logged]

/-- Of records drawn from a text, those that produced a log entry, executed alone from the same
stack base, come to the same machine and the same log, and report exactly the warnings of the whole
run, unless that run is cut short. -/
theorem logged_records_suffice (text : Text) (records : List Record)
    (drawn : DrawnFrom text records) (stackBase : Int) (file : Option Text) :
    (∃ run again, execute (.initial stackBase) records = .ok run ∧
      run.outcomes.length = records.length ∧
      (loggedRecords records run.outcomes).Sublist records ∧
      List.Forall₂ LogEntry.Records run.log (loggedRecords records run.outcomes) ∧
      execute (.initial stackBase) (loggedRecords records run.outcomes) = .ok again ∧
      again.machine = run.machine ∧ again.log = run.log ∧
      again.diagnostics file = (run.diagnostics file).filter (·.severity = .warning)) ∨
    CutShort (.initial stackBase) records := by
  refine (drawn.execute_cases _).imp_left ?_
  rintro ⟨run, ran, counted⟩
  refine ⟨run, _, ran, counted, loggedRecords_sublist records run.outcomes,
    log_records records run ran, execute_logged records run ran, rfl, ?_, ?_⟩
  · exact logged_log run.machine run.outcomes
  · exact logged_diagnostics run.machine run.outcomes file

/-- A line of data, a pop from an empty stack, a line with an error and one that is not supported,
all executed twice over. One of the two sums does not fit in 32 bits. -/
theorem logged_records_suffice_twice :
    let text : Text :=
      "n: .int 1\npop %eax\npush $4294967295\npush\nadd $1, %ebx\nfoo\npop %ebx\nadd $9, %bl"
    let records := recordsOf text ++ recordsOf text
    DrawnFrom text records ∧ ∃ run again, execute (.initial 4096) records = .ok run ∧
      execute (.initial 4096) (loggedRecords records run.outcomes) = .ok again ∧
      again.machine = run.machine ∧ again.log = run.log ∧
      again.diagnostics (some "p.s") =
        (run.diagnostics (some "p.s")).filter (·.severity = .warning) := by
  intro text records
  have drawn : DrawnFrom text records := (drawnFrom_iff text records).mpr (by simp [records])
  rcases logged_records_suffice text records drawn 4096 (some "p.s") with
    ⟨run, again, ran, _, _, _, ranAgain, machine, log, warnings⟩ | ⟨failed, _⟩
  · exact ⟨drawn, run, again, ran, ranAgain, machine, log, warnings⟩
  · obtain ⟨run, ran⟩ : ∃ run, execute (.initial 4096) records = .ok run := ⟨_, rfl⟩
    cases failed.symm.trans ran

/-- A pushed address with too many digits is not logged, but it ends the run. -/
theorem pushed_address_leaves_trace :
    ¬ ∀ (text : Text) (records : List Record), DrawnFrom text records →
      ∀ stackBase : Int, ∃ run again, execute (.initial stackBase) records = .ok run ∧
        execute (.initial stackBase) (loggedRecords records run.outcomes) = .ok again ∧
          again.machine = run.machine := by
  intro claim
  obtain ⟨run, _, ran, _⟩ := claim _ _ (drawnFrom_recordsOf "push %esp") writingBound
  cases ran.symm.trans pushed_address_unwritten

end AttAssembly
