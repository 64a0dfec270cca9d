import AttAssembly.Proofs.Execution.Growth

/-!
Overflow. The analysis keeps immediates in the range of 32 bits, and a run that reports no warning has
all its sums and differences in it. What is not reported is a push or a pop that takes the stack pointer
out of the range: the values of a run without a warning stay in the range exactly as long as there is
none, and otherwise are off by no more than the words that were pushed and popped.
-/

namespace AttAssembly

/-- Nothing in a report is a warning. -/
def Silent (diagnostics : List Diagnostic) : Prop :=
  ∀ diagnostic ∈ diagnostics, diagnostic.severity ≠ .warning

theorem silent_results {outcome : Outcome} (file : Option Text)
    (silent : Silent (outcome.diagnostics file)) :
    ∀ entry ∈ outcome.log?, ∀ result ∈ entry.effect.result?, InRange result := by
  intro entry logged result computed
  by_contra outside
  cases outcome with
  | executed same =>
      cases logged
      rw [executed_overflow entry file result computed outside] at silent
      exact silent _ List.mem_cons_self rfl
  | _ => cases logged

def Effect.pushes : Effect → Bool
  | .pushed _ => true
  | _ => false

def Effect.pops : Effect → Bool
  | .popped _ _ => true
  | _ => false

/-- The bytes of all words that a run pushed, or popped. -/
def Run.bytes (moves : Effect → Bool) (run : Run) : Int :=
  4 * run.log.countP fun entry => moves entry.effect

/-- No push and no pop moves the stack pointer out of the range. -/
def PointerStays (stackBase : Int) (records : List Record) : Prop :=
  ∀ count record before, records[count]? = some record →
    execute (.initial stackBase) (records.take count) = .ok before →
      ∀ instruction, decode record = .instruction instruction →
        ∀ address ∈ instruction.movedPointer? before.machine, InRange address

section Runs

theorem inRange_zero : InRange 0 := ⟨by decide, by decide⟩

variable {machine next : Machine} {records : List Record} {run : Run}

/-- A push moves the stack pointer below the range by no more than one word, and a pop above it. -/
theorem moved_between {least most : Int} (instruction : Instruction) (effect : Effect)
    (ran : instruction.run machine = some (next, effect))
    (pointer : Between least most (machine.get .esp)) :
    ∀ address ∈ instruction.movedPointer? machine,
      Between (least - if effect.pushes then 4 else 0) (most + if effect.pops then 4 else 0)
        address := by
  obtain ⟨above, below⟩ := pointer
  intro address moved
  cases instruction with
  | push source =>
      cases ran
      cases moved
      simp only [Between, Effect.pushes, Effect.pops, ↓reduceIte]
      constructor <;> omega
  | pop destination =>
      obtain ⟨_, _, _, _, rfl⟩ := run_pop_iff.mp ran
      simp only [Instruction.movedPointer?] at moved
      split at moved
      · cases moved
      · cases moved
        simp only [Between, Effect.pushes, Effect.pops, ↓reduceIte]
        constructor <;> omega
  | _ => cases moved

theorem bytes_concat (moves : Effect → Bool) (before : Run) (next : Machine) (outcome : Outcome) :
    Run.bytes moves ⟨next, before.outcomes ++ [outcome]⟩ =
      before.bytes moves + if outcome.log?.any (moves ·.effect) then 4 else 0 := by
  rw [Run.bytes, Run.log_concat, List.countP_append, Nat.cast_add, mul_add, Run.bytes]
  cases outcome.log? with
  | none => simp
  | some entry => cases moved : moves entry.effect <;> simp [moved]

theorem stepped_between {record : Record} {outcome : Outcome} {least most : Int}
    (file : Option Text) (stepped : Stepped machine record next outcome)
    (suits : ∀ operand ∈ record.operands, operand.Suits record.category)
    (silent : Silent (outcome.diagnostics file))
    (wide : ∀ value, InRange value → Between least most value)
    (holds : machine.Holds (Between least most)) :
    next.Holds (Between
      (least - if outcome.log?.any (·.effect.pushes) then 4 else 0)
      (most + if outcome.log?.any (·.effect.pops) then 4 else 0)) := by
  have wider : ∀ value, Between least most value → Between
      (least - if outcome.log?.any (·.effect.pushes) then 4 else 0)
      (most + if outcome.log?.any (·.effect.pops) then 4 else 0) value := by
    rintro value ⟨above, below⟩
    constructor <;> split <;> omega
  have results := silent_results file silent
  cases stepped with
  | executed instruction effect next decoded ran =>
      refine (run_holds_iff instruction effect (holds.mono wider) ?_ ?_ ran).mpr ?_
      · exact fun literal found => wider _ (wide _ (decode_literal suits decoded literal found))
      · exact fun result computed => wider _ (wide _ (results _ rfl result computed))
      · exact moved_between instruction effect ran (holds.registers .esp)
  | _ => exact holds.mono wider

theorem execute_between (stackBase : Int) (based : InRange stackBase) (file : Option Text)
    (suits : ∀ record ∈ records, ∀ operand ∈ record.operands, operand.Suits record.category)
    (ran : execute (.initial stackBase) records = .ok run)
    (silent : Silent (run.diagnostics file)) :
    run.machine.Holds
      (Between (-2 ^ 31 - run.bytes Effect.pushes) (2 ^ 32 - 1 + run.bytes Effect.pops)) := by
  revert suits silent
  refine execute_induction
    (fun records run =>
      (∀ record ∈ records, ∀ operand ∈ record.operands, operand.Suits record.category) →
        Silent (run.diagnostics file) →
        run.machine.Holds
          (Between (-2 ^ 31 - run.bytes Effect.pushes) (2 ^ 32 - 1 + run.bytes Effect.pops)))
    ?_ ?_ records run ran
  · intro _ _
    refine (initial_holds inRange_zero based).mono fun value within => ?_
    simpa [Run.bytes, Run.log, InRange, Between] using within
  · intro records record before next outcome _ ih stepped suits silent
    rw [Run.diagnostics_concat] at silent
    have holds := ih (fun other member => suits other (List.mem_append_left _ member))
      (fun diagnostic member => silent diagnostic (List.mem_append_left _ member))
    have wide : ∀ value, InRange value →
        Between (-2 ^ 31 - before.bytes Effect.pushes) (2 ^ 32 - 1 + before.bytes Effect.pops) value := by
      rintro value ⟨above, below⟩
      simp only [Between, Run.bytes]
      omega
    have after := stepped_between file stepped (suits record (by simp))
      (fun diagnostic member => silent diagnostic (List.mem_append_right _ member)) wide holds
    rw [bytes_concat, bytes_concat]
    refine after.mono fun value within => ?_
    obtain ⟨above, below⟩ := within
    constructor <;> omega

theorem execute_holds_iff (stackBase : Int) (based : InRange stackBase) (file : Option Text)
    (suits : ∀ record ∈ records, ∀ operand ∈ record.operands, operand.Suits record.category)
    (ran : execute (.initial stackBase) records = .ok run)
    (silent : Silent (run.diagnostics file)) :
    (∀ count ≤ records.length, ∃ part,
      execute (.initial stackBase) (records.take count) = .ok part ∧ part.machine.Holds InRange) ↔
    PointerStays stackBase records := by
  apply execute_throughout_run_iff (fun part => part.machine.Holds InRange)
    (fun before record => ∀ instruction, decode record = .instruction instruction →
      ∀ address ∈ instruction.movedPointer? before.machine, InRange address)
    ran (initial_holds inRange_zero based)
  intro before record next outcome member among stepped holds
  have quiet : Silent (outcome.diagnostics file) := fun diagnostic reported =>
    silent diagnostic (List.mem_flatMap.mpr ⟨outcome, among, reported⟩)
  exact stepped_holds_iff stepped holds
    (fun instruction decoded => decode_literal (suits record member) decoded)
    (silent_results file quiet)

end Runs

/-- When a text is executed from a stack base in the range of 32 bits and no warning is reported, every
register and every stack value is in the range after every prefix of the run exactly if no push and no
pop moves the stack pointer out of it, and then also at the end. If one does, no value is further
below the range than the words that were pushed reach, nor further above it than those popped. Only a
long run can be cut short. -/
theorem silent_run_in_range_iff (text : Text) (stackBase : Int) (based : InRange stackBase)
    (file : Option Text) :
    ∃ records, analyze text = .ok records ∧
      ((14000 < records.length ∧ CutShort (.initial stackBase) records) ∨
      ∃ run, simulate text stackBase = .ok run ∧
        (Silent (run.diagnostics file) →
          (PointerStays stackBase records → run.machine.Holds InRange) ∧
          ((∀ count ≤ records.length, ∃ part,
            execute (.initial stackBase) (records.take count) = .ok part ∧
              part.machine.Holds InRange) ↔ PointerStays stackBase records) ∧
          run.machine.Holds
            (Between (-2 ^ 31 - run.bytes Effect.pushes) (2 ^ 32 - 1 + run.bytes Effect.pops)))) := by
  have whole := drawnFrom_recordsOf text
  refine ⟨_, analyze_eq_records text, ?_⟩
  simp only [simulate_eq_execute]
  rcases whole.execute_cases (.initial stackBase) with ⟨run, ran, _⟩ | cut
  · refine .inr ⟨run, ran, fun silent => ?_⟩
    have throughout := execute_holds_iff stackBase based file whole.suits ran silent
    refine ⟨fun stays => ?_, throughout,
      execute_between stackBase based file whole.suits ran silent⟩
    obtain ⟨part, upTo, holds⟩ := throughout.mpr stays (recordsOf text).length (Nat.le_refl _)
    rw [List.take_length] at upTo
    cases Except.ok.inj (ran.symm.trans upTo)
    exact holds
  · refine .inl ⟨Nat.lt_of_not_le fun short => ?_, cut⟩
    have small : stackBase.natAbs ≤ 2 ^ 32 := ofBits_of_inRange (Nat.le_refl 32) based
    obtain ⟨run, ran, _⟩ := whole.execute_short small short
    cases cut.1.symm.trans ran

/-- The least stack base that leaves room for one word, and immediates at both ends of the range. -/
theorem silent_run_in_range_iff_edges :
    let text : Text := "push $0xffffffff\npop %eax\nsub $-2147483648, %ebx"
    InRange (-2147483644) ∧ ∃ records run, analyze text = .ok records ∧
      simulate text (-2147483644) = .ok run ∧ Silent (run.diagnostics none) ∧
      PointerStays (-2147483644) records ∧ run.machine.Holds InRange := by
  intro text
  have based : InRange (-2147483644) := ⟨by decide, by decide⟩
  obtain ⟨records, analyzed, ended⟩ := silent_run_in_range_iff text (-2147483644) based none
  have three : ¬ 14000 < records.length := by
    cases (show analyze text = .ok _ from rfl).symm.trans analyzed
    decide
  obtain ⟨run, simulated, holds⟩ := ended.resolve_left fun cut => three cut.1
  have silent : Silent (run.diagnostics none) := by
    cases (show simulate text (-2147483644) = .ok _ from rfl).symm.trans simulated
    exact fun _ reported => absurd reported List.not_mem_nil
  have stays : PointerStays (-2147483644) records := by
    cases (show analyze text = .ok _ from rfl).symm.trans analyzed
    intro count record before found earlier instruction decoded address moved
    have place : count < 3 := (List.getElem?_eq_some_iff.mp found).1
    interval_cases count <;> cases found <;> cases earlier <;> cases decoded <;> cases moved <;>
      exact ⟨by decide, by decide⟩
  obtain ⟨inRange, _, _⟩ := holds silent
  exact ⟨based, records, run, analyzed, simulated, silent, stays, inRange stays⟩

/-- A word is pushed at the least stack base, and nothing is reported. -/
theorem push_leaves_range :
    InRange (-2 ^ 31) ∧ ∃ run, simulate "push $1" (-2 ^ 31) = .ok run ∧
      run.diagnostics none = [] ∧ run.machine.get .esp = -2147483652 ∧
      ¬ run.machine.Holds InRange := by
  refine ⟨⟨by decide, by decide⟩, _, rfl, rfl, rfl, ?_⟩
  intro holds
  exact absurd (holds.registers .esp).1 (by decide)

end AttAssembly
