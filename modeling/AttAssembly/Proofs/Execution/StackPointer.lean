import AttAssembly.Proofs.Execution.Accounting
import AttAssembly.Proofs.Machine.State

/-!
The stack pointer and the stack. While the stack pointer is the address of the top, the values
below it reach up to the address at which the stack was last based. Pushes and pops keep this, and
a move to the stack pointer bases the stack anew. A sum, a difference or a popped value that is
left in the stack pointer keeps the stack and does not base it: such an instruction strays, and a
run is consistent throughout exactly when no instruction of it strays.
-/

namespace AttAssembly

/-- The address at which an instruction based the stack, when it did. -/
def Effect.base? : Effect → Option Int
  | .moved value .esp => value
  | _ => none

/-- The address at which the stack was last based. -/
def lastBase (stackBase : Int) (log : List LogEntry) : Int :=
  log.foldl (fun base entry => entry.effect.base?.getD base) stackBase

def Consistent (stackBase : Int) (run : Run) : Prop :=
  run.machine.get .esp + 4 * run.machine.stack.length = lastBase stackBase run.log

instance (stackBase : Int) (run : Run) : Decidable (Consistent stackBase run) :=
  inferInstanceAs (Decidable (_ = _))

/-- Leaves the stack pointer elsewhere than at the top of the stack. -/
def Instruction.Strays (machine : Machine) : Instruction → Prop
  | .compute _ source destination => destination = .esp ∧ source.value machine ≠ 0
  | .pop destination =>
      destination = .esp ∧ ∃ value ∈ machine.stack.head?, value ≠ machine.get .esp + 4
  | _ => False

theorem lastBase_concat (stackBase : Int) (log : List LogEntry) (entry : LogEntry) :
    lastBase stackBase (log ++ [entry]) = entry.effect.base?.getD (lastBase stackBase log) := by
  simp [lastBase]

theorem initial_consistent (stackBase : Int) :
    Consistent stackBase ⟨.initial stackBase, []⟩ := by
  simp [Consistent, Machine.get_initial, lastBase, Run.log]

theorem moved_base (value : Int) (destination : GeneralRegister) :
    (Effect.moved (some value) destination).base? =
      if destination = .esp then some value else none := by
  cases destination <;> rfl

theorem computed_consistent_iff (arithmetic : Arithmetic) (current operand : Int) :
    arithmetic.apply current operand = current ↔ operand = 0 := by
  cases arithmetic with
  | add => simp [Arithmetic.apply]
  | sub => simp [Arithmetic.apply]

/-- Carrying an instruction out keeps the distance to the base unless it strays. -/
theorem run_consistent_iff (machine next : Machine) (instruction : Instruction) (effect : Effect)
    (base : Int) (ran : instruction.run machine = some (next, effect))
    (before : machine.get .esp + 4 * machine.stack.length = base) :
    next.get .esp + 4 * next.stack.length = effect.base?.getD base ↔
      ¬ instruction.Strays machine := by
  cases instruction with
  | move source destination =>
      cases ran
      by_cases moved : destination = .esp
      · simp [moved, moved_base, Machine.get_rebase, Instruction.Strays]
      · simpa [moved, moved_base, Machine.get_set, Instruction.Strays, Ne.symm moved] using before
  | compute arithmetic source destination =>
      cases ran
      by_cases computed : destination = .esp
      · subst destination
        -- The stack is kept, so the pointer has to stay where it was.
        have kept := computed_consistent_iff arithmetic (machine.get .esp) (source.value machine)
        simp only [Machine.get_setFlags, Machine.get_set, Machine.stack_setFlags,
          Machine.stack_set, Effect.base?, Option.getD_none, Instruction.Strays, ↓reduceIte]
        rw [← before, add_left_inj, kept]
        simp
      · simpa [computed, Ne.symm computed, Machine.get_set, Effect.base?, Instruction.Strays]
          using before
  | push source =>
      cases ran
      simp only [Machine.get_push, Machine.stack_push, Effect.base?, Option.getD_none,
        Instruction.Strays, Machine.wordSize, List.length_cons, not_false_eq_true, iff_true,
        ↓reduceIte]
      omega
  | pop destination =>
      obtain ⟨value, shorter, popped, rfl, rfl⟩ := run_pop_iff.mp ran
      obtain ⟨stack, _, _, registers⟩ := machine.pop_some value shorter popped
      have pointer := registers .esp
      simp only [Machine.wordSize, ↓reduceIte] at pointer
      rw [stack, List.length_cons] at before
      by_cases popped : destination = .esp
      · -- The popped value takes the place of the pointer that the pop has moved up.
        subst destination
        simp only [Machine.get_set, Machine.stack_set, Effect.base?, Option.getD_none,
          Instruction.Strays, stack, List.head?_cons, Option.mem_some_iff, true_and,
          exists_eq_left', not_not, ↓reduceIte]
        omega
      · simp only [Machine.get_set, Machine.stack_set, Effect.base?, Option.getD_none,
          Instruction.Strays, popped, Ne.symm popped, pointer, false_and, not_false_eq_true,
          iff_true, ↓reduceIte]
        omega
  | idle =>
      cases ran
      simpa [Effect.base?, Instruction.Strays] using before
  | interrupt vector =>
      cases ran
      simpa [Effect.base?, Instruction.Strays] using before

theorem stepped_consistent_iff (stackBase : Int) (before : Run) (record : Record)
    (next : Machine) (outcome : Outcome) (stepped : Stepped before.machine record next outcome)
    (consistent : Consistent stackBase before) :
    Consistent stackBase ⟨next, before.outcomes ++ [outcome]⟩ ↔
      ∀ instruction, decode record = .instruction instruction →
        ¬ instruction.Strays before.machine := by
  rw [Consistent] at consistent ⊢
  rw [Run.log_concat]
  cases stepped with
  | skipped decoded => simpa [decoded, Outcome.log?] using consistent
  | rejected causes decoded => simpa [decoded, Outcome.log?] using consistent
  | starved instruction decoded stuck =>
      obtain ⟨⟨destination, same⟩, empty⟩ := (run_none_iff _ _).mp stuck
      subst instruction
      simpa [decoded, Outcome.log?, Instruction.Strays, empty] using consistent
  | executed instruction effect next decoded ran written =>
      simp only [Outcome.log?, Option.toList_some, lastBase_concat, decoded,
        Decoded.instruction.injEq, forall_eq']
      exact run_consistent_iff _ _ _ _ _ ran consistent

/-- The stack pointer is consistent after every prefix of a run exactly when no instruction that the
run gets past strays from the stack that it finds. -/
theorem consistent_throughout_iff (records : List Record) (stackBase : Int) :
    (∀ count run, execute (.initial stackBase) (records.take count) = .ok run →
      Consistent stackBase run) ↔
    ∀ count record before after, records[count]? = some record →
      execute (.initial stackBase) (records.take count) = .ok before →
        execute (.initial stackBase) (records.take (count + 1)) = .ok after →
          ∀ instruction, decode record = .instruction instruction →
            ¬ instruction.Strays before.machine :=
  execute_throughout_iff (Consistent stackBase)
    (fun before record => ∀ instruction, decode record = .instruction instruction →
      ¬ instruction.Strays before.machine)
    (initial_consistent stackBase)
    fun _ record before next outcome _ _ stepped consistent =>
      stepped_consistent_iff stackBase before record next outcome stepped consistent

/-- A based stack whose own address is pushed and popped, with nothing added to the pointer. -/
theorem consistent_throughout_iff_rebased :
    let records := recordsOf "push $1\nmov $0x2000, %esp\npush %esp\npop %esp\nadd $0, %esp"
    (∃ run, execute (.initial 4096) records = .ok run) ∧
      ∀ count run, execute (.initial 4096) (records.take count) = .ok run → Consistent 4096 run := by
  intro records
  refine ⟨⟨_, rfl⟩, (consistent_throughout_iff records 4096).mpr ?_⟩
  intro count record before after found earlier _ instruction decoded strays
  have place : count < 5 := (List.getElem?_eq_some_iff.mp found).1
  interval_cases count <;> cases found <;> cases earlier <;> cases decoded
  · exact strays
  · exact strays
  · exact strays
  · obtain ⟨_, value, top, elsewhere⟩ := strays
    cases top
    exact elsewhere rfl
  · exact strays.2 rfl

/-- A pushed value is left behind by an addition to the stack pointer. -/
theorem added_pointer_inconsistent :
    ∃ run, simulate "push $1\nadd $4, %esp" 4096 = .ok run ∧ run.machine.stack = [1] ∧
      ¬ Consistent 4096 run :=
  ⟨_, rfl, rfl, by decide⟩

end AttAssembly
