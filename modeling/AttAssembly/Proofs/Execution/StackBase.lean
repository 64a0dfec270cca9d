import AttAssembly.Proofs.Execution.Decoding
import AttAssembly.Proofs.Execution.Step
import AttAssembly.Proofs.Machine.State

/-!
The stack base. Operands that leave the stack pointer alone let only pushes and pops move it, and
these move it by the same distance wherever it is. Two runs of such records from two bases have the
same outcomes, and their machines differ in the stack pointer only, by the distance of the bases.
-/

namespace AttAssembly

/-- The machines differ in the stack pointer only, by a fixed distance. -/
structure Machine.ShiftedFrom (distance : Int) (other machine : Machine) : Prop where
  registers (register : GeneralRegister) (apart : register ≠ .esp) :
    machine.get register = other.get register
  pointer : machine.get .esp = other.get .esp + distance
  zero : machine.zero = other.zero
  sign : machine.sign = other.sign
  stack : machine.stack = other.stack

/-- Neither reads the stack pointer as a value nor writes a value to it. -/
def Instruction.SparesPointer : Instruction → Prop
  | .move source destination | .compute _ source destination =>
      source ≠ .register .esp ∧ destination ≠ .esp
  | .push source => source ≠ .register .esp
  | .pop destination => destination ≠ .esp
  | .idle | .interrupt _ => True

/-- No operand is the stack pointer. -/
def Record.SparesPointer (record : Record) : Prop :=
  ∀ operand ∈ record.operands, operand.form ≠ .register (.long .esp)

section Shift

variable {distance : Int} {machine other next : Machine} {record : Record} {outcome : Outcome}

theorem initial_shifted (stackBase otherBase : Int) :
    Machine.ShiftedFrom (stackBase - otherBase) (.initial otherBase) (.initial stackBase) where
  registers register apart := by simp [Machine.get_initial, apart]
  pointer := by
    simp only [Machine.get_initial, ↓reduceIte]
    omega
  zero := rfl
  sign := rfl
  stack := rfl

theorem sourceOf_spares (operand : Operand) (source : Source)
    (spared : operand.form ≠ .register (.long .esp)) (read : sourceOf operand = .ok source) :
    source ≠ .register .esp := by
  rcases (sourceOf_iff operand source).mp read with ⟨holder, form, same⟩ | ⟨value, _, same⟩
  · rintro pointer
    cases same.symm.trans pointer
    exact spared form
  · simp [same]

theorem decode_spares (instruction : Instruction) (spared : record.SparesPointer)
    (decoded : decode record = .instruction instruction) : instruction.SparesPointer := by
  obtain ⟨operation, executable⟩ := decode_executable record instruction decoded
  have taken := executable.taken
  rw [Record.SparesPointer] at spared
  generalize record.operands = operands at taken spared
  have written {target : Operand} {destination : GeneralRegister} (member : target ∈ operands)
      (form : target.form = .register (.long destination)) : destination ≠ .esp := by
    rintro rfl
    exact spared target member form
  cases taken with
  | move read form =>
      exact ⟨sourceOf_spares _ _ (spared _ (by simp)) read, written (by simp) form⟩
  | compute read form =>
      exact ⟨sourceOf_spares _ _ (spared _ (by simp)) read, written (by simp) form⟩
  | push read => exact sourceOf_spares _ _ (spared _ (by simp)) read
  | pop form => exact written (by simp) form
  | idle operands => trivial
  | interrupt operands => trivial

namespace Machine.ShiftedFrom

variable (shifted : Machine.ShiftedFrom distance other machine)
include shifted

theorem source_value (source : Source) (spared : source ≠ .register .esp) :
    source.value machine = source.value other := by
  cases source with
  | number literal => rfl
  | register holder =>
      refine shifted.registers holder fun pointer => spared ?_
      rw [pointer]

theorem set (register : GeneralRegister) (value : Int) (apart : register ≠ .esp) :
    (other.set register value).ShiftedFrom distance (machine.set register value) where
  registers read readApart := by
    simp only [Machine.get_set, shifted.registers read readApart]
  pointer := by
    simp only [Machine.get_set, Ne.symm apart, ↓reduceIte]
    exact shifted.pointer
  zero := shifted.zero
  sign := shifted.sign
  stack := shifted.stack

theorem setFlags (result : Int) :
    (other.setFlags result).ShiftedFrom distance (machine.setFlags result) where
  registers := shifted.registers
  pointer := shifted.pointer
  zero := rfl
  sign := rfl
  stack := shifted.stack

theorem push (value : Int) : (other.push value).ShiftedFrom distance (machine.push value) where
  registers read apart := by simp [Machine.get_push, apart, shifted.registers read apart]
  pointer := by
    have pointer := shifted.pointer
    simp only [Machine.get_push, ↓reduceIte]
    omega
  zero := shifted.zero
  sign := shifted.sign
  stack := by simp [shifted.stack]

theorem pop (value : Int) (next : Machine) (popped : machine.pop? = some (value, next)) :
    ∃ after, other.pop? = some (value, after) ∧ after.ShiftedFrom distance next := by
  obtain ⟨top, zero, sign, registers⟩ := machine.pop_some value next popped
  cases found : other.pop? with
  | none =>
      have empty := other.pop_none_iff.mp found
      simp [shifted.stack, empty] at top
  | some result =>
      obtain ⟨otherTop, otherZero, otherSign, otherRegisters⟩ :=
        other.pop_some result.1 result.2 found
      have aligned : value :: next.stack = result.1 :: result.2.stack := by
        rw [← top, ← otherTop, shifted.stack]
      obtain ⟨values, rests⟩ := List.cons_eq_cons.mp aligned
      refine ⟨result.2, by rw [values], ?_, ?_, ?_, ?_, rests⟩
      · intro register apart
        simp [registers, otherRegisters, apart, shifted.registers register apart]
      · have pointer := shifted.pointer
        simp only [registers, otherRegisters, ↓reduceIte]
        omega
      · rw [zero, otherZero, shifted.zero]
      · rw [sign, otherSign, shifted.sign]

/-- The same effect on both machines, and the distance is kept. -/
theorem run (instruction : Instruction) (effect : Effect) (spared : instruction.SparesPointer)
    (ran : instruction.run machine = some (next, effect)) :
    ∃ after, instruction.run other = some (after, effect) ∧
      after.ShiftedFrom distance next := by
  cases instruction with
  | move source destination =>
      cases ran
      have value := shifted.source_value source spared.1
      refine ⟨other.set destination (source.value other), ?_, ?_⟩
      · simp [Instruction.run, spared.2, value]
      · simp only [spared.2, value, ↓reduceIte]
        exact shifted.set destination _ spared.2
  | compute arithmetic source destination =>
      cases ran
      have value := shifted.source_value source spared.1
      have current := shifted.registers destination spared.2
      have result : arithmetic.apply (machine.get destination) (source.value machine) =
          arithmetic.apply (other.get destination) (source.value other) := by rw [value, current]
      refine ⟨(other.set destination _).setFlags _, by rw [result]; rfl, ?_⟩
      rw [result]
      exact (shifted.set destination _ spared.2).setFlags _
  | push source =>
      cases ran
      have value := shifted.source_value source spared
      refine ⟨other.push (source.value other), ?_, ?_⟩
      · simp [Instruction.run, value]
      · rw [value]
        exact shifted.push _
  | pop destination =>
      obtain ⟨value, shorter, popped, rfl, rfl⟩ := run_pop_iff.mp ran
      obtain ⟨after, found, afterShifted⟩ := shifted.pop value shorter popped
      refine ⟨after.set destination value, ?_, afterShifted.set destination value spared⟩
      simp [Instruction.run, found]
  | idle =>
      cases ran
      exact ⟨other, rfl, shifted⟩
  | interrupt vector =>
      cases ran
      exact ⟨other, rfl, shifted⟩

/-- An instruction that one machine cannot carry out, the other cannot either. -/
theorem starved (instruction : Instruction) (stuck : instruction.run machine = none) :
    instruction.run other = none := by
  obtain ⟨pop, empty⟩ := (run_none_iff _ _).mp stuck
  exact (run_none_iff _ _).mpr ⟨pop, shifted.stack ▸ empty⟩

theorem step (spared : record.SparesPointer) (stepped : Stepped machine record next outcome) :
    ∃ after, Stepped other record after outcome ∧ after.ShiftedFrom distance next := by
  cases stepped with
  | skipped decoded => exact ⟨other, .skipped decoded, shifted⟩
  | rejected causes decoded => exact ⟨other, .rejected causes decoded, shifted⟩
  | starved instruction decoded stuck =>
      exact ⟨other, .starved instruction decoded (shifted.starved instruction stuck), shifted⟩
  | executed instruction effect next decoded ran written =>
      obtain ⟨after, found, afterShifted⟩ :=
        shifted.run instruction effect (decode_spares instruction spared decoded) ran
      exact ⟨after, .executed instruction effect after decoded found written, afterShifted⟩

end Machine.ShiftedFrom

theorem execute_shifted (records : List Record) (run : Run)
    (spared : ∀ record ∈ records, record.SparesPointer)
    (shifted : other.ShiftedFrom distance machine) (ran : execute machine records = .ok run) :
    ∃ twin, execute other records = .ok twin ∧ run.outcomes = twin.outcomes ∧
      twin.machine.ShiftedFrom distance run.machine := by
  induction records generalizing machine other run with
  | nil =>
      cases ran
      exact ⟨⟨other, []⟩, rfl, rfl, shifted⟩
  | cons record rest ih =>
      obtain ⟨next, outcome, later, stepped, ranRest, whole⟩ := (execute_cons _ _ _).mp ran
      obtain ⟨after, twinStepped, afterShifted⟩ :=
        shifted.step (spared record List.mem_cons_self) stepped
      obtain ⟨twin, twinRan, outcomes, endShifted⟩ :=
        ih later (fun record member => spared record (List.mem_cons_of_mem _ member)) afterShifted
          ranRest
      subst whole
      exact ⟨⟨twin.machine, outcome :: twin.outcomes⟩,
        (execute_cons _ _ _).mpr ⟨after, outcome, twin, twinStepped, twinRan, rfl⟩,
        congrArg (outcome :: ·) outcomes, endShifted⟩

end Shift

end AttAssembly
