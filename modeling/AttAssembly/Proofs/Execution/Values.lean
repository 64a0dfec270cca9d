import AttAssembly.Proofs.Analysis.Operands
import AttAssembly.Proofs.Execution.Accounting
import AttAssembly.Proofs.Machine.State

/-!
The values of a machine. Every value is the stack base, an immediate, a sum or a difference, or a copy of
another one, but for the stack pointer, which pushes and pops move by the size of a word. So a kind of
value that holds all immediates and all results of a run is kept by every step that does not move the
stack pointer out of it. The analysis keeps immediates in the range of 32 bits.
-/

namespace AttAssembly

/-- Every register and every stack value is of one kind. -/
structure Machine.Holds (kind : Int → Prop) (machine : Machine) : Prop where
  registers (register : GeneralRegister) : kind (machine.get register)
  stack : ∀ value ∈ machine.stack, kind value

def Between (least most value : Int) : Prop := least ≤ value ∧ value ≤ most

def Source.literal? : Source → Option Int
  | .number value => some value
  | .register _ => none

/-- The number that an instruction is written with. -/
def Instruction.literal? : Instruction → Option Int
  | .move source _ | .compute _ source _ | .push source => source.literal?
  | _ => none

/-- Where a push or a pop moves the stack pointer. A popped stack pointer is written over. -/
def Instruction.movedPointer? (machine : Machine) : Instruction → Option Int
  | .push _ => some (machine.get .esp - 4)
  | .pop destination =>
      if destination = .esp ∨ machine.stack = [] then none else some (machine.get .esp + 4)
  | _ => none

section Values

variable {kind : Int → Prop} {machine next : Machine} {value : Int}

namespace Machine.Holds

theorem mono {other : Int → Prop} (holds : machine.Holds kind)
    (wider : ∀ value, kind value → other value) : machine.Holds other :=
  ⟨fun register => wider _ (holds.registers register),
    fun value member => wider value (holds.stack value member)⟩

theorem set (holds : machine.Holds kind) (register : GeneralRegister) (fits : kind value) :
    (machine.set register value).Holds kind where
  registers read := by
    rw [Machine.get_set]
    split
    · exact fits
    · exact holds.registers read
  stack := holds.stack

theorem rebase (holds : machine.Holds kind) (fits : kind value) :
    (machine.rebase value).Holds kind where
  registers := (holds.set .esp fits).registers
  stack := by simp

/-- A machine whose stack pointer has moved, and whose other values are all of the kind. -/
theorem pointer_iff (others : ∀ register ≠ .esp, kind (next.get register))
    (stack : ∀ value ∈ next.stack, kind value) : next.Holds kind ↔ kind (next.get .esp) := by
  constructor
  · intro holds
    exact holds.registers .esp
  · intro pointer
    refine ⟨fun register => ?_, stack⟩
    by_cases same : register = .esp
    · exact same ▸ pointer
    · exact others register same

theorem push_iff (holds : machine.Holds kind) (fits : kind value) :
    (machine.push value).Holds kind ↔ kind (machine.get .esp - 4) := by
  rw [pointer_iff]
  · simp [Machine.get_push, Machine.wordSize]
  · intro register other
    simpa [Machine.get_push, other] using holds.registers register
  · intro pushed member
    rcases List.mem_cons.mp member with rfl | below
    · exact fits
    · exact holds.stack pushed below

/-- A popped stack pointer takes the place of the address that the pop moved it to. -/
theorem pop_iff (holds : machine.Holds kind) (destination : GeneralRegister)
    (popped : machine.pop? = some (value, next)) :
    (next.set destination value).Holds kind ↔
      (destination ≠ .esp → kind (machine.get .esp + 4)) := by
  obtain ⟨stack, _, _, registers⟩ := machine.pop_some value next popped
  have top : kind value := holds.stack value (by simp [stack])
  have below : ∀ kept ∈ next.stack, kind kept := fun kept member =>
    holds.stack kept (by simp [stack, member])
  have others : ∀ register ≠ .esp, kind ((next.set destination value).get register) := by
    intro register other
    rw [Machine.get_set]
    split
    · exact top
    · simpa [registers, other] using holds.registers register
  rw [pointer_iff others below, Machine.get_set]
  by_cases pointer : destination = .esp
  · simpa [pointer] using top
  · simp [pointer, Ne.symm pointer, registers, Machine.wordSize]

end Machine.Holds

theorem source_holds (source : Source) (holds : machine.Holds kind)
    (written : ∀ literal ∈ source.literal?, kind literal) : kind (source.value machine) := by
  cases source with
  | number literal => exact written literal rfl
  | register holder => exact holds.registers holder

/-- An instruction whose number and whose result are of the kind keeps all values of the kind, unless
    it moves the stack pointer elsewhere. -/
theorem run_holds_iff (instruction : Instruction) (effect : Effect) (holds : machine.Holds kind)
    (written : ∀ literal ∈ instruction.literal?, kind literal)
    (computed : ∀ result ∈ effect.result?, kind result)
    (ran : instruction.run machine = some (next, effect)) :
    next.Holds kind ↔ ∀ address ∈ instruction.movedPointer? machine, kind address := by
  cases instruction with
  | move source destination =>
      cases ran
      have value := source_holds source holds written
      refine iff_of_true ?_ (by simp [Instruction.movedPointer?])
      split
      · exact holds.rebase value
      · exact holds.set destination value
  | compute arithmetic source destination =>
      cases ran
      have result := holds.set destination (computed _ rfl)
      exact iff_of_true ⟨result.registers, result.stack⟩ (by simp [Instruction.movedPointer?])
  | push source =>
      cases ran
      simpa [Instruction.movedPointer?] using holds.push_iff (source_holds source holds written)
  | pop destination =>
      obtain ⟨value, shorter, popped, rfl, rfl⟩ := run_pop_iff.mp ran
      have stack := (machine.pop_some value shorter popped).1
      simpa [Instruction.movedPointer?, stack] using holds.pop_iff destination popped
  | idle =>
      cases ran
      exact iff_of_true holds (by simp [Instruction.movedPointer?])
  | interrupt vector =>
      cases ran
      exact iff_of_true holds (by simp [Instruction.movedPointer?])

end Values

section Steps

variable {kind : Int → Prop} {machine next : Machine} {record : Record} {outcome : Outcome}
  {instruction : Instruction}

theorem literal_of_source {operand : Operand} {source : Source}
    (read : sourceOf operand = .ok source) :
    ∀ literal ∈ source.literal?, operand.form = .immediate (.number literal) := by
  intro literal found
  obtain ⟨holder, _, same⟩ | ⟨value, form, same⟩ := (sourceOf_iff _ _).mp read
  · cases same
    cases found
  · cases same
    cases found
    exact form

/-- The immediates of an analysed record are in the range, whatever instruction comes out of it. -/
theorem decode_literal (suits : ∀ operand ∈ record.operands, operand.Suits record.category)
    (decoded : decode record = .instruction instruction) :
    ∀ literal ∈ instruction.literal?, InRange literal := by
  obtain ⟨operation, executable⟩ := decode_executable record instruction decoded
  have inRange {operand : Operand} {source : Source} (member : operand ∈ record.operands)
      (read : sourceOf operand = .ok source) : ∀ literal ∈ source.literal?, InRange literal := by
    intro literal found
    have form := literal_of_source read literal found
    rcases (suits operand member).statement executable.statement.2 with allowed | ⟨_, target⟩
    · rw [form] at allowed
      cases allowed
      assumption
    · rw [form] at target
      cases target
  have taken := executable.taken
  generalize record.operands = operands at taken inRange
  cases taken with
  | move read form => exact inRange (by simp) read
  | compute read form => exact inRange (by simp) read
  | push read => exact inRange (by simp) read
  | pop form => simp [Instruction.literal?]
  | idle operands => simp [Instruction.literal?]
  | interrupt operands => simp [Instruction.literal?]

theorem stepped_holds_iff (stepped : Stepped machine record next outcome)
    (holds : machine.Holds kind)
    (written : ∀ instruction, decode record = .instruction instruction →
      ∀ literal ∈ instruction.literal?, kind literal)
    (computed : ∀ entry ∈ outcome.log?, ∀ result ∈ entry.effect.result?, kind result) :
    next.Holds kind ↔ ∀ instruction, decode record = .instruction instruction →
      ∀ address ∈ instruction.movedPointer? machine, kind address := by
  cases stepped with
  | skipped decoded => simpa [decoded] using holds
  | rejected causes decoded => simpa [decoded] using holds
  | starved instruction decoded stuck =>
      obtain ⟨⟨destination, same⟩, empty⟩ := (run_none_iff _ _).mp stuck
      subst instruction
      simpa [decoded, Instruction.movedPointer?, empty] using holds
  | executed instruction effect next decoded ran =>
      simp only [decoded, Decoded.instruction.injEq, forall_eq']
      exact run_holds_iff instruction effect holds (written instruction decoded)
        (computed _ rfl) ran

end Steps

end AttAssembly
