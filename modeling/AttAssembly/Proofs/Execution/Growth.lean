import AttAssembly.Proofs.Execution.Values

/-!
How fast values grow. An instruction at most doubles the greatest magnitude, or moves the stack pointer by
a word. From a stack base of 32 bits it takes thousands of records until a value has too many digits to be
written down, so short programs are never cut short.
-/

namespace AttAssembly

/-- The magnitude is at most the power of two. -/
def OfBits (bits : Nat) (value : Int) : Prop := value.natAbs ≤ 2 ^ bits

section Bits

variable {bits : Nat} {value : Int}

theorem OfBits.succ (small : OfBits bits value) : OfBits (bits + 1) value :=
  small.trans (Nat.pow_le_pow_right (by decide) (Nat.le_succ bits))

theorem word_le (wide : 32 ≤ bits) : 2 ^ 32 ≤ 2 ^ bits := Nat.pow_le_pow_right (by decide) wide

theorem ofBits_of_inRange (wide : 32 ≤ bits) (range : InRange value) : OfBits bits value := by
  have word := word_le wide
  rw [InRange] at range
  rw [OfBits]
  omega

theorem OfBits.apply {operand : Int} (small : OfBits bits value) (other : OfBits bits operand)
    (arithmetic : Arithmetic) : OfBits (bits + 1) (arithmetic.apply value operand) := by
  rw [OfBits] at small other ⊢
  cases arithmetic <;> simp only [Arithmetic.apply, pow_succ] <;> omega

theorem OfBits.moved (small : OfBits bits value) (wide : 32 ≤ bits) :
    OfBits (bits + 1) (value - 4) ∧ OfBits (bits + 1) (value + 4) := by
  have word := word_le wide
  rw [OfBits] at small
  constructor <;> rw [OfBits, pow_succ] <;> omega

theorem OfBits.writable (small : OfBits bits value) (room : 2 ^ bits < writingBound) :
    writable value = true := decide_eq_true (small.trans_lt room)

end Bits

section Steps

variable {bits : Nat} {machine next : Machine} {effect : Effect} {instruction : Instruction}

/-- What an instruction did is told with a number that one more bit holds. -/
theorem effect_grows (holds : machine.Holds (OfBits bits)) (wide : 32 ≤ bits)
    (written : ∀ literal ∈ instruction.literal?, InRange literal)
    (ran : instruction.run machine = some (next, effect)) :
    ∀ value ∈ effect.value?, OfBits (bits + 1) value := by
  have handed (source : Source) (literals : ∀ literal ∈ source.literal?, InRange literal) :
      OfBits bits (source.value machine) :=
    source_holds source holds fun literal found => ofBits_of_inRange wide (literals literal found)
  intro value told
  cases instruction with
  | move source destination =>
      cases ran
      cases told
      exact (handed source written).succ
  | compute arithmetic source destination =>
      cases ran
      cases told
      exact (holds.registers destination).apply (handed source written) arithmetic
  | push source =>
      cases ran
      cases told
      exact (handed source written).succ
  | pop destination =>
      obtain ⟨top, shorter, popped, rfl, rfl⟩ := run_pop_iff.mp ran
      cases told
      have stack := (machine.pop_some value shorter popped).1
      exact (holds.stack value (by simp [stack])).succ
  | idle =>
      cases ran
      cases told
  | interrupt vector =>
      cases ran
      cases told

theorem run_grows (holds : machine.Holds (OfBits bits)) (wide : 32 ≤ bits)
    (written : ∀ literal ∈ instruction.literal?, InRange literal)
    (ran : instruction.run machine = some (next, effect)) : next.Holds (OfBits (bits + 1)) := by
  refine (run_holds_iff instruction effect (holds.mono fun _ => OfBits.succ) ?_ ?_ ran).mpr ?_
  · exact fun literal found => (ofBits_of_inRange wide (written literal found)).succ
  · intro result computed
    refine effect_grows holds wide written ran result ?_
    cases effect <;> cases computed
    rfl
  · intro address moved
    obtain ⟨below, above⟩ := (holds.registers .esp).moved wide
    cases instruction with
    | push source =>
        cases moved
        exact below
    | pop destination =>
        simp only [Instruction.movedPointer?] at moved
        split at moved
        · cases moved
        · cases moved
          exact above
    | _ => cases moved

end Steps

/-- Every step takes one more bit at most, so enough room for all steps is enough for the run. -/
theorem execute_bounded {bits : Nat} {machine : Machine} {records : List Record} (wide : 32 ≤ bits)
    (holds : machine.Holds (OfBits bits)) (room : 2 ^ (bits + records.length) < writingBound)
    (decodable : ∀ record ∈ records, ∀ fault, decode record ≠ .faulty fault)
    (suits : ∀ record ∈ records, ∀ operand ∈ record.operands, operand.Suits record.category) :
    ∃ run, execute machine records = .ok run ∧ run.outcomes.length = records.length := by
  induction records generalizing machine bits with
  | nil => exact ⟨_, rfl, rfl⟩
  | cons record rest ih =>
      have later : 2 ^ (bits + 1 + rest.length) < writingBound := by
        rwa [List.length_cons, ← Nat.add_assoc, Nat.add_right_comm] at room
      have here : 2 ^ (bits + 1) < writingBound :=
        lt_of_le_of_lt (Nat.pow_le_pow_right (by decide) (Nat.le_add_right _ _)) later
      have further (next : Machine) (outcome : Outcome)
          (stepped : Stepped machine record next outcome) (grown : next.Holds (OfBits (bits + 1))) :
          ∃ run, execute machine (record :: rest) = .ok run ∧
            run.outcomes.length = (record :: rest).length := by
        obtain ⟨run, ran, counted⟩ := ih (by omega) grown later
          (fun other member => decodable other (List.mem_cons_of_mem _ member))
          (fun other member => suits other (List.mem_cons_of_mem _ member))
        exact ⟨_, (execute_cons _ _ _).mpr ⟨next, outcome, run, stepped, ran, rfl⟩, by simp [counted]⟩
      have kept : machine.Holds (OfBits (bits + 1)) := holds.mono fun _ => OfBits.succ
      cases decoded : decode record with
      | skipped => exact further machine _ (.skipped decoded) kept
      | rejected causes => exact further machine _ (.rejected causes decoded) kept
      | faulty fault => exact absurd decoded (decodable record List.mem_cons_self fault)
      | instruction instruction =>
          cases ran : instruction.run machine with
          | none => exact further machine _ (.starved instruction decoded ran) kept
          | some result =>
              obtain ⟨next, effect⟩ := result
              have literals := decode_literal (suits record List.mem_cons_self) decoded
              have told : effect.isWritable = true := (Option.all_eq_true _ _).mpr fun value found =>
                (effect_grows holds wide literals ran value found).writable here
              exact further next _ (.executed instruction effect next decoded ran told)
                (run_grows holds wide literals ran)

section Drawn

variable {text : Text} {records : List Record}

theorem DrawnFrom.suits (drawn : DrawnFrom text records) :
    ∀ record ∈ records, ∀ operand ∈ record.operands, operand.Suits record.category := by
  intro record member
  obtain ⟨line, _, kind⟩ := drawn.readAs record member
  exact kind.operands_suit

theorem initial_holds {kind : Int → Prop} {stackBase : Int} (zero : kind 0) (based : kind stackBase) :
    (Machine.initial stackBase).Holds kind where
  registers register := by
    rw [Machine.get_initial]
    split
    · exact based
    · exact zero
  stack := by simp

/-- Fourteen thousand doublings of a word do not make too many digits. -/
theorem short_room {length : Nat} (short : length ≤ 14000) : 2 ^ (32 + length) < writingBound := by
  have doublings : 2 ^ length ≤ (2 ^ 100) ^ 140 := by
    rw [← pow_mul]
    exact pow_le_pow_right₀ (by decide) (by omega)
  have room : 2 ^ 32 * (2 ^ 100) ^ 140 < writingBound := by decide +kernel
  calc 2 ^ (32 + length) = 2 ^ 32 * 2 ^ length := pow_add 2 32 length
    _ ≤ 2 ^ 32 * (2 ^ 100) ^ 140 := Nat.mul_le_mul_left _ doublings
    _ < writingBound := room

theorem DrawnFrom.execute_short (drawn : DrawnFrom text records) {stackBase : Int}
    (based : stackBase.natAbs ≤ 2 ^ 32) (short : records.length ≤ 14000) :
    ∃ run, execute (.initial stackBase) records = .ok run ∧
      run.outcomes.length = records.length :=
  execute_bounded (Nat.le_refl 32) (initial_holds (Nat.zero_le _) based) (short_room short)
    drawn.decodable drawn.suits

end Drawn

/-- Every text is analyzed, and every choice of its records is executed from every stack base, with
one outcome for each record, unless the run is cut short by a value with too many digits. From a stack
base of 32 bits a run of fourteen thousand records is not. A file name only labels what is reported. -/
theorem faults_only_unwritten (text : Text) :
    ∃ analyzed, analyze text = .ok analyzed ∧
      (∀ line ∈ physicalLines text, ∀ number, ∃ record, analyzeLine line number = .ok record) ∧
      (∀ line ∈ physicalLines text, ∀ part, part ⊆ line → ∀ token,
        Operand.readDisplacement part ≠ .error (.brokenDisplacement token) ∧
          Operand.read part ≠ .error (.brokenDisplacement token)) ∧
      (∀ record ∈ analyzed, ∀ fault, decode record ≠ .faulty fault) ∧
      (∀ records, records ⊆ analyzed → ∀ stackBase,
        (∃ run, execute (.initial stackBase) records = .ok run ∧
          run.outcomes.length = records.length) ∨ CutShort (.initial stackBase) records) ∧
      (∀ records, records ⊆ analyzed → records.length ≤ 14000 → ∀ stackBase : Int,
        stackBase.natAbs ≤ 2 ^ 32 → ∃ run, execute (.initial stackBase) records = .ok run ∧
          run.outcomes.length = records.length) ∧
      ∀ register : Register, register.size = .long →
        GeneralRegister.ofName? register.name = some register.parent := by
  have analysis := analyze_eq_records text
  refine ⟨recordsOf text, analysis, ?_, ?_, (drawnFrom_recordsOf text).decodable, ?_, ?_,
    long_register_named⟩
  · intro line physical number
    exact ⟨_, analyzeLine_total line number (physicalLine_onOneLine text line physical)⟩
  · intro line physical part inside token
    have oneLine := (physicalLine_onOneLine text line physical).of_subset inside
    exact ⟨Operand.readDisplacement_unbroken part oneLine token,
      Operand.read_unbroken part oneLine token⟩
  · intro records inside stackBase
    exact DrawnFrom.execute_cases ⟨_, analysis, inside⟩ _
  · intro records inside short stackBase based
    exact DrawnFrom.execute_short ⟨_, analysis, inside⟩ based short

/-- Three lines with an error each, and a fourth, executed backwards and then forwards. -/
theorem faults_only_unwritten_replayed :
    ∃ analyzed run, analyze "pop (%eax\npush\nmov 4(,%ecx,3), %eax\r\npop %esp" = .ok analyzed ∧
      (∃ record, analyzeLine "push" 2 = .ok record) ∧
      Operand.read "(%eax" ≠ .error (.brokenDisplacement "(%eax") ∧
      (∀ record ∈ analyzed, ∀ fault, decode record ≠ .faulty fault) ∧
      execute (.initial 4096) (analyzed.reverse ++ analyzed) = .ok run ∧
      run.outcomes.length = 8 ∧ GeneralRegister.ofName? "ESP" = some .esp := by
  obtain ⟨analyzed, analysis, lines, parts, decoded, _, executed, names⟩ :=
    faults_only_unwritten "pop (%eax\npush\nmov 4(,%ecx,3), %eax\r\npop %esp"
  have four : analyzed.length = 4 := by
    have same := Except.ok.inj (analysis.symm.trans (analyze_eq_records _))
    rw [same]
    rfl
  have eight : (analyzed.reverse ++ analyzed).length = 8 := by
    rw [List.length_append, List.length_reverse, four]
  obtain ⟨run, ran, counted⟩ :=
    executed (analyzed.reverse ++ analyzed) (by simp) (by omega) 4096 (by decide)
  refine ⟨analyzed, run, analysis, lines "push" (by decide) 2, ?_, decoded, ran, counted.trans eight,
    names (.long .esp) rfl⟩
  exact (parts "pop (%eax" (by decide) "(%eax" (by decide) _).2

/-- A stack base with too many digits is pushed, and the run does not come to its end. -/
theorem pushed_address_faults :
    ¬ ∀ (text : Text) (records : List Record), DrawnFrom text records →
      ∀ stackBase : Int, ∃ run, execute (.initial stackBase) records = .ok run := by
  intro claim
  obtain ⟨run, ran⟩ := claim _ _ (drawnFrom_recordsOf "push %esp") writingBound
  cases ran.symm.trans pushed_address_unwritten

end AttAssembly
