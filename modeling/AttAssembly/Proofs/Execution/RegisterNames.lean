import AttAssembly.Proofs.Analysis.Operands
import AttAssembly.Proofs.Execution.Decoding
import AttAssembly.Proofs.Operand.Registers

/-!
The registers that execution works on. An instruction has only registers that operands of its record are,
and those operands are spelled as the names of the registers. So no register is read or written under
another spelling than those that the reading of names allows.
-/

namespace AttAssembly

/-- The registers that are given to an instruction. -/
def Source.registers : Source → List GeneralRegister
  | .number _ => []
  | .register holder => [holder]

def Instruction.registers : Instruction → List GeneralRegister
  | .move source destination => source.registers ++ [destination]
  | .compute _ source destination => source.registers ++ [destination]
  | .push source => source.registers
  | .pop destination => [destination]
  | .idle => []
  | .interrupt _ => []

section Instructions

variable {operation : Operation} {operands : List Operand} {instruction : Instruction}

theorem source_register {operand : Operand} {source : Source} (read : sourceOf operand = .ok source) :
    ∀ register ∈ source.registers, operand.form = .register (.long register) := by
  intro register among
  rcases (sourceOf_iff operand source).mp read with ⟨holder, form, rfl⟩ | ⟨value, _, rfl⟩
  · rwa [List.mem_singleton.mp among]
  · cases among

theorem Operation.Takes.register_operand (taken : operation.Takes operands instruction) :
    ∀ register ∈ instruction.registers,
      ∃ operand ∈ operands, operand.form = .register (.long register) := by
  intro register among
  cases taken with
  | move read written | compute read written =>
      rcases List.mem_append.mp among with given | target
      · exact ⟨_, List.mem_cons_self, source_register read register given⟩
      · rw [List.mem_singleton.mp target]
        exact ⟨_, List.mem_cons_of_mem _ List.mem_cons_self, written⟩
  | push read => exact ⟨_, List.mem_cons_self, source_register read register among⟩
  | pop written =>
      rw [List.mem_singleton.mp among]
      exact ⟨_, List.mem_cons_self, written⟩
  | idle | interrupt => cases among

end Instructions

namespace Operand

variable {operand : Operand} {register : Register}

/-- A register is not made a jump target, so it was read as a register in every category. -/
theorem Suits.spelled {category : Category} (suits : operand.Suits category)
    (statement : category ≠ .directive) (form : operand.form = .register register) :
    ∃ name, operand.text = '%' :: name ∧ name.map readCapital = register.name := by
  have read : Operand.read operand.text = .ok operand := by
    by_cases branch : category = .branch
    · subst category
      obtain ⟨first, read, same⟩ := branch_reader suits.reread
      by_cases bare : first.IsBareDirect
      · obtain ⟨direct, symbol, displacement, reference⟩ := bare
        rw [← same, asBranchTarget_bare reference direct] at form
        cases form
      · rw [read, ← same, asBranchTarget_other bare]
    · rw [← Category.reader_plain statement branch]
      exact suits.reread
  exact read_register read form

end Operand

/-- A text names a register exactly if it spells the name: in ASCII letters of either case, or with a
long s for the S or a dotless i for the I, and with these letters only. The reader of registers takes a
text exactly if it is spelled so after a percent sign, base and index of a memory reference and every
register that an instruction of an analysed text works on are spelled so in their operands. -/
theorem register_names_spelled (text : Text) :
    (∀ register, Register.read? text = some register ↔
      (bareName text).map readCapital = register.name) ∧
    (∀ register, (bareName text).map Char.toUpper = register.name ↔
      Register.read? text = some register ∧ 'ſ' ∉ text ∧ 'ı' ∉ text) ∧
    (∀ other register, Register.read? text = some register → Register.read? other = some register →
      (bareName text).map readCapital = (bareName other).map readCapital) ∧
    (∀ operand, Operand.readRegister text = .ok operand ↔
      ∃ name register, trim text = '%' :: name ∧ name.map readCapital = register.name ∧
        operand = ⟨'%' :: name, .register register, .register⟩) ∧
    (∀ error register, Operand.readComponent error text = .ok (some register) ↔
      text.head? = some '%' ∧ (bareName text).map readCapital = register.name) ∧
    (∀ operand reference, Operand.readMemory text = .ok operand →
      operand.form = .memory reference → ∀ register : Register,
        reference.base = some register ∨ reference.index = some register → register.NamedIn text) ∧
    ∃ records, analyze text = .ok records ∧ ∀ record ∈ records, ∀ instruction,
      decode record = .instruction instruction → ∀ register ∈ instruction.registers,
        ∃ operand ∈ record.operands, ∃ name,
          operand.text = '%' :: name ∧ name.map readCapital = register.name := by
  refine ⟨Register.read_iff text, Register.read_ascii_iff text, ?_, Operand.readRegister_iff text,
    fun error => Operand.readComponent_iff error text, ?_, ?_⟩
  · intro other register here there
    rw [(Register.read_iff text register).mp here, (Register.read_iff other register).mp there]
  · intro operand reference read memory register named
    obtain ⟨base, index⟩ := Operand.readMemory_named read memory
    exact named.elim (base register) (index register)
  · obtain ⟨records, analyzed, suits⟩ := operands_well_formed text
    refine ⟨records, analyzed, fun record member instruction decoded register among => ?_⟩
    obtain ⟨operation, executable⟩ := decode_executable record instruction decoded
    obtain ⟨operand, given, form⟩ := executable.taken.register_operand register among
    exact ⟨operand, given, (suits record member operand given).spelled executable.statement.2 form⟩

/-- Names and an index with one of these letters or both, and a register that is pushed. -/
theorem register_names_spelled_mixed :
    let address : Text := "8(%ebx, %Eſı,4)"
    (bareName " %ESı").map readCapital = (bareName "eſi").map readCapital ∧
      (∃ operand reference, Operand.readMemory address = .ok operand ∧
        operand.form = .memory reference ∧ reference.index = some (.long .esi) ∧
        (Register.long .esi).NamedIn address) ∧
      ∃ record, analyze "push %eCx" = .ok [record] ∧
        decode record = .instruction (.push (.register .ecx)) ∧
        ∃ operand ∈ record.operands, ∃ name,
          operand.text = '%' :: name ∧ name.map readCapital = GeneralRegister.ecx.name := by
  intro address
  refine ⟨?_, ?_, ?_⟩
  · obtain ⟨_, _, same, _⟩ := register_names_spelled " %ESı"
    exact same "eſi" (.long .esi) (by decide +kernel) (by decide +kernel)
  · let reference : MemoryReference :=
      ⟨none, some 8, some (.long .ebx), some (.long .esi), some .four, false⟩
    have read : Operand.readMemory address =
        .ok ⟨address, .memory reference, .baseIndexDisplacement⟩ := by decide +kernel
    obtain ⟨_, _, _, _, _, memory, _⟩ := register_names_spelled address
    exact ⟨_, reference, read, rfl, rfl, memory _ reference read rfl _ (.inr rfl)⟩
  · obtain ⟨_, _, _, _, _, _, _, analyzed, each⟩ := register_names_spelled "push %eCx"
    cases analyzed
    have decoded := each _ List.mem_cons_self (.push (.register .ecx)) (by decide)
    exact ⟨_, rfl, by decide, decoded .ecx (by decide)⟩

/-- The long s makes a name of what is none in ASCII letters. -/
theorem long_s_names_register :
    Register.read? "%eſp" = some (.long .esp) ∧
      ∀ register : Register, (bareName "%eſp").map Char.toUpper ≠ register.name := by
  refine ⟨by decide +kernel, fun register => ?_⟩
  have each : ∀ register ∈ Register.all, (bareName "%eſp").map Char.toUpper ≠ register.name := by
    decide
  exact each register register.mem_all

end AttAssembly
