import Mathlib
import AttAssembly.Execution.Run
import AttAssembly.Proofs.Operand.Forms

/-!
What a record has to be for an instruction to come out of it: neither a label nor a directive, free
of errors, without a repeat prefix, and with a mnemonic and operands that can be carried out.
-/

namespace AttAssembly

theorem fullRegister_iff (register : Register) (holder : GeneralRegister) :
    fullRegister register = .ok holder ↔ register = .long holder := by
  cases register <;> simp [fullRegister]

theorem destinationOf_iff (operation : Operation) (operand : Operand) (holder : GeneralRegister) :
    destinationOf operation operand = .ok holder ↔ operand.form = .register (.long holder) := by
  rw [destinationOf]
  cases operand.form <;> simp [fullRegister_iff]

theorem sourceOf_iff (operand : Operand) (source : Source) :
    sourceOf operand = .ok source ↔
      (∃ holder, operand.form = .register (.long holder) ∧ source = .register holder) ∨
        ∃ value, operand.form = .immediate (.number value) ∧ source = .number value := by
  rw [sourceOf]
  cases operand.form with
  | register register => cases register <;> simp [fullRegister, Except.map, eq_comm]
  | immediate value => cases value <;> simp [eq_comm]
  | _ => simp

namespace Operation

theorem name_of_ofName (name : Text) (operation : Operation)
    (found : ofName? name = some operation) : operation.name = name := by
  simpa using List.find?_some found

/-- The operands that an operation can be carried out on, with the instruction they make. -/
inductive Takes : Operation → List Operand → Instruction → Prop
  | move {given target : Operand} {source : Source} {destination : GeneralRegister}
      (read : sourceOf given = .ok source)
      (written : target.form = .register (.long destination)) :
      Takes .move [given, target] (.move source destination)
  | compute {arithmetic : Arithmetic} {given target : Operand} {source : Source}
      {destination : GeneralRegister} (read : sourceOf given = .ok source)
      (written : target.form = .register (.long destination)) :
      Takes (.compute arithmetic) [given, target] (.compute arithmetic source destination)
  | push {given : Operand} {others : List Operand} {source : Source}
      (read : sourceOf given = .ok source) : Takes .push (given :: others) (.push source)
  | pop {target : Operand} {others : List Operand} {destination : GeneralRegister}
      (written : target.form = .register (.long destination)) :
      Takes .pop (target :: others) (.pop destination)
  | idle (operands : List Operand) : Takes .idle operands .idle
  | interrupt (operands : List Operand) :
      Takes .interrupt operands (.interrupt (operands.head?.map (·.text)))

end Operation

theorem ofExcept_iff (reading : Except Rejection Instruction) (instruction : Instruction) :
    Decoded.ofExcept reading = .instruction instruction ↔ reading = .ok instruction := by
  cases reading <;> simp [Decoded.ofExcept]

theorem decodeOperands_takes (operation : Operation) (operands : List Operand)
    (instruction : Instruction)
    (decoded : decodeOperands operation operands = .instruction instruction) :
    operation.Takes operands instruction := by
  rw [decodeOperands.eq_def] at decoded
  split at decoded
  · obtain ⟨destination, written, rest⟩ := (bind_ok_iff _ _ _).mp ((ofExcept_iff _ _).mp decoded)
    obtain ⟨source, read, same⟩ := (bind_ok_iff _ _ _).mp rest
    cases same
    exact .move read ((destinationOf_iff _ _ _).mp written)
  · obtain ⟨destination, written, rest⟩ := (bind_ok_iff _ _ _).mp ((ofExcept_iff _ _).mp decoded)
    obtain ⟨source, read, same⟩ := (bind_ok_iff _ _ _).mp rest
    cases same
    exact .compute read ((destinationOf_iff _ _ _).mp written)
  · obtain ⟨source, read, same⟩ := (bind_ok_iff _ _ _).mp ((ofExcept_iff _ _).mp decoded)
    cases same
    exact .push read
  · obtain ⟨destination, written, same⟩ := (bind_ok_iff _ _ _).mp ((ofExcept_iff _ _).mp decoded)
    cases same
    exact .pop ((destinationOf_iff _ _ _).mp written)
  · cases decoded
    exact .idle _
  · cases decoded
    exact .interrupt _
  · cases decoded

theorem Operation.Takes.decoded {operation : Operation} {operands : List Operand} {instruction : Instruction}
    (taken : operation.Takes operands instruction) :
    decodeOperands operation operands = .instruction instruction := by
  cases taken with
  | move read written | compute read written =>
      simp only [decodeOperands, (destinationOf_iff _ _ _).mpr written, read]
      rfl
  | push read =>
      simp only [decodeOperands, read]
      rfl
  | pop written =>
      simp only [decodeOperands, (destinationOf_iff _ _ _).mpr written]
      rfl
  | idle | interrupt => rfl

/-- Operands are never passed over, and are refused for one cause at a time. -/
theorem decodeOperands_cases (operation : Operation) (operands : List Operand) :
    (∃ fault, decodeOperands operation operands = .faulty fault) ∨
      (∃ cause, decodeOperands operation operands = .rejected [cause]) ∨
        ∃ instruction, decodeOperands operation operands = .instruction instruction := by
  have one_cause (reading : Except Rejection Instruction) :
      (∃ cause, Decoded.ofExcept reading = .rejected [cause]) ∨
        ∃ instruction, Decoded.ofExcept reading = .instruction instruction := by
    cases reading with
    | error cause => exact .inl ⟨cause, rfl⟩
    | ok instruction => exact .inr ⟨instruction, rfl⟩
  rw [decodeOperands.eq_def]
  split
  · exact .inr (one_cause _)
  · exact .inr (one_cause _)
  · exact .inr (one_cause _)
  · exact .inr (one_cause _)
  · exact .inr (.inr ⟨.idle, rfl⟩)
  · exact .inr (.inr ⟨.interrupt _, rfl⟩)
  · exact .inl ⟨_, rfl⟩

/-- Everything that a record can be decoded to. -/
inductive DecodedAs (record : Record) : Decoded → Prop
  | skipped (other : record.category = .label ∨ record.category = .directive) :
      DecodedAs record .skipped
  | structural (statement : ¬ (record.category = .label ∨ record.category = .directive))
      (faulty : record.errors ≠ []) : DecodedAs record (.rejected (record.errors.map .structural))
  | unsupported (statement : ¬ (record.category = .label ∨ record.category = .directive))
      (clean : record.errors = []) : DecodedAs record (.rejected [.unsupported (statementName record)])
  | operands {operation : Operation}
      (statement : ¬ (record.category = .label ∨ record.category = .directive))
      (clean : record.errors = []) (named : operation.name = record.mnemonic)
      (single : record.repetition = none) :
      DecodedAs record (decodeOperands operation record.operands)

theorem decode_decodedAs (record : Record) : DecodedAs record (decode record) := by
  rw [decode]
  split
  · next other => exact .skipped other
  · next statement =>
      split
      · next faulty => exact .structural statement faulty
      · next clean =>
          split
          · next operation found single =>
              exact .operands statement (not_not.mp clean)
                (Operation.name_of_ofName _ operation found) single
          · exact .unsupported statement (not_not.mp clean)

/-- A record that an instruction comes out of. -/
structure Record.Executable (record : Record) (operation : Operation)
    (instruction : Instruction) : Prop where
  statement : record.category ≠ .label ∧ record.category ≠ .directive
  clean : record.errors = []
  single : record.repetition = none
  named : record.mnemonic = operation.name
  taken : operation.Takes record.operands instruction

theorem decode_executable (record : Record) (instruction : Instruction)
    (decoded : decode record = .instruction instruction) :
    ∃ operation, record.Executable operation instruction := by
  have reading := decode_decodedAs record
  generalize decode record = result at decoded reading
  cases reading with
  | skipped => cases decoded
  | structural => cases decoded
  | unsupported => cases decoded
  | @operands operation statement clean named single =>
      exact ⟨operation, not_or.mp statement, clean, single, named.symm,
        decodeOperands_takes _ _ _ decoded⟩

theorem decode_skipped_iff (record : Record) :
    decode record = .skipped ↔ record.category = .label ∨ record.category = .directive := by
  constructor
  · intro skipped
    have reading := decode_decodedAs record
    generalize decode record = result at skipped reading
    cases reading with
    | skipped other => exact other
    | structural => cases skipped
    | unsupported => cases skipped
    | @operands operation =>
        rcases decodeOperands_cases operation record.operands with
          ⟨_, same⟩ | ⟨_, same⟩ | ⟨_, same⟩ <;> cases same.symm.trans skipped
  · intro other
    rw [decode, if_pos other]

/-- A record is never rejected without a cause. -/
theorem decode_rejected_caused (record : Record) (causes : List Rejection)
    (decoded : decode record = .rejected causes) : causes ≠ [] := by
  have reading := decode_decodedAs record
  generalize decode record = result at decoded reading
  cases reading with
  | skipped => cases decoded
  | structural _ faulty =>
      cases decoded
      simpa using faulty
  | unsupported =>
      cases decoded
      simp
  | @operands operation =>
      rcases decodeOperands_cases operation record.operands with
        ⟨_, same⟩ | ⟨cause, same⟩ | ⟨_, same⟩ <;> cases same.symm.trans decoded
      simp

end AttAssembly
