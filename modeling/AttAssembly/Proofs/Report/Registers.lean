import AttAssembly.Proofs.Word.Views
import AttAssembly.Report.Registers

/-!
The dump of a machine and what can be told from it. Every line stands at a place of its own, the
registers first, then the flags, then the stack, so two dumps are compared line by line. A register
line and a stack line show words in eight hexadecimal digits: they tell the words apart, and nothing
else of the integers that have them.
-/

namespace AttAssembly

theorem hex32_length (x : Int) : (hex32 x).length = 10 := by
  rw [hex32, List.length_append, hexDigits, fixedDigits_length]
  rfl

section Lines

variable (register : GeneralRegister) (x y : Int)

theorem registerLine_eq_iff : registerLine register x = registerLine register y ↔
    x ≡ y [ZMOD 2 ^ 32] := by
  constructor
  · intro same
    simp only [registerLine, List.append_assoc, List.append_cancel_left_eq] at same
    -- Both words take ten places, so they end at the same one.
    have widths : (hex32 x).length = (hex32 y).length := by rw [hex32_length, hex32_length]
    exact (hex32_eq_iff x y).mp (List.append_inj same widths).1
  · intro congruent
    rw [registerLine, registerLine, wordView_of_congruent congruent]

theorem flagDigit_eq_iff (first second : Bool) :
    flagDigit first = flagDigit second ↔ first = second := by
  cases first <;> cases second <;> decide

theorem flagLine_eq_iff (first second : Machine) : flagLine first = flagLine second ↔
    first.zero = second.zero ∧ first.sign = second.sign := by
  have width (flag : Bool) : (flagDigit flag).length = 1 := by cases flag <;> rfl
  simp only [flagLine, List.append_assoc, List.append_cancel_left_eq]
  constructor
  · intro same
    obtain ⟨zero, later⟩ := List.append_inj same (by rw [width, width])
    have sign := List.append_cancel_left later
    exact ⟨(flagDigit_eq_iff _ _).mp zero, (flagDigit_eq_iff _ _).mp sign⟩
  · rintro ⟨zero, sign⟩
    rw [zero, sign]

theorem stackLine_eq_iff (address other : Int) : stackLine address x = stackLine other y ↔
    address ≡ other [ZMOD 2 ^ 32] ∧ x ≡ y [ZMOD 2 ^ 32] := by
  rw [← hex32_eq_iff, ← hex32_eq_iff]
  constructor
  · intro same
    simp only [stackLine, List.append_assoc, List.append_cancel_left_eq] at same
    obtain ⟨address, later⟩ := List.append_inj same (by rw [hex32_length, hex32_length])
    exact ⟨address, List.append_cancel_left later⟩
  · rintro ⟨address, value⟩
    rw [stackLine, stackLine, address, value]

end Lines

section Stacks

theorem stackLines_length (address : Int) (stack : List Int) :
    (stackLines address stack).length = stack.length := by
  induction stack generalizing address with
  | nil => rfl
  | cons value rest ih => simp [stackLines, ih]

/-- The values of a stack stand four bytes apart, going up from the top. -/
theorem stackLines_getElem (address : Int) (stack : List Int) (depth : Nat) :
    (stackLines address stack)[depth]? =
      stack[depth]?.map fun value => stackLine (address + 4 * depth) value := by
  induction stack generalizing address depth with
  | nil => rfl
  | cons value rest ih =>
      cases depth with
      | zero => simp [stackLines]
      | succ depth =>
          have next : address + Machine.wordSize + 4 * depth = address + 4 * (depth + 1 : Nat) := by
            rw [Machine.wordSize]
            push_cast
            ring
          rw [stackLines, List.getElem?_cons_succ, List.getElem?_cons_succ, ih, next]

/-- Values that 32 bits do not tell apart. -/
def SameWord (x y : Int) : Prop := x ≡ y [ZMOD 2 ^ 32]

theorem stackLines_eq_iff {address other : Int} (pointers : address ≡ other [ZMOD 2 ^ 32])
    (first second : List Int) :
    stackLines address first = stackLines other second ↔ List.Forall₂ SameWord first second := by
  induction first generalizing address other second with
  | nil => cases second <;> simp [stackLines]
  | cons value rest ih =>
      cases second with
      | nil => simp [stackLines]
      | cons another others =>
          have next := pointers.add_right Machine.wordSize
          rw [stackLines, stackLines, List.cons.injEq, stackLine_eq_iff, ih next,
            List.forall₂_cons]
          exact and_congr_left' (and_iff_right pointers)

end Stacks

theorem GeneralRegister.mem_all (register : GeneralRegister) : register ∈ GeneralRegister.all := by
  cases register <;> decide

/-- Machines that hold the same words, and the same flags. -/
structure Machine.SameWords (first second : Machine) : Prop where
  registers (register : GeneralRegister) : SameWord (first.get register) (second.get register)
  zero : first.zero = second.zero
  sign : first.sign = second.sign
  stack : List.Forall₂ SameWord first.stack second.stack

theorem registerLines_eq_iff (first second : Machine) :
    registerLines first = registerLines second ↔ first.SameWords second := by
  constructor
  · intro same
    obtain ⟨registers, others⟩ := List.append_inj same (by simp)
    obtain ⟨flags, stack⟩ := List.cons.inj others
    have words (register : GeneralRegister) : SameWord (first.get register) (second.get register) :=
      (registerLine_eq_iff register _ _).mp
        (List.map_inj_left.mp registers register register.mem_all)
    obtain ⟨zero, sign⟩ := (flagLine_eq_iff first second).mp flags
    exact ⟨words, zero, sign, (stackLines_eq_iff (words .esp) _ _).mp stack⟩
  · intro same
    have registers :
        GeneralRegister.all.map (fun register => registerLine register (first.get register)) =
          GeneralRegister.all.map fun register => registerLine register (second.get register) :=
      List.map_congr_left fun register _ =>
        (registerLine_eq_iff register _ _).mpr (same.registers register)
    have flags := (flagLine_eq_iff first second).mpr ⟨same.zero, same.sign⟩
    have stack := (stackLines_eq_iff (same.registers .esp) _ _).mpr same.stack
    rw [registerLines, registerLines, registers, flags, stack]

/-- The stack comes after eight registers and the flags. -/
theorem registerLines_stack (machine : Machine) (depth : Nat) :
    (registerLines machine)[9 + depth]? =
      machine.stack[depth]?.map fun value => stackLine (machine.get .esp + 4 * depth) value := by
  have front : (GeneralRegister.all.map fun register =>
      registerLine register (machine.get register)).length = 8 := by
    rw [List.length_map]
    rfl
  have place : 9 + depth - 8 = depth + 1 := by omega
  rw [registerLines, List.getElem?_append_right (by omega), front, place, List.getElem?_cons_succ,
    stackLines_getElem]

/-- A dump tells the words and the flags of a machine and nothing more. The line of a stack value
    has the word of its address, which is as far above the stack pointer as the value is below the
    top, and the word of the value. -/
theorem dump_tells_words (first second : Machine) :
    (registerLines first = registerLines second ↔ first.SameWords second) ∧
      (registerLines first).length = 9 + first.stack.length ∧
      (∀ depth : Nat, (registerLines first)[9 + depth]? =
        first.stack[depth]?.map fun value =>
          "[" ++ hex32 (first.get .esp + 4 * depth) ++ "] " ++ hex32 value) ∧
      ∀ x : Int, number? (hex32 x) = some (x % 2 ^ 32) := by
  refine ⟨registerLines_eq_iff first second, ?_, registerLines_stack first, fun x => ?_⟩
  · have registers : GeneralRegister.all.length = 8 := rfl
    rw [registerLines, List.length_append, List.length_map, List.length_cons, stackLines_length,
      registers]
    omega
  · rw [number_hex32, lowWord_cast]

end AttAssembly
