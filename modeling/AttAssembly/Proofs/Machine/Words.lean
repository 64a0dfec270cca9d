import Mathlib
import AttAssembly.Word
import AttAssembly.Proofs.Machine.State

/-!
The same machine with registers and stack values of 32 bits, in which every sum and difference
wraps. Taking the low word of an integer commutes with each operation, so a machine of words can
represent a machine of integers for good. The flags are apart: the sign of an integer is the top
bit of its word only while the integer is in the range of signed words.
-/

namespace AttAssembly

abbrev Word := BitVec 32

def wordOf (value : Int) : Word := BitVec.ofInt 32 value

def SignedRange (value : Int) : Prop := -2 ^ 31 ≤ value ∧ value ≤ 2 ^ 31 - 1

instance (value : Int) : Decidable (SignedRange value) := inferInstanceAs (Decidable (_ ∧ _))

theorem wordOf_add (first second : Int) :
    wordOf (first + second) = wordOf first + wordOf second :=
  BitVec.ofInt_add first second

theorem wordOf_sub (first second : Int) :
    wordOf (first - second) = wordOf first - wordOf second := by
  rw [sub_eq_add_neg, wordOf_add, wordOf, wordOf, BitVec.ofInt_neg, ← BitVec.sub_eq_add_neg]
  rfl

theorem lowWord_eq (value : Int) : lowWord value = (wordOf value).toNat := by
  simp [lowWord, wordOf]

theorem wordOf_toInt (value : Int) (range : SignedRange value) : (wordOf value).toInt = value := by
  obtain ⟨least, most⟩ := range
  exact BitVec.toInt_ofInt_eq_self (by decide) (by omega) (by omega)

theorem wordOf_eq_zero_iff (value : Int) (range : SignedRange value) :
    wordOf value = 0 ↔ value = 0 := by
  constructor
  · intro zero
    have read := wordOf_toInt value range
    rw [zero] at read
    exact read.symm
  · rintro rfl
    rfl

theorem wordOf_msb (value : Int) (range : SignedRange value) :
    (wordOf value).msb = decide (value < 0) := by
  rw [BitVec.msb_eq_toInt, wordOf_toInt value range]

structure WordMachine where
  registers : GeneralRegister → Word
  zero : Bool
  sign : Bool
  /-- The top comes first. -/
  stack : List Word

namespace WordMachine

def initial (stackBase : Int) : WordMachine where
  registers register := if register = .esp then wordOf stackBase else 0
  zero := false
  sign := false
  stack := []

def set (machine : WordMachine) (register : GeneralRegister) (word : Word) : WordMachine :=
  { machine with registers := Function.update machine.registers register word }

def rebase (machine : WordMachine) (address : Word) : WordMachine :=
  { machine.set .esp address with stack := [] }

def setFlags (machine : WordMachine) (result : Word) : WordMachine :=
  { machine with zero := decide (result = 0), sign := result.msb }

def push (machine : WordMachine) (word : Word) : WordMachine :=
  { machine.set .esp (machine.registers .esp - 4) with stack := word :: machine.stack }

def pop? (machine : WordMachine) : Option (Word × WordMachine) :=
  match machine.stack with
  | [] => none
  | word :: rest =>
      some (word, { machine.set .esp (machine.registers .esp + 4) with stack := rest })

/-- Registers and stack hold the low words of the machine's. -/
structure Represents (words : WordMachine) (machine : Machine) : Prop where
  registers (register : GeneralRegister) : words.registers register = wordOf (machine.get register)
  stack : words.stack = machine.stack.map wordOf

structure FlagsAgree (words : WordMachine) (machine : Machine) : Prop where
  zero : words.zero = machine.zero
  sign : words.sign = machine.sign

theorem initial_represents (stackBase : Int) :
    (initial stackBase).Represents (.initial stackBase) where
  registers register := by cases register <;> rfl
  stack := rfl

theorem initial_flags (stackBase : Int) : (initial stackBase).FlagsAgree (.initial stackBase) :=
  ⟨rfl, rfl⟩

section Operations

variable {words : WordMachine} {machine : Machine}

namespace Represents

variable (same : words.Represents machine)
include same

theorem set (register : GeneralRegister) (value : Int) :
    (words.set register (wordOf value)).Represents (machine.set register value) where
  registers read := by
    rw [Machine.get_set]
    by_cases written : read = register
    · simp [WordMachine.set, written]
    · simp [WordMachine.set, written, same.registers]
  stack := same.stack

theorem rebase (address : Int) :
    (words.rebase (wordOf address)).Represents (machine.rebase address) where
  registers := (same.set .esp address).registers
  stack := rfl

theorem setFlags (result : Int) :
    (words.setFlags (wordOf result)).Represents (machine.setFlags result) where
  registers := same.registers
  stack := same.stack

theorem push (value : Int) : (words.push (wordOf value)).Represents (machine.push value) where
  registers := by
    have lowered : words.registers .esp - 4 = wordOf (machine.get .esp - Machine.wordSize) := by
      rw [same.registers, wordOf_sub]
      rfl
    rw [WordMachine.push, lowered]
    exact (same.set .esp _).registers
  stack := by simp [WordMachine.push, same.stack]

theorem pop_none (empty : machine.pop? = none) : words.pop? = none := by
  have stack := same.stack
  rw [(machine.pop_none_iff).mp empty] at stack
  simp [pop?, stack]

theorem pop_some (value : Int) (next : Machine) (popped : machine.pop? = some (value, next)) :
    ∃ after, words.pop? = some (wordOf value, after) ∧ after.Represents next ∧
      after.zero = words.zero ∧ after.sign = words.sign := by
  obtain ⟨top, _, _, registers⟩ := machine.pop_some value next popped
  have stack := same.stack
  rw [top, List.map_cons] at stack
  refine ⟨{ words.set .esp (words.registers .esp + 4) with stack := next.stack.map wordOf },
    by simp [pop?, stack], ⟨fun register => ?_, rfl⟩, rfl, rfl⟩
  have raised : words.registers .esp + 4 = wordOf (machine.get .esp + Machine.wordSize) := by
    rw [same.registers, wordOf_add]
    rfl
  rw [registers register, ← Machine.get_set, raised]
  exact (same.set .esp _).registers register

end Represents

theorem setFlags_agree (words : WordMachine) (machine : Machine) (result : Int)
    (range : SignedRange result) :
    (words.setFlags (wordOf result)).FlagsAgree (machine.setFlags result) where
  zero := decide_eq_decide.mpr (wordOf_eq_zero_iff result range)
  sign := wordOf_msb result range

end Operations

end WordMachine

end AttAssembly
