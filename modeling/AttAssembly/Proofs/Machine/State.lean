import Mathlib
import AttAssembly.Machine.Basic

/-!
What each operation of the machine changes and what it leaves alone. Later proofs read a machine
through its registers, its two flags and its stack, and never look inside an operation.
-/

namespace AttAssembly

theorem Registers.get_set (registers : Registers) (written read : GeneralRegister) (value : Int) :
    (registers.set written value).get read = if read = written then value else registers.get read := by
  cases written <;> cases read <;> rfl

namespace Machine

variable (machine : Machine) (written read : GeneralRegister) (value : Int)

theorem get_initial (stackBase : Int) :
    (initial stackBase).get read = if read = .esp then stackBase else 0 := by
  cases read <;> rfl

@[simp] theorem stack_initial (stackBase : Int) : (initial stackBase).stack = [] := rfl
@[simp] theorem zero_initial (stackBase : Int) : (initial stackBase).zero = false := rfl
@[simp] theorem sign_initial (stackBase : Int) : (initial stackBase).sign = false := rfl

theorem get_set :
    (machine.set written value).get read = if read = written then value else machine.get read :=
  machine.registers.get_set written read value

@[simp] theorem stack_set : (machine.set written value).stack = machine.stack := rfl
@[simp] theorem zero_set : (machine.set written value).zero = machine.zero := rfl
@[simp] theorem sign_set : (machine.set written value).sign = machine.sign := rfl

theorem get_rebase :
    (machine.rebase value).get read = if read = .esp then value else machine.get read :=
  machine.registers.get_set .esp read value

@[simp] theorem stack_rebase : (machine.rebase value).stack = [] := rfl
@[simp] theorem zero_rebase : (machine.rebase value).zero = machine.zero := rfl
@[simp] theorem sign_rebase : (machine.rebase value).sign = machine.sign := rfl

@[simp] theorem get_setFlags : (machine.setFlags value).get read = machine.get read := rfl
@[simp] theorem stack_setFlags : (machine.setFlags value).stack = machine.stack := rfl
@[simp] theorem zero_setFlags : (machine.setFlags value).zero = decide (value = 0) := rfl
@[simp] theorem sign_setFlags : (machine.setFlags value).sign = decide (value < 0) := rfl

theorem get_push : (machine.push value).get read =
    if read = .esp then machine.get .esp - wordSize else machine.get read :=
  machine.registers.get_set .esp read _

@[simp] theorem stack_push : (machine.push value).stack = value :: machine.stack := rfl
@[simp] theorem zero_push : (machine.push value).zero = machine.zero := rfl
@[simp] theorem sign_push : (machine.push value).sign = machine.sign := rfl

theorem pop_none_iff : machine.pop? = none ↔ machine.stack = [] := by
  cases stack : machine.stack <;> simp [pop?, stack]

/-- A pop takes the top off and moves the stack pointer up; nothing else changes. -/
theorem pop_some (next : Machine) (popped : machine.pop? = some (value, next)) :
    machine.stack = value :: next.stack ∧ next.zero = machine.zero ∧ next.sign = machine.sign ∧
      ∀ register, next.get register =
        if register = .esp then machine.get .esp + wordSize else machine.get register := by
  cases stack : machine.stack with
  | nil => simp [pop?, stack] at popped
  | cons top rest =>
      simp only [pop?, stack] at popped
      cases popped
      exact ⟨rfl, rfl, rfl, fun register => machine.registers.get_set .esp register _⟩

/-- A popped value is the one that was pushed last, and the machine is as it was before that. -/
theorem pop_push : (machine.push value).pop? = some (value, machine) := by
  rcases machine with ⟨registers, zero, sign, stack⟩
  simp [push, pop?, set, get, Registers.set, Registers.get]

theorem set_get : machine.set written (machine.get written) = machine := by
  cases written <;> rfl

end Machine

end AttAssembly
