import AttAssembly.Execution.Run
/-!
Runs that begin with no value in the stack pointer. A value that is missing can be moved, pushed and
popped, but it cannot be counted with, and none may be left at the end. What is missing does not
depend on the values that are there, so the run itself goes on as from any stack base and the gaps
are followed beside it.
-/
namespace AttAssembly

/-- What has no value: some of the registers, and those places of the stack, the top first, that are
    true. -/
structure Gaps where
  registers : List GeneralRegister
  stack : List Bool
  deriving DecidableEq, Repr

namespace Gaps

def initial : Gaps := ⟨[.esp], []⟩

def isEmpty (gaps : Gaps) : Bool := gaps.registers.isEmpty && !gaps.stack.contains true

def hasRegister (gaps : Gaps) (register : GeneralRegister) : Bool :=
  gaps.registers.contains register

def hasSource (gaps : Gaps) : Source → Bool
  | .number _ => false
  | .register holder => gaps.hasRegister holder

def set (gaps : Gaps) (register : GeneralRegister) (missing : Bool) : Gaps :=
  let others := gaps.registers.filter (· ≠ register)
  { gaps with registers := if missing then register :: others else others }

/-- The gaps after an instruction, and whether the value that it hands on is one of them. A push and
    a pop count with the stack pointer; a pop from an empty stack is not carried out. -/
def after (gaps : Gaps) : Instruction → Except Fault (Gaps × Bool)
  | .move source destination =>
      let missing := gaps.hasSource source
      let kept := if destination = .esp then [] else gaps.stack
      .ok ({ gaps with stack := kept }.set destination missing, missing)
  | .compute _ source destination =>
      if gaps.hasSource source || gaps.hasRegister destination then .error .missingValue
      else .ok (gaps, false)
  | .push source =>
      let missing := gaps.hasSource source
      if gaps.hasRegister .esp then .error .missingValue
      else .ok ({ gaps with stack := missing :: gaps.stack }, missing)
  | .pop destination =>
      match gaps.stack with
      | [] => .ok (gaps, false)
      | missing :: rest =>
          if gaps.hasRegister .esp then .error .missingValue
          else .ok ({ gaps with stack := rest }.set destination missing, missing)
  | .idle | .interrupt _ => .ok (gaps, false)

end Gaps

def Effect.withoutValue : Effect → Effect
  | moved _ register => moved none register
  | pushed _ => pushed none
  | popped _ register => popped none register
  | effect => effect

def Outcome.withoutValue : Outcome → Outcome
  | executed entry => executed { entry with effect := entry.effect.withoutValue }
  | outcome => outcome

/-- Follows the gaps along a record, and tells whether the value that it hands on is one of them. -/
def Gaps.along (gaps : Gaps) (record : Record) : Except Fault (Gaps × Bool) :=
  match decode record with
  | .instruction instruction => gaps.after instruction
  | _ => .ok (gaps, false)

/-- A missing value is noticed before anything is written down. -/
def executeWithGaps (gaps : Gaps) (machine : Machine) : List Record → Except Fault Run
  | [] => if gaps.isEmpty then .ok ⟨machine, []⟩ else .error .missingValue
  | record :: rest => do
      let (later, missing) ← gaps.along record
      let (next, outcome) ← step machine record
      let run ← executeWithGaps later next rest
      return ⟨run.machine, (if missing then outcome.withoutValue else outcome) :: run.outcomes⟩

/-- Executes records on a new machine whose stack pointer has no value. -/
def executeWithoutBase (records : List Record) : Except Fault Run :=
  executeWithGaps .initial (.initial Machine.defaultStackBase) records

end AttAssembly
