import AttAssembly.Analysis
import AttAssembly.Diagnostic
import AttAssembly.Execution.Instruction
/-!
Execution of records from first to last, each once. A record is skipped, rejected or executed; a
rejected one leaves the machine as it was, and the next record is taken. What is reported and what
is logged is read off the outcomes.
-/
namespace AttAssembly

/-- What an instruction did. A value that is only handed on may be missing. -/
inductive Effect where
  | moved (value : Option Int) (register : GeneralRegister)
  | computed (value : Int) (register : GeneralRegister)
  | pushed (value : Option Int)
  | popped (value : Option Int) (register : GeneralRegister)
  | idle
  | interrupted (vector : Option Text)
  deriving DecidableEq, Repr

/-- A missing value is written as an empty pair of brackets. -/
def handedText : Option Int → Text
  | some value => decimal value
  | none => "[]"

namespace Effect

def description : Effect → Text
  | moved value register => "moved " ++ handedText value ++ " into " ++ register.name
  | computed value register => "result in " ++ register.name ++ ": " ++ decimal value
  | pushed value => "pushed value " ++ handedText value
  | popped value register =>
      "popped " ++ handedText value ++ " from the stack into " ++ register.name
  | idle => "no operation"
  | interrupted none => "interrupt simulated (no effect)"
  | interrupted (some vector) => "interrupt " ++ vector ++ " simulated (no effect)"

/-- The number in the description. -/
def value? : Effect → Option Int
  | moved value _ | pushed value | popped value _ => value
  | computed value _ => some value
  | idle | interrupted _ => none

def isWritable (effect : Effect) : Bool := effect.value?.all writable

/-- A result that 32 bits do not hold, with or without a sign. -/
def overflow? : Effect → Option Int
  | computed value _ => if fits32 value then none else some value
  | _ => none

end Effect

def Source.value (source : Source) (machine : Machine) : Int :=
  match source with
  | .number literal => literal
  | .register holder => machine.get holder

def Arithmetic.apply : Arithmetic → Int → Int → Int
  | .add, current, operand => current + operand
  | .sub, current, operand => current - operand

/-- Carries an instruction out. Only a pop from an empty stack cannot be. A move to the stack
    pointer empties the stack; a computed or popped stack pointer does not. -/
def Instruction.run (machine : Machine) : Instruction → Option (Machine × Effect)
  | .move source destination =>
      let value := source.value machine
      let next := if destination = .esp then machine.rebase value else machine.set destination value
      some (next, .moved (some value) destination)
  | .compute arithmetic source destination =>
      let result := arithmetic.apply (machine.get destination) (source.value machine)
      some ((machine.set destination result).setFlags result, .computed result destination)
  | .push source =>
      let value := source.value machine
      some (machine.push value, .pushed (some value))
  | .pop destination =>
      machine.pop?.map fun (value, next) =>
        (next.set destination value, .popped (some value) destination)
  | .idle => some (machine, .idle)
  | .interrupt vector => some (machine, .interrupted vector)

structure LogEntry where
  line : Int
  source : Text
  effect : Effect
  deriving DecidableEq, Repr

inductive Outcome where
  | skipped
  | rejected (line : Int) (causes : List Rejection)
  | executed (entry : LogEntry)
  deriving DecidableEq, Repr

namespace Outcome

/-- A rejected record is reported once for each cause, an executed one only if its result is too
    large. -/
def diagnostics (file : Option Text) : Outcome → List Diagnostic
  | skipped => []
  | rejected line causes =>
      causes.map fun cause => ⟨.error, cause.message, some line, cause.hint?, file⟩
  | executed entry =>
      match entry.effect.overflow? with
      | none => []
      | some value =>
          [⟨.warning, "result " ++ decimal value ++ " does not fit in 32 bits", some entry.line,
            none, file⟩]

def log? : Outcome → Option LogEntry
  | executed entry => some entry
  | _ => none

end Outcome

/-- What an instruction did is written down at once, so the run ends where it cannot be written. -/
def step (machine : Machine) (record : Record) : Except Fault (Machine × Outcome) :=
  match decode record with
  | .skipped => .ok (machine, .skipped)
  | .rejected causes => .ok (machine, .rejected record.line causes)
  | .faulty fault => .error fault
  | .instruction instruction =>
      match instruction.run machine with
      | some (next, effect) =>
          if effect.isWritable then .ok (next, .executed ⟨record.line, record.source, effect⟩)
          else .error .tooManyDigits
      | none => .ok (machine, .rejected record.line [.emptyStack])

/-- The machine at the end and the outcome of every record. -/
structure Run where
  machine : Machine
  outcomes : List Outcome
  deriving DecidableEq, Repr

namespace Run

def diagnostics (run : Run) (file : Option Text) : List Diagnostic :=
  run.outcomes.flatMap (·.diagnostics file)

def log (run : Run) : List LogEntry := run.outcomes.filterMap (·.log?)

end Run

def execute (machine : Machine) : List Record → Except Fault Run
  | [] => .ok ⟨machine, []⟩
  | record :: rest => do
      let (next, outcome) ← step machine record
      let run ← execute next rest
      return ⟨run.machine, outcome :: run.outcomes⟩

/-- The run of the first record, of the first two, and so on to all of them. -/
def partialRuns (machine : Machine) (records : List Record) : Except Fault (List Run) :=
  (List.range records.length).mapM fun count => execute machine (records.take (count + 1))

/-- Analyses a text and executes it on a new machine. -/
def simulate (text : Text) (stackBase : Int) : Except Fault Run := do
  execute (.initial stackBase) (← analyze text)

end AttAssembly
