import AttAssembly.Indexing
import AttAssembly.Report.Registers
/-!
A machine that is worked by hand: requests are carried out one after another, and states can be
saved and brought back. A request that fails leaves the state as it is.
-/
namespace AttAssembly

inductive Request where
  | read (register : Text)
  | write (register : Text) (value : Int)
  | rebase (address : Int)
  | setFlags (result : Int)
  | push (value : Int)
  | pop
  | top
  | stack
  | snapshot
  | restore (index : Int)
  | dump
  deriving DecidableEq, Repr

inductive Reply where
  | nothing
  | value (value : Int)
  | values (values : List Int)
  | lines (lines : List Text)
  deriving DecidableEq, Repr

inductive RequestError where
  | noRegisterToRead (name : Text)
  | noRegisterToWrite (name : Text)
  | emptyStack
  | noTop
  | noSnapshot
  deriving DecidableEq, Repr

def RequestError.message : RequestError → Text
  | .noRegisterToRead name => name
  | .noRegisterToWrite name => "unknown register: " ++ name
  | .emptyStack => "stack is empty"
  | .noTop => "list index out of range"
  | .noSnapshot => "list index out of range"

structure Session where
  machine : Machine
  /-- The saved states, the oldest first. -/
  saved : List Machine
  deriving DecidableEq, Repr

namespace Session

def initial (stackBase : Int) : Session := ⟨.initial stackBase, []⟩

/-- The reply to a request, or why there is none, and the state that it leaves behind. -/
def answer (session : Session) : Request → Except RequestError Reply × Session
  | .read name =>
      match GeneralRegister.ofName? name with
      | some register => (.ok (.value (session.machine.get register)), session)
      | none => (.error (.noRegisterToRead name), session)
  | .write name value =>
      match GeneralRegister.ofName? name with
      | some register =>
          (.ok .nothing, { session with machine := session.machine.set register value })
      | none => (.error (.noRegisterToWrite name), session)
  | .rebase address => (.ok .nothing, { session with machine := session.machine.rebase address })
  | .setFlags result => (.ok .nothing, { session with machine := session.machine.setFlags result })
  | .push value => (.ok .nothing, { session with machine := session.machine.push value })
  | .pop =>
      match session.machine.pop? with
      | some (value, machine) => (.ok (.value value), { session with machine := machine })
      | none => (.error .emptyStack, session)
  | .top =>
      match session.machine.stack with
      | value :: _ => (.ok (.value value), session)
      | [] => (.error .noTop, session)
  | .stack => (.ok (.values session.machine.stack), session)
  | .snapshot => (.ok .nothing, { session with saved := session.saved ++ [session.machine] })
  | .restore index =>
      match itemAt? session.saved index with
      | some machine => (.ok .nothing, { session with machine := machine })
      | none => (.error .noSnapshot, session)
  | .dump => (.ok (.lines (registerLines session.machine)), session)

/-- The state after a request, answered or not. -/
def after (session : Session) (request : Request) : Session := (session.answer request).2

/-- The answer to each request with the machine after it. -/
def serve (session : Session) : List Request → List (Except RequestError Reply × Machine)
  | [] => []
  | request :: rest =>
      let next := session.after request
      ((session.answer request).1, next.machine) :: next.serve rest

end Session

end AttAssembly
