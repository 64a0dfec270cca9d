import AttAssembly.CommandLine.Arguments
import AttAssembly.CommandLine.Disk
import AttAssembly.Execution.Gaps
import AttAssembly.Report.Analysis
import AttAssembly.Report.Simulation
import AttAssembly.Report.Trace
/-!
The program as a function from arguments and a disk to what it prints, its exit code and the disk
after it. The report is worked out before anything is written, so a report may go over its source.
What a command does is a task, which is carried out on a disk here and on the computer elsewhere.
-/
namespace AttAssembly

/-- What ends the program without an exit code of its own. -/
inductive CommandFault where
  | work (fault : Fault)
  /-- The source is not encoded text. -/
  | undecodable
  /-- A path holds the code point zero. -/
  | zeroInPath
  deriving DecidableEq, Repr

/-- Every line end becomes a single line feed. -/
def unifyLineEnds : Text → Text
  | [] => []
  | '\r' :: '\n' :: rest => '\n' :: unifyLineEnds rest
  | '\r' :: rest => '\n' :: unifyLineEnds rest
  | c :: rest => c :: unifyLineEnds rest

def decodeSource (content : ByteArray) : Except CommandFault Text :=
  match String.fromUTF8? content with
  | some text => .ok (unifyLineEnds text.toList)
  | none => .error .undecodable

def encodeText (text : Text) : ByteArray := (String.ofList text).toUTF8

/-- Every line with a line feed after it. -/
def unlines (lines : List Text) : Text := lines.flatMap (· ++ ['\n'])

/-- What a command has to say about a source. -/
structure Report where
  lines : List Text
  trace : List Text
  /-- Errors were found. -/
  failed : Bool
  deriving DecidableEq, Repr

def reportOf (invocation : Invocation) (source : Text) : Except Fault Report := do
  let records ← analyze source
  match invocation.command with
  | .analyze =>
      return ⟨← analysisLines records, analysisTrace records, structuralErrors records ≠ []⟩
  | .run =>
      let run ← match invocation.stackBase with
        | some base => execute (.initial base) records
        | none => executeWithoutBase records
      let file := some invocation.source
      return ⟨simulationLines run file, analysisTrace records ++ executionTrace run,
        hasErrors (run.diagnostics file)⟩

/-- What the program leaves behind. -/
structure Completion where
  exitCode : Nat
  output : Text
  errors : Text
  deriving DecidableEq, Repr

/-- The source could not be read. -/
def readFailure (path reason : Text) : Completion :=
  ⟨2, [], "ERROR: no pude leer " ++ path ++ ": " ++ reason ++ "\n"⟩

namespace Report

def exitCode (report : Report) : Nat := if report.failed then 1 else 0

def traceText (report : Report) (verbose : Bool) : Text :=
  if verbose then unlines report.trace else []

def printed (report : Report) (verbose : Bool) : Completion :=
  ⟨report.exitCode, unlines report.lines, report.traceText verbose⟩

def written (report : Report) (verbose : Bool) : Completion :=
  ⟨report.exitCode, [], report.traceText verbose⟩

def notWritten (report : Report) (verbose : Bool) (path reason : Text) : Completion :=
  ⟨3, [], report.traceText verbose ++ "ERROR al escribir " ++ path ++ ": " ++ reason ++ "\n"⟩

end Report

/-- The file that a report goes to. An empty name stands for no file. -/
def Invocation.target (invocation : Invocation) : Option Text :=
  match invocation.out with
  | none | some [] => none
  | some path => some path

def checkPath (path : Text) : Except CommandFault Unit :=
  if '\x00' ∈ path then .error .zeroInPath else .ok ()

/-- The work of a command, with its looks at a disk as far as they are reached. What a read or a
    write comes to decides what is done next; a failure is told by its reason. -/
inductive Task where
  | finish (completion : Completion)
  | abandon (fault : CommandFault)
  | read (path : Text) (next : Except Text ByteArray → Task)
  | write (path : Text) (content : ByteArray) (next : Except Text Unit → Task)

namespace Task

/-- Carries the work out on a disk that is a value. -/
def onDisk (disk : Disk) : Task → Except CommandFault (Completion × Disk)
  | finish completion => .ok (completion, disk)
  | abandon fault => .error fault
  | read path next => (next ((disk.read path).mapError (·.message path))).onDisk disk
  | write path content next =>
      match disk.write path content with
      | .ok after => (next (.ok ())).onDisk after
      | .error error => (next (.error (error.message path))).onDisk disk

end Task

namespace Invocation

def delivery (invocation : Invocation) (report : Report) : Task :=
  match invocation.target with
  | none => .finish (report.printed invocation.verbose)
  | some path =>
      match checkPath path with
      | .error fault => .abandon fault
      | .ok () => .write path (encodeText (unlines report.lines)) fun written =>
          match written with
          | .ok () => .finish (report.written invocation.verbose)
          | .error reason => .finish (report.notWritten invocation.verbose path reason)

/-- What is done with the content of the source. -/
def work (invocation : Invocation) (content : ByteArray) : Task :=
  match decodeSource content with
  | .error fault => .abandon fault
  | .ok source =>
      match reportOf invocation source with
      | .error fault => .abandon (.work fault)
      | .ok report => invocation.delivery report

def task (invocation : Invocation) : Task :=
  match checkPath invocation.source with
  | .error fault => .abandon fault
  | .ok () => .read invocation.source fun held =>
      match held with
      | .error reason => .finish (readFailure invocation.source reason)
      | .ok content => invocation.work content

end Invocation

/-- How the program ends: with help, with a complaint about its arguments, or with its work. -/
inductive Ending where
  | help
  | usage
  | done (completion : Completion)
  deriving DecidableEq, Repr

def Ending.exitCode : Ending → Nat
  | .help => 0
  | .usage => 2
  | .done completion => completion.exitCode

def runProgram (edition : Edition) (disk : Disk) (arguments : List Text) :
    Except CommandFault (Ending × Disk) :=
  match readArguments edition arguments with
  | .error .help => .ok (.help, disk)
  | .error .usage => .ok (.usage, disk)
  | .ok invocation => (invocation.task.onDisk disk).map fun (completion, after) =>
      (.done completion, after)

end AttAssembly
