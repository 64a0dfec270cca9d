import AttAssembly.CommandLine.Command
/-!
The command line on the disk of the computer it runs on. Reading, writing and printing happen here;
everything that is read or written is worked out elsewhere.
-/
namespace AttAssembly.Main

def usageLine : String := "usage: att-assembly [-h] [-v] (analyze | run) ...\n"

def helpText : String :=
  usageLine ++ "  analyze [--out OUT] source\n  run [--stack-base STACK_BASE] [--out OUT] source\n"

/-- The number of a failure. Some failures carry it negated. -/
def errorCode? : IO.Error → Option UInt32
  | .noFileOrDirectory _ code _ => some code
  | .inappropriateType _ code _ => some code
  | .invalidArgument _ code _ => some code
  | _ => none

/-- Failures that the disk knows are worded as it words them. -/
def reasonOf (path : Text) (error : IO.Error) : Text :=
  let known := [.notFound, .notDirectory, .isDirectory, .nameTooLong].find? fun (e : FileError) =>
    errorCode? error = some (UInt32.ofNat e.code) ∨ errorCode? error = some (-UInt32.ofNat e.code)
  match known with
  | some fileError => fileError.message path
  | none => toString error

def finish (completion : Completion) : IO UInt32 := do
  IO.print (String.ofList completion.output)
  IO.eprint (String.ofList completion.errors)
  return UInt32.ofNat completion.exitCode

def abandon (fault : CommandFault) : IO UInt32 := do
  let reason := match fault with
    | .work (.brokenDisplacement _) => "a displacement is broken over two lines"
    | .work (.missingOperand _) => "an instruction lacks an operand"
    | .work .missingValue => "a value is missing"
    | .work .tooManyDigits => String.ofList (tooManyDigitsMessage none)
    | .undecodable => "the source is not encoded text"
    | .zeroInPath => "a path holds the code point zero"
  IO.eprintln reason
  return 1

/-- Carries the work out on the computer. -/
def carryOut : Task → IO UInt32
  | .finish completion => finish completion
  | .abandon fault => abandon fault
  | .read path next => do
      let held ← (IO.FS.readBinFile (String.ofList path)).toBaseIO
      carryOut (next (held.mapError (reasonOf path)))
  | .write path content next => do
      let written ← (IO.FS.writeBinFile (String.ofList path) content).toBaseIO
      carryOut (next (written.mapError (reasonOf path)))

end AttAssembly.Main

open AttAssembly AttAssembly.Main in
def main (arguments : List String) : IO UInt32 := do
  match readArguments .earlier (arguments.map String.toList) with
  | .error .help => IO.print helpText; return 0
  | .error .usage => IO.eprint usageLine; return 2
  | .ok invocation => carryOut invocation.task
