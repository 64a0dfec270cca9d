import AttAssembly.Execution.Run
/-!
The debugging trace: which lines have errors, how many records there are, and what became of each
instruction that was carried out or failed on its operands.
-/
namespace AttAssembly

def analysisTraceHead : Text := "DEBUG src.ia32_asm.parser: "

def executionTraceHead : Text := "DEBUG src.ia32_asm.simulator: "

def lineHead (line : Int) : Text := "line " ++ decimal line ++ ": "

def analysisTrace (records : List Record) : List Text :=
  let faulty := records.filter (·.errors ≠ [])
  faulty.map (fun record =>
    analysisTraceHead ++ lineHead record.line ++ joinWith "; " (record.errors.map (·.message))) ++
  [analysisTraceHead ++ "analyzed " ++ decimal records.length ++ " records"]

/-- Errors of the line and instructions that are not supported were never begun. -/
def Rejection.begun : Rejection → Bool
  | .structural _ => false
  | .unsupported _ => false
  | _ => true

def Outcome.trace : Outcome → List Text
  | .skipped => []
  | .rejected line causes =>
      (causes.filter (·.begun)).map fun cause =>
        executionTraceHead ++ lineHead line ++ cause.message
  | .executed entry =>
      [executionTraceHead ++ lineHead entry.line ++ entry.source ++ " -> " ++
        entry.effect.description]

def executionTrace (run : Run) : List Text := run.outcomes.flatMap (·.trace)

end AttAssembly
