import AttAssembly.Execution.Run
import AttAssembly.Report.Registers
/-!
The report of a run: what was executed, what was diagnosed, and the machine at the end.
-/
namespace AttAssembly

def logLine (entry : LogEntry) : Text :=
  padLeft 4 (decimal entry.line) ++ "  " ++ padRight 24 entry.source ++ " ; " ++
    entry.effect.description

def simulationLines (run : Run) (file : Option Text) : List Text :=
  run.log.map logLine ++ (run.diagnostics file).map (·.render) ++ registerLines run.machine

end AttAssembly
