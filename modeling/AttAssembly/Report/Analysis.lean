import AttAssembly.Variable
/-!
The report of an analysis: a line per record, its errors under it, and the variables at the end.
-/
namespace AttAssembly

def flagNames (set : FlagSet) : Text :=
  if set = [] then "-" else joinWith "," (set.map (·.name))

def sizeName : Option OperandSize → Text
  | some size => [size.letter]
  | none => "inferido"

def recordLine (record : Record) : Text :=
  let label : Text := match record.label with
    | some label => label ++ ": "
    | none => []
  let repetition : Text := match record.repetition with
    | some repetition => repetition.name ++ " "
    | none => []
  padLeft 4 (decimal record.line) ++ "  " ++ label ++ repetition ++ record.mnemonic ++ " [" ++
    record.category.name ++ "/" ++ sizeName record.size ++ "] " ++ record.addressing ++
    "  reads=" ++ flagNames record.reads ++ " writes=" ++ flagNames record.writes

def errorLine (error : LineError) : Text := "      error: " ++ error.message

/-- The values are written in decimal digits, whatever they were read from. -/
def variableLine (v : Variable) : Except Fault Text :=
  if v.values.all writable then
    .ok ("var " ++ v.name ++ " " ++ v.directive ++ " " ++ joinWith ", " (v.values.map decimal))
  else .error .tooManyDigits

def analysisLines (records : List Record) : Except Fault (List Text) := do
  let declared ← (declaredVariables records).mapM variableLine
  return records.flatMap (fun record => recordLine record :: record.errors.map errorLine) ++
    declared

end AttAssembly
