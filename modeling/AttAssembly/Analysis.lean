import AttAssembly.Line.Reader
/-!
The analysis of a whole text: one record for each physical line that holds anything, in order. Lines
end at a line feed, with or without a carriage return before it, and at nothing else.
-/
namespace AttAssembly

def dropReturn (line : Text) : Text :=
  if line.getLast? = some '\r' then line.dropLast else line

/-- Every line but the last ends at a line feed, and the carriage return before that goes with it. -/
def endAtFeeds (line : Text) : List Text → List Text
  | [] => [line]
  | next :: others => dropReturn line :: endAtFeeds next others

def physicalLines (text : Text) : List Text :=
  let (first, others) := splitWhere (· = '\n') text
  endAtFeeds first others

def analyzeFrom (line : Int) : List Text → Except Fault (List Record)
  | [] => .ok []
  | text :: rest => do
      let record ← analyzeLine text line
      let records ← analyzeFrom (line + 1) rest
      return record.toList ++ records

/-- The records of a text, its lines counted from one. -/
def analyze (text : Text) : Except Fault (List Record) := analyzeFrom 1 (physicalLines text)

/-- Every error with its line, in order. -/
def structuralErrors (records : List Record) : List (Int × LineError) :=
  records.flatMap fun record => record.errors.map fun error => (record.line, error)

end AttAssembly
