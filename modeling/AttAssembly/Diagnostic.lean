import AttAssembly.Text.LetterCase
/-!
Diagnostics: what is reported about a run, with the place it belongs to and a hint where there is
one.
-/
namespace AttAssembly

inductive Severity where
  | error
  | warning
  | other (name : Text)
  deriving DecidableEq, Repr

namespace Severity

def name : Severity → Text
  | error => "error"
  | warning => "warning"
  | other name => name

def ofName (name : Text) : Severity :=
  if name = ("error" : Text) then error
  else if name = ("warning" : Text) then warning
  else other name

/-- The word in front of the message. -/
def heading : Severity → Text
  | error => "ERROR"
  | warning => "WARNING"
  | other name => upper name

end Severity

structure Diagnostic where
  severity : Severity
  message : Text
  line : Option Int
  hint : Option Text
  file : Option Text
  deriving DecidableEq, Repr

namespace Diagnostic

/-- File and line, each if it is known. The file keeps its colon when the line is missing. -/
def location (diagnostic : Diagnostic) : Text :=
  let file : Text := match diagnostic.file with
    | some file => file ++ ":"
    | none => []
  let line : Text := match diagnostic.line with
    | some line => decimal line
    | none => []
  if file ++ line = [] then [] else file ++ line ++ ": "

/-- An empty hint is not shown. -/
def hintText (diagnostic : Diagnostic) : Text :=
  match diagnostic.hint with
  | none | some [] => []
  | some hint => "  (hint: " ++ hint ++ ")"

def render (diagnostic : Diagnostic) : Text :=
  diagnostic.location ++ diagnostic.severity.heading ++ ": " ++ diagnostic.message ++
    diagnostic.hintText

end Diagnostic

def hasErrors (diagnostics : List Diagnostic) : Bool := diagnostics.any (·.severity = .error)

end AttAssembly
