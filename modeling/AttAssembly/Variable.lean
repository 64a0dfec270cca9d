import AttAssembly.Line.Directives
import AttAssembly.Line.Record
/-!
Variables. A labelled line whose directive lays down numbers declares a variable of the label's
name; operands other than numbers are passed over, and without a number there is no variable.
-/
namespace AttAssembly

structure Variable where
  name : Text
  directive : Text
  values : List Int
  line : Int
  deriving DecidableEq, Repr

/-- The variable that a record declares. -/
def Variable.ofRecord? (record : Record) : Option Variable :=
  match record.label with
  | none => none
  | some label =>
      let values := record.operands.filterMap (·.numericValue?)
      if variableDirectives.contains record.mnemonic && values ≠ [] then
        some ⟨label, record.mnemonic, values, record.line⟩
      else none

def declaredVariables (records : List Record) : List Variable := records.filterMap Variable.ofRecord?

end AttAssembly
