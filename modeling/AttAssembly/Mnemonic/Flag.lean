import AttAssembly.Text.Basic
/-!
Condition flags. A set of flags is a list in alphabetical order of their names.
-/
namespace AttAssembly

inductive Flag where
  | carry
  | overflow
  | parity
  | sign
  | zero
  deriving DecidableEq, Repr

def Flag.name : Flag → Text
  | .carry => "CF"
  | .overflow => "OF"
  | .parity => "PF"
  | .sign => "SF"
  | .zero => "ZF"

abbrev FlagSet := List Flag

end AttAssembly
