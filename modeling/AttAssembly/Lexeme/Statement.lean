import AttAssembly.Text.Blank
import AttAssembly.Text.LetterCase
/-!
The mnemonic of a statement is its first word in lower case; the operand text is what follows.
-/
namespace AttAssembly

def splitMnemonic (statement : Text) : Text × Text :=
  let (word, operands) := firstWord (trim statement)
  (lower word, operands)

def isDirectiveName (mnemonic : Text) : Bool := (trim mnemonic).head? = some '.'

end AttAssembly
