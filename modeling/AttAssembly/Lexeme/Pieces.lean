import AttAssembly.Lexeme.Quoting
import AttAssembly.Text.Blank
/-!
Operand texts are separated by commas. A comma inside parentheses or inside a string literal does
not separate, and a closing parenthesis without an opening one does not count.
-/
namespace AttAssembly

structure Scan where
  quoting : Quoting
  depth : Nat
  deriving DecidableEq, Repr

namespace Scan

def start : Scan := ⟨.outside, 0⟩

def next (scan : Scan) (c : Char) : Scan where
  quoting := scan.quoting.next c
  depth :=
    if scan.quoting = .outside then
      if c = '(' then scan.depth + 1 else if c = ')' then scan.depth - 1 else scan.depth
    else scan.depth

/-- The state after a whole text. -/
def after (scan : Scan) (text : Text) : Scan := text.foldl next scan

/-- A comma here separates two operands. -/
def separates (scan : Scan) (c : Char) : Bool := c = ',' && scan = start

end Scan

/-- The text up to the first separating comma, and the texts between the commas after it. -/
def splitAtCommas (scan : Scan) : Text → Text × List Text
  | [] => ([], [])
  | c :: rest =>
      let (piece, others) := splitAtCommas (scan.next c) rest
      if scan.separates c then ([], piece :: others) else (c :: piece, others)

/-- The trimmed operand texts. Those that are blank are left out. -/
def splitPieces (operands : Text) : List Text :=
  let (piece, others) := splitAtCommas .start operands
  ((piece :: others).map trim).filter (· ≠ [])

end AttAssembly
