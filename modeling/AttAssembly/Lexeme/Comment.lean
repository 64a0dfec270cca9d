import AttAssembly.Lexeme.Quoting
import AttAssembly.Text.Blank
/-!
Comments run from the first `;` or `#` outside a string literal to the end of the line.
-/
namespace AttAssembly

def isCommentMark (c : Char) : Bool := c = ';' || c = '#'

/-- What stands before the first comment mark outside a literal. -/
def beforeComment (state : Quoting) : Text → Text
  | [] => []
  | c :: rest =>
      if isCommentMark c && state = .outside then []
      else c :: beforeComment (state.next c) rest

def stripComment (line : Text) : Text := trim (beforeComment .outside line)

end AttAssembly
