import AttAssembly.Text.Blank
/-!
Names and labels. A name is an ASCII letter or underscore followed by ASCII letters, digits and
underscores. A label is a name directly followed by a colon at the start of a line.
-/
namespace AttAssembly

def isNameStart (c : Char) : Bool := c.isAlpha || c = '_'

def isNamePart (c : Char) : Bool := c.isAlphanum || c = '_'

def isName : Text → Bool
  | [] => false
  | c :: rest => isNameStart c && rest.all isNamePart

/-- A name, with one line feed allowed after it. -/
def isLabelName (token : Text) : Bool :=
  isName (if token.getLast? = some '\n' then token.dropLast else token)

/-- The longest name at the start of a text, empty when there is none, and the rest. -/
def leadingName : Text → Text × Text
  | [] => ([], [])
  | c :: rest =>
      if isNameStart c then (c :: rest.takeWhile isNamePart, rest.dropWhile isNamePart)
      else ([], c :: rest)

/-- The first physical line of a text that holds only one: a final line feed is allowed. -/
def onlyLine? (text : Text) : Option Text :=
  let rest := text.dropWhile (· ≠ '\n')
  if rest = [] ∨ rest = ['\n'] then some (text.takeWhile (· ≠ '\n')) else none

/-- The label of a line and what follows it. Without a label the line is returned as it is. -/
def splitLabel (line : Text) : Option Text × Text :=
  match leadingName line with
  | (c :: name, ':' :: rest) =>
      match onlyLine? (trimLeft rest) with
      | some body => (some (c :: name), trim body)
      | none => (none, line)
  | _ => (none, line)

end AttAssembly
