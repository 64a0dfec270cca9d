import AttAssembly.Text.Basic
/-!
Whether a position of a line lies inside a string literal. A double quote opens and closes a
literal; a backslash inside one escapes the next code point. Outside a literal a backslash is an
ordinary code point.
-/
namespace AttAssembly

inductive Quoting where
  | outside
  | inside
  | escaped
  deriving DecidableEq, Repr

namespace Quoting

def next : Quoting → Char → Quoting
  | .escaped, _ => .inside
  | .inside, c => if c = '\\' then .escaped else if c = '"' then .outside else .inside
  | .outside, c => if c = '"' then .inside else .outside

/-- The state after a whole text. -/
def after (state : Quoting) (text : Text) : Quoting := text.foldl next state

end Quoting

end AttAssembly
