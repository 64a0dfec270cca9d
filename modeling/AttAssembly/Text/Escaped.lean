import AttAssembly.Text.Basic
import AttAssembly.Text.Printable
/-!
A text in quotes with everything in it visible. Single quotes are used unless the text holds single
quotes and no double ones; an unprintable code point is written by its number in hexadecimal.
-/
namespace AttAssembly

/-- Hexadecimal digits, at least `width` of them. -/
def hexEscape (mark : Char) (width : Nat) (code : Nat) : Text :=
  '\\' :: mark :: List.leftpad width '0' (Nat.toDigits 16 code)

def escapeIn (quote c : Char) : Text :=
  if c = quote ∨ c = '\\' then ['\\', c]
  else if c = '\t' then "\\t"
  else if c = '\n' then "\\n"
  else if c = '\r' then "\\r"
  else if isPrintable c then [c]
  else if c.toNat < 0x100 then hexEscape 'x' 2 c.toNat
  else if c.toNat < 0x10000 then hexEscape 'u' 4 c.toNat
  else hexEscape 'U' 8 c.toNat

def escaped (text : Text) : Text :=
  let quote := if '\'' ∈ text ∧ '"' ∉ text then '"' else '\''
  quote :: text.flatMap (escapeIn quote) ++ [quote]

end AttAssembly
