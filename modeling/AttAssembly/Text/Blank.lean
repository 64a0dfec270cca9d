import AttAssembly.Text.Basic
/-!
Blanks: the code points that separate words and that trimming removes. Line feed and carriage
return are blanks; the zero-width space and the byte order mark are not.
-/
namespace AttAssembly

def blankRanges : List (Nat × Nat) :=
  [ (0x09, 0x0D), (0x1C, 0x20), (0x85, 0x85), (0xA0, 0xA0), (0x1680, 0x1680), (0x2000, 0x200A),
    (0x2028, 0x2029), (0x202F, 0x202F), (0x205F, 0x205F), (0x3000, 0x3000)]

def isBlank (c : Char) : Bool :=
  blankRanges.any fun range => decide (range.1 ≤ c.toNat) && decide (c.toNat ≤ range.2)

def trimLeft (text : Text) : Text := text.dropWhile isBlank

def trimRight (text : Text) : Text := (text.reverse.dropWhile isBlank).reverse

/-- Removes blanks from both ends. -/
def trim (text : Text) : Text := trimRight (trimLeft text)

/-- The first word of a text that starts with one, and the rest with its leading blanks removed. -/
def firstWord (text : Text) : Text × Text :=
  (text.takeWhile (!isBlank ·), trimLeft (text.dropWhile (!isBlank ·)))

/-- The maximal runs of non-blank code points, in order. -/
def words (text : Text) : List Text :=
  let (part, others) := splitWhere isBlank text
  (part :: others).filter (· ≠ [])

/-- Words separated by one space each. -/
def collapseBlanks (text : Text) : Text := joinWith [' '] (words text)

end AttAssembly
