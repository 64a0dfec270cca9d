/-!
A text is a list of code points. All of the library reads and writes this one type; only the
outermost layer converts to and from `String`. A string literal is accepted where a text is
expected.
-/
namespace AttAssembly

abbrev Text := List Char

instance : Coe String Text := ⟨String.toList⟩

/-- Decimal digits with a leading minus sign for negative numbers. -/
def decimal : Int → Text
  | .ofNat n => Nat.toDigits 10 n
  | .negSucc n => '-' :: Nat.toDigits 10 (n + 1)

/-- Right-aligned in at least `width` places. -/
def padLeft (width : Nat) (text : Text) : Text := List.leftpad width ' ' text

/-- Left-aligned in at least `width` places. -/
def padRight (width : Nat) (text : Text) : Text := List.rightpad width ' ' text

def joinWith (separator : Text) (parts : List Text) : Text := List.intercalate separator parts

/-- The texts between the code points that separate: the one before the first of them, and those
    after each. -/
def splitWhere (separates : Char → Bool) : Text → Text × List Text
  | [] => ([], [])
  | c :: rest =>
      let (part, others) := splitWhere separates rest
      if separates c then ([], part :: others) else (c :: part, others)

/-- A text between single quotes, as error messages show a token. -/
def quoted (text : Text) : Text := '\'' :: text ++ ['\'']

end AttAssembly
