import AttAssembly.Text.Blank
import AttAssembly.Text.Digit
/-!
Integers on the command line: a sign, a mark for base 16, 8 or 2, and digits between which single
underscores may stand. Without a mark the base is ten, and then a number other than zero has no
leading zero.
-/
namespace AttAssembly.IntegerLiteral

/-- The information separators are no blanks here, unlike elsewhere. -/
def isMargin (c : Char) : Bool := isBlank c && !(decide (0x1C ≤ c.toNat) && decide (c.toNat ≤ 0x1F))

def trimMargins (text : Text) : Text :=
  ((text.dropWhile isMargin).reverse.dropWhile isMargin).reverse

/-- Digits of any script count as the ASCII ones. -/
def digitInBase? (base : Nat) (c : Char) : Option Nat :=
  match (hexDigitValue? c).or (digitValue? c) with
  | some value => if value < base then some value else none
  | none => none

/-- Leaves out the underscores that stand between digits. There is none at the end, nor two
    together. -/
def withoutUnderscores? : Text → Option Text
  | [] => some []
  | ['_'] => none
  | '_' :: c :: rest => if c = '_' then none else (withoutUnderscores? rest).map (c :: ·)
  | c :: rest => (withoutUnderscores? rest).map (c :: ·)

/-- Only decimal digits can be too many. -/
def digits? (base : Nat) (text : Text) : Option Nat :=
  if text.head? = some '_' then none
  else match withoutUnderscores? text with
    | none => none
    | some digits =>
        if base = 10 ∧ digitLimit < digits.length then none
        else numeral? base (digitInBase? base) digits

def ofMark? : Char → Option Nat
  | 'x' | 'X' => some 16
  | 'o' | 'O' => some 8
  | 'b' | 'B' => some 2
  | _ => none

/-- One underscore may follow a mark. -/
def afterMark : Text → Text
  | '_' :: digits => digits
  | digits => digits

def decimal? (text : Text) : Option Nat :=
  match digits? 10 text with
  | none => none
  | some value =>
      if (text.head?.bind digitValue?) = some 0 ∧ value ≠ 0 then none else some value

def magnitude? : Text → Option Nat
  | zero :: mark :: rest =>
      match if digitValue? zero = some 0 then ofMark? mark else none with
      | some base => digits? base (afterMark rest)
      | none => decimal? (zero :: mark :: rest)
  | text => decimal? text

def value? (text : Text) : Option Int :=
  match trimMargins text with
  | '-' :: digits => (magnitude? digits).map fun value : Nat => -(value : Int)
  | '+' :: digits => (magnitude? digits).map fun value : Nat => (value : Int)
  | digits => (magnitude? digits).map fun value : Nat => (value : Int)

end AttAssembly.IntegerLiteral
