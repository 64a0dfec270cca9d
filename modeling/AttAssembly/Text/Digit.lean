import AttAssembly.Text.Basic
/-!
Decimal digits of every script. They come in tens of consecutive code points, so the table lists
only the zeros. Hexadecimal and binary digits are ASCII. Decimal digits are converted to a number, or
written for one, only up to a limit; digits of the other bases can be any number of.
-/
namespace AttAssembly

def zeroDigits : List Nat :=
  [ 0x30, 0x660, 0x6F0, 0x7C0, 0x966, 0x9E6, 0xA66, 0xAE6, 0xB66, 0xBE6, 0xC66, 0xCE6, 0xD66,
    0xDE6, 0xE50, 0xED0, 0xF20, 0x1040, 0x1090, 0x17E0, 0x1810, 0x1946, 0x19D0, 0x1A80, 0x1A90,
    0x1B50, 0x1BB0, 0x1C40, 0x1C50, 0xA620, 0xA8D0, 0xA900, 0xA9D0, 0xA9F0, 0xAA50, 0xABF0,
    0xFF10, 0x104A0, 0x10D30, 0x11066, 0x110F0, 0x11136, 0x111D0, 0x112F0, 0x11450, 0x114D0,
    0x11650, 0x116C0, 0x11730, 0x118E0, 0x11950, 0x11C50, 0x11D50, 0x11DA0, 0x16A60, 0x16AC0,
    0x16B50, 0x1D7CE, 0x1D7D8, 0x1D7E2, 0x1D7EC, 0x1D7F6, 0x1E140, 0x1E2F0, 0x1E950, 0x1FBF0]

def digitValue? (c : Char) : Option Nat :=
  (zeroDigits.find? fun start => decide (start ≤ c.toNat) && decide (c.toNat < start + 10)).map
    fun start => c.toNat - start

def hexDigitValue? (c : Char) : Option Nat :=
  if '0' ≤ c ∧ c ≤ '9' then some (c.toNat - '0'.toNat)
  else if 'a' ≤ c ∧ c ≤ 'f' then some (c.toNat - 'a'.toNat + 10)
  else if 'A' ≤ c ∧ c ≤ 'F' then some (c.toNat - 'A'.toNat + 10)
  else none

def binaryDigitValue? (c : Char) : Option Nat :=
  if c = '0' then some 0 else if c = '1' then some 1 else none

/-- The value of a positional numeral read from the left, continuing from `value`. Fails on the
    first code point that is not a digit. -/
def numeralFrom (base : Nat) (digit? : Char → Option Nat) (value : Nat) : Text → Option Nat
  | [] => some value
  | c :: rest =>
      match digit? c with
      | some d => numeralFrom base digit? (value * base + d) rest
      | none => none

/-- A numeral has at least one digit. -/
def numeral? (base : Nat) (digit? : Char → Option Nat) : Text → Option Nat
  | [] => none
  | text => numeralFrom base digit? 0 text

/-- No more decimal digits than these are converted. -/
def digitLimit : Nat := 4300

/-- Ten to the power of the limit, the least number with more digits. The power is taken in two steps
    because a large exponent is not evaluated in proofs. -/
def writingBound : Nat := Nat.pow (Nat.pow 10 100) 43

/-- Whether an integer is written in decimal digits. `decimal` gives the digits in any case; numbers
    of lines and the words of a machine have few of them. -/
def writable (value : Int) : Bool := value.natAbs < writingBound

/-- What is said of too many digits. Their count is told where they are read. -/
def tooManyDigitsMessage (count : Option Nat) : Text :=
  "Exceeds the limit (" ++ decimal digitLimit ++ " digits) for integer string conversion" ++
    (match count with
      | some count => ": value has " ++ decimal count ++ " digits"
      | none => []) ++
    "; use sys.set_int_max_str_digits() to increase the limit"

end AttAssembly
