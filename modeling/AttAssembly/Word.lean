import AttAssembly.Text.Basic
/-!
Views of an integer as a 32-bit word. Integers are unbounded everywhere else: these functions look
at the low 32 bits only, and `fits32` says when nothing is lost by that, with or without a sign.
-/
namespace AttAssembly

/-- The low 32 bits. -/
def lowWord (x : Int) : Nat := (x % 0x100000000).toNat

/-- The low `bits` bits read in two's complement. -/
def signExtend (bits : Nat) (x : Int) : Int :=
  let low := x % Int.pow 2 bits
  if low < Int.pow 2 (bits - 1) then low else low - Int.pow 2 bits

/-- A width of no bits, or of less than none. -/
inductive WidthError where
  | notPositive
  deriving DecidableEq, Repr

def WidthError.message : WidthError → Text
  | .notPositive => "bits debe ser positivo"

def signExtend? (bits x : Int) : Except WidthError Int :=
  if 0 < bits then .ok (signExtend bits.toNat x) else .error .notPositive

def signed32 (x : Int) : Int := signExtend 32 x

def fits32 (x : Int) : Bool := decide (-0x80000000 ≤ x) && decide (x < 0x100000000)

/-- The low `width` digits of a number, leading zeros included. -/
def fixedDigits (base : Nat) : Nat → Nat → Text
  | 0, _ => []
  | width + 1, n => fixedDigits base width (n / base) ++ [Nat.digitChar (n % base)]

def hexDigits (x : Int) : Text := fixedDigits 16 8 (lowWord x)

def hex32 (x : Int) : Text := "0x" ++ hexDigits x

def binary32 (x : Int) : Text := fixedDigits 2 32 (lowWord x)

/-- The low `count` bytes, lowest first. -/
def littleEndian : Nat → Nat → List Nat
  | 0, _ => []
  | count + 1, n => n % 256 :: littleEndian count (n / 256)

/-- Zero has an escape, a byte outside printable ASCII is a dot. -/
def byteText (byte : Nat) : Text :=
  if byte = 0 then "\\0" else if 32 ≤ byte ∧ byte ≤ 126 then [Char.ofNat byte] else "."

def ascii32 (x : Int) : Text := (littleEndian 4 (lowWord x)).flatMap byteText

/-- Every view of one value. -/
structure WordView where
  hex : Text
  signed : Int
  unsigned : Nat
  binary : Text
  ascii : Text
  deriving DecidableEq, Repr

def wordView (x : Int) : WordView where
  hex := hex32 x
  signed := signed32 x
  unsigned := lowWord x
  binary := binary32 x
  ascii := ascii32 x

end AttAssembly
