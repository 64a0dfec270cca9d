import AttAssembly.Proofs.Machine.Words
import AttAssembly.Proofs.Operand.Sources
import AttAssembly.Proofs.Word.SignExtension

/-!
The views of an integer as a 32-bit word. A fixed number of digits with zeros in front is a numeral
like any other, so the hexadecimal and the binary view are read back as the word itself, and all
views of two integers are the same exactly when their low 32 bits are.
-/

namespace AttAssembly

section Words

theorem lowWord_cast (x : Int) : (lowWord x : Int) = x % 2 ^ 32 :=
  Int.toNat_of_nonneg (Int.emod_nonneg x (by decide))

theorem lowWord_lt (x : Int) : lowWord x < 2 ^ 32 := by
  have below := Int.emod_lt_of_pos x (b := 2 ^ 32) (by decide)
  rw [← lowWord_cast] at below
  exact_mod_cast below

theorem lowWord_eq_iff (x y : Int) : lowWord x = lowWord y ↔ x ≡ y [ZMOD 2 ^ 32] := by
  rw [Int.ModEq, ← lowWord_cast, ← lowWord_cast, Nat.cast_inj]

theorem lowWord_of_congruent {x y : Int} (congruent : x ≡ y [ZMOD 2 ^ 32]) :
    lowWord x = lowWord y :=
  (lowWord_eq_iff x y).mpr congruent

theorem lowWord_inRange (x : Int) : InRange (lowWord x) := by
  have below := lowWord_lt x
  constructor <;> omega

end Words

section Digits

variable {base : Nat}

theorem fixedDigits_length (base width n : Nat) : (fixedDigits base width n).length = width := by
  induction width generalizing n with
  | zero => rfl
  | succ width ih => simp [fixedDigits, ih]

theorem mem_fixedDigits (positional : 0 < base) (width n : Nat) :
    ∀ c ∈ fixedDigits base width n, ∃ d < base, c = d.digitChar := by
  induction width generalizing n with
  | zero => simp [fixedDigits]
  | succ width ih =>
      intro c member
      rcases List.mem_append.mp member with front | last
      · exact ih _ c front
      · exact ⟨n % base, Nat.mod_lt n positional, List.mem_singleton.mp last⟩

theorem fixedDigits_zero (base width : Nat) :
    fixedDigits base width 0 = List.replicate width '0' := by
  induction width with
  | zero => rfl
  | succ width ih =>
      rw [fixedDigits, Nat.zero_div, Nat.zero_mod, ih, List.replicate_succ']
      rfl

/-- The digits of a number that fits the width, behind as many zeros as it takes. -/
theorem fixedDigits_padded (positional : 1 < base) (width n : Nat) (fits : n < base ^ (width + 1)) :
    ∃ zeros, fixedDigits base (width + 1) n =
      List.replicate zeros '0' ++ Nat.toDigits base n := by
  induction width generalizing n with
  | zero =>
      have single : n < base := by simpa using fits
      exact ⟨0, by simp [fixedDigits, Nat.mod_eq_of_lt single, Nat.toDigits_of_lt_base single]⟩
  | succ width ih =>
      rw [fixedDigits]
      by_cases small : n < base
      · -- Nothing but zeros stands before the only digit.
        refine ⟨width + 1, ?_⟩
        rw [Nat.div_eq_of_lt small, Nat.mod_eq_of_lt small, fixedDigits_zero,
          Nat.toDigits_of_lt_base small]
      · have shorter : n / base < base ^ (width + 1) :=
          (Nat.div_lt_iff_lt_mul (by omega)).mpr (pow_succ base (width + 1) ▸ fits)
        obtain ⟨zeros, padded⟩ := ih (n / base) shorter
        refine ⟨zeros, ?_⟩
        rw [padded, List.append_assoc,
          Nat.toDigits_of_base_le positional (Nat.le_of_not_lt small)]

theorem fixedDigits_spelled (radix : Radix) (width n : Nat) (fits : n < radix.base ^ (width + 1)) :
    Spells radix.base n (fixedDigits radix.base (width + 1) n) := by
  have bare : Spells radix.base n (Nat.toDigits radix.base n) :=
    (WrittenInteger.ofInt radix n).spelled
  obtain ⟨zeros, padded⟩ := fixedDigits_padded radix.positional width n fits
  rw [padded]
  exact bare.padded zeros

/-- A number below the power of the radix, written with a fixed number of digits. -/
def fixedInteger (radix : Radix) (width n : Nat) (fits : n < radix.base ^ (width + 1)) :
    WrittenInteger where
  negative := false
  radix := radix
  magnitude := n
  digits := fixedDigits radix.base (width + 1) n
  spelled := fixedDigits_spelled radix width n fits

/-- The hexadecimal view, as it may be written in a source. -/
def hexInteger (x : Int) : WrittenInteger := fixedInteger .hexadecimal 7 (lowWord x) (lowWord_lt x)

def binaryInteger (x : Int) : WrittenInteger := fixedInteger .binary 31 (lowWord x) (lowWord_lt x)

theorem hexInteger_text (x : Int) : (hexInteger x).text = hex32 x := rfl

theorem binaryInteger_text (x : Int) : (binaryInteger x).text = "0b" ++ binary32 x := rfl

theorem hexInteger_within (x : Int) : (hexInteger x).excess? = none :=
  (hexInteger x).excess_marked (by simp [hexInteger, fixedInteger])

theorem number_hex32 (x : Int) : number? (hex32 x) = some (lowWord x : Int) :=
  hexInteger_text x ▸ (hexInteger x).number_text (hexInteger_within x)

theorem number_binary32 (x : Int) : number? ("0b" ++ binary32 x) = some (lowWord x : Int) :=
  binaryInteger_text x ▸ (binaryInteger x).number_text
    ((binaryInteger x).excess_marked (by simp [binaryInteger, fixedInteger]))

end Digits

section Bytes

/-- The byte at a place of an integer, counted from the lowest. -/
def byteAt (x : Int) (index : Nat) : Nat := (x / 256 ^ index % 256).toNat

theorem littleEndian_bytes (count n : Nat) :
    littleEndian count n = (List.range count).map fun index => n / 256 ^ index % 256 := by
  induction count generalizing n with
  | zero => rfl
  | succ count ih =>
      rw [littleEndian, ih, List.range_succ_eq_map, List.map_cons, List.map_map]
      simp [Function.comp_def, pow_succ', Nat.div_div_eq_div_mul]

theorem lowWord_byte (x : Int) (index : Nat) (inside : index < 4) :
    lowWord x / 256 ^ index % 256 = byteAt x index := by
  have word := lowWord_cast x
  rw [byteAt]
  interval_cases index <;> omega

theorem ascii32_bytes (x : Int) :
    ascii32 x = (List.range 4).flatMap fun index => byteText (byteAt x index) := by
  have bytes : littleEndian 4 (lowWord x) = (List.range 4).map (byteAt x) := by
    rw [littleEndian_bytes]
    exact List.map_congr_left fun index inside => lowWord_byte x index (List.mem_range.mp inside)
  rw [ascii32, bytes, List.flatMap_map]

end Bytes

/-- Every view of an integer shows the word of its low 32 bits, and can be read back as that. -/
structure WordView.Denotes (view : WordView) (x : Int) : Prop where
  unsigned : (view.unsigned : Int) = x % 2 ^ 32
  hex : ∃ digits : Text, view.hex = "0x" ++ digits ∧ digits.length = 8 ∧
    ∀ c ∈ digits, c ∈ "0123456789abcdef".toList
  binary : view.binary.length = 32 ∧ ∀ c ∈ view.binary, c = '0' ∨ c = '1'
  hex_read : number? view.hex = some (view.unsigned : Int)
  binary_read : number? ("0b" ++ view.binary) = some (view.unsigned : Int)
  immediate : Operand.readImmediate ('$' :: view.hex) =
    .ok ⟨'$' :: view.hex, .immediate (.number view.unsigned), .immediate⟩
  signed (value : Int) : value = view.signed ↔ SignedRange value ∧ value ≡ x [ZMOD 2 ^ 32]
  signed_word : lowWord view.signed = view.unsigned
  ascii : view.ascii = (List.range 4).flatMap fun index => byteText (byteAt x index)

theorem signedWidth_iff (value : Int) : SignedWidth 32 value ↔ SignedRange value := by
  rw [SignedWidth, SignedRange]
  omega

theorem wordView_denotes (x : Int) : (wordView x).Denotes x where
  unsigned := lowWord_cast x
  hex := by
    have digits : ∀ d < 16, d.digitChar ∈ "0123456789abcdef".toList := by decide
    refine ⟨hexDigits x, rfl, fixedDigits_length 16 8 _, fun c member => ?_⟩
    obtain ⟨d, below, same⟩ := mem_fixedDigits (by decide) 8 _ c member
    exact same ▸ digits d below
  binary := by
    have digits : ∀ d < 2, d.digitChar = '0' ∨ d.digitChar = '1' := by decide
    refine ⟨fixedDigits_length 2 32 _, fun c member => ?_⟩
    obtain ⟨d, below, same⟩ := mem_fixedDigits (by decide) 32 _ c member
    exact same ▸ digits d below
  hex_read := number_hex32 x
  binary_read := number_binary32 x
  immediate := by
    have read := (hexInteger x).readImmediate_text (lowWord_inRange x) (hexInteger_within x)
    rw [hexInteger_text] at read
    exact read
  signed value := by
    rw [← signedWidth_iff]
    exact signExtend_unique (by decide) x value
  signed_word := lowWord_of_congruent (signExtend_congruent (by decide) x)
  ascii := ascii32_bytes x

theorem wordView_of_congruent {x y : Int} (congruent : x ≡ y [ZMOD 2 ^ 32]) :
    wordView x = wordView y := by
  have word := lowWord_of_congruent congruent
  have sign : signed32 x = signed32 y := signExtend_of_congruent congruent
  simp only [wordView, hex32, hexDigits, binary32, ascii32, word, sign]

theorem hex32_eq_iff (x y : Int) : hex32 x = hex32 y ↔ x ≡ y [ZMOD 2 ^ 32] := by
  constructor
  · intro same
    have read := number_hex32 x
    rw [same, number_hex32 y] at read
    apply (lowWord_eq_iff x y).mp
    exact_mod_cast (Option.some.inj read).symm
  · intro congruent
    exact congrArg WordView.hex (wordView_of_congruent congruent)

/-- The views of an integer all denote its word, and they are the views of no other word. -/
theorem views_denote_word (x : Int) :
    (wordView x).Denotes x ∧ ∀ y, wordView x = wordView y ↔ x ≡ y [ZMOD 2 ^ 32] := by
  refine ⟨wordView_denotes x, fun y => ?_⟩
  constructor
  · intro same
    exact (hex32_eq_iff x y).mp (congrArg WordView.hex same)
  · exact wordView_of_congruent

end AttAssembly
