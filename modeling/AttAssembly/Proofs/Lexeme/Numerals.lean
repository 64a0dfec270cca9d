import Mathlib
import AttAssembly.Lexeme.Number
import AttAssembly.Proofs.Lexeme.Heads

/-!
Reading written numbers. A positional numeral is read digit by digit, so reading undoes writing in
every base whose digits are read as their values. A sign and a radix mark in front of the digits are
taken off before that, and are never taken for digits.
-/

namespace AttAssembly

section Positional

variable {base : Nat} {digit? : Char → Option Nat}

theorem numeralFrom_append (value : Nat) (first second : Text) :
    numeralFrom base digit? value (first ++ second) =
      (numeralFrom base digit? value first).bind fun read =>
        numeralFrom base digit? read second := by
  induction first generalizing value with
  | nil => rfl
  | cons c rest ih =>
      rw [List.cons_append, numeralFrom, numeralFrom]
      cases digit? c with
      | none => rfl
      | some d => exact ih _

theorem numeralFrom_digits {value n : Nat} {text : Text}
    (read : numeralFrom base digit? value text = some n) : ∀ c ∈ text, (digit? c).isSome = true := by
  induction text generalizing value with
  | nil => simp
  | cons c rest ih =>
      rw [numeralFrom] at read
      cases digit : digit? c with
      | none => simp [digit] at read
      | some d =>
          rw [digit] at read
          intro e member
          rcases List.mem_cons.mp member with rfl | later
          · rw [digit]
            rfl
          · exact ih read e later

theorem numeral_digits {n : Nat} {text : Text} (read : numeral? base digit? text = some n) :
    text ≠ [] ∧ ∀ c ∈ text, (digit? c).isSome = true := by
  cases text with
  | nil => cases read
  | cons c rest => exact ⟨List.cons_ne_nil c rest, numeralFrom_digits read⟩

theorem numeralFrom_isSome {value : Nat} {text : Text}
    (digits : ∀ c ∈ text, (digit? c).isSome = true) :
    (numeralFrom base digit? value text).isSome = true := by
  induction text generalizing value with
  | nil => rfl
  | cons c rest ih =>
      obtain ⟨d, digit⟩ := Option.isSome_iff_exists.mp (digits c List.mem_cons_self)
      rw [numeralFrom, digit]
      exact ih fun other member => digits other (List.mem_cons_of_mem c member)

theorem numeral_of_nonempty {text : Text} (written : text ≠ []) :
    numeral? base digit? text = numeralFrom base digit? 0 text := by
  cases text with
  | nil => exact absurd rfl written
  | cons c rest => rfl

theorem numeralFrom_toDigits (positional : 1 < base)
    (reads : ∀ d < base, digit? d.digitChar = some d) (n : Nat) :
    numeralFrom base digit? 0 (Nat.toDigits base n) = some n := by
  -- The last digit is written after those of the quotient.
  induction n using Nat.strongRecOn with
  | ind n ih =>
      by_cases small : n < base
      · simp [Nat.toDigits_of_lt_base small, numeralFrom, reads n small]
      · have smaller : n / base < n := Nat.div_lt_self (by omega) positional
        have digit := reads (n % base) (Nat.mod_lt n (by omega))
        rw [Nat.toDigits_of_base_le positional (by omega), numeralFrom_append, ih _ smaller]
        simp [numeralFrom, digit, Nat.div_add_mod']

end Positional

/-- Every digit of the base is read as its value, in either letter case. -/
def ReadsDigits (base : Nat) (digit? : Char → Option Nat) : Prop :=
  ∀ d < base, digit? d.digitChar = some d ∧ digit? d.digitChar.toUpper = some d

theorem digitValue_reads : ReadsDigits 10 digitValue? := by
  rw [ReadsDigits]
  decide

theorem hexDigitValue_reads : ReadsDigits 16 hexDigitValue? := by
  rw [ReadsDigits]
  decide

theorem binaryDigitValue_reads : ReadsDigits 2 binaryDigitValue? := by
  rw [ReadsDigits]
  decide

/-- The digits of a number, with any number of zeros in front and letters in either case. -/
def Spells (base n : Nat) (digits : Text) : Prop :=
  ∃ zeros, digits.map Char.toLower = List.replicate zeros '0' ++ Nat.toDigits base n

section Spelling

variable {base : Nat} {digit? : Char → Option Nat} {n : Nat} {digits : Text}

theorem mem_toDigits (positional : 1 < base) (n : Nat) :
    ∀ c ∈ Nat.toDigits base n, ∃ d < base, c = d.digitChar := by
  induction n using Nat.strongRecOn with
  | ind n ih =>
      intro c member
      by_cases small : n < base
      · rw [Nat.toDigits_of_lt_base small] at member
        exact ⟨n, small, List.mem_singleton.mp member⟩
      · rw [Nat.toDigits_of_base_le positional (by omega)] at member
        rcases List.mem_append.mp member with front | last
        · exact ih _ (Nat.div_lt_self (by omega) positional) c front
        · exact ⟨n % base, Nat.mod_lt n (by omega), List.mem_singleton.mp last⟩

theorem letter_case (c : Char) : c = c.toLower ∨ c = c.toLower.toUpper := by
  by_cases upper : c.isUpper
  · have lowered : ¬ c.isLower := fun lower => Char.not_isUpper_of_isLower lower upper
    rw [Char.toUpper_toLower_eq_toUpper, Char.toUpper_eq_of_not_isLower lowered]
    exact .inr rfl
  · exact .inl (Char.toLower_eq_of_not_isUpper upper).symm

theorem Spells.lowered (spelled : Spells base n digits) (positional : 1 < base) :
    ∀ c ∈ digits, ∃ d < base, c.toLower = d.digitChar := by
  obtain ⟨zeros, same⟩ := spelled
  intro c member
  have lowered : c.toLower ∈ List.replicate zeros '0' ++ Nat.toDigits base n :=
    same ▸ List.mem_map_of_mem member
  rcases List.mem_append.mp lowered with zero | digit
  · exact ⟨0, by omega, (List.mem_replicate.mp zero).2⟩
  · exact mem_toDigits positional n _ digit

/-- What holds of every digit of the base in both cases holds of all that is spelled with them. -/
theorem Spells.all {property : Char → Prop} (spelled : Spells base n digits)
    (positional : 1 < base)
    (each : ∀ d < base, property d.digitChar ∧ property d.digitChar.toUpper) :
    ∀ c ∈ digits, property c := by
  intro c member
  obtain ⟨d, below, lowered⟩ := spelled.lowered positional c member
  rcases letter_case c with small | capital
  · rw [small, lowered]
    exact (each d below).1
  · rw [capital, lowered]
    exact (each d below).2

theorem Spells.nonempty (spelled : Spells base n digits) : digits ≠ [] := by
  obtain ⟨zeros, same⟩ := spelled
  rintro rfl
  exact Nat.toDigits_ne_nil (List.append_eq_nil_iff.mp same.symm).2

theorem Spells.padded (spelled : Spells base n digits) (zeros : Nat) :
    Spells base n (List.replicate zeros '0' ++ digits) := by
  obtain ⟨more, same⟩ := spelled
  refine ⟨zeros + more, ?_⟩
  rw [List.map_append, List.map_replicate, same, List.replicate_add, List.append_assoc]
  rfl

theorem numeralFrom_lower (value : Nat) (text : Text)
    (caseless : ∀ c ∈ text, digit? c = digit? c.toLower) :
    numeralFrom base digit? value text = numeralFrom base digit? value (text.map Char.toLower) := by
  induction text generalizing value with
  | nil => rfl
  | cons c rest ih =>
      rw [List.map_cons, numeralFrom, numeralFrom, ← caseless c List.mem_cons_self]
      cases digit? c with
      | none => rfl
      | some d => exact ih _ fun other member => caseless other (List.mem_cons_of_mem c member)

theorem numeralFrom_zeros (zero : digit? '0' = some 0) (zeros : Nat) :
    numeralFrom base digit? 0 (List.replicate zeros '0') = some 0 := by
  induction zeros with
  | zero => rfl
  | succ zeros ih => simpa [List.replicate_succ, numeralFrom, zero] using ih

theorem numeral_spelled (positional : 1 < base) (reads : ReadsDigits base digit?)
    (spelled : Spells base n digits) : numeral? base digit? digits = some n := by
  -- Both cases of a letter are read as the same digit, so the small ones may be read instead.
  have caseless : ∀ c ∈ digits, digit? c = digit? c.toLower := by
    intro c member
    obtain ⟨d, below, lowered⟩ := spelled.lowered positional c member
    rw [lowered, (reads d below).1]
    rcases letter_case c with small | capital
    · rw [small, lowered, (reads d below).1]
    · rw [capital, lowered, (reads d below).2]
  obtain ⟨zeros, same⟩ := id spelled
  rw [numeral_of_nonempty spelled.nonempty, numeralFrom_lower 0 digits caseless, same,
    numeralFrom_append, numeralFrom_zeros (reads 0 (by omega)).1]
  exact numeralFrom_toDigits positional (fun d below => (reads d below).1) n

end Spelling

inductive Radix where
  | decimal
  | hexadecimal
  | binary
  deriving DecidableEq, Repr

namespace Radix

def base : Radix → Nat
  | decimal => 10
  | hexadecimal => 16
  | binary => 2

/-- What stands in front of the digits. -/
def mark : Radix → Text
  | decimal => ""
  | hexadecimal => "0x"
  | binary => "0b"

theorem positional (radix : Radix) : 1 < radix.base := by cases radix <;> decide

end Radix

theorem writingBound_eq : writingBound = 10 ^ digitLimit := by
  have steps : 100 * 43 = digitLimit := rfl
  have powers : writingBound = (10 ^ 100) ^ 43 := rfl
  rw [powers, ← pow_mul, steps]

section Literals

/-- A run of decimal digits is never taken for a mark and the digits after it. -/
theorem magnitude_of_digits (digits : Text)
    (decimal : ∀ c ∈ digits, (digitValue? c).isSome = true) :
    magnitude? digits = numeral? 10 digitValue? digits := by
  rw [magnitude?.eq_def]
  split
  · next mark rest =>
      have notMark (letter : Char) (other : (digitValue? letter).isSome = false) :
          mark ≠ letter := by
        rintro rfl
        simp [decimal mark (by simp)] at other
      simp [notMark 'x' rfl, notMark 'X' rfl, notMark 'b' rfl, notMark 'B' rfl]
  · rfl

theorem spelled_alphanum {radix : Radix} {n : Nat} {digits : Text}
    (spelled : Spells radix.base n digits) : ∀ c ∈ digits, c.isAlphanum = true := by
  refine spelled.all radix.positional ?_
  cases radix <;> simp only [Radix.base] <;> decide

theorem magnitude_spelled {radix : Radix} {n : Nat} {digits : Text}
    (spelled : Spells radix.base n digits) : magnitude? (radix.mark ++ digits) = some n := by
  cases radix with
  | decimal =>
      have decimal : ∀ c ∈ digits, (digitValue? c).isSome = true :=
        spelled.all (by decide) (by decide)
      change magnitude? digits = some n
      rw [magnitude_of_digits digits decimal]
      exact numeral_spelled (by decide) digitValue_reads spelled
  | hexadecimal => exact numeral_spelled (by decide) hexDigitValue_reads spelled
  | binary => exact numeral_spelled (by decide) binaryDigitValue_reads spelled

/-- A digit of one of the radices, or the letter that marks hexadecimal digits. The letter that marks
    binary digits is a hexadecimal digit itself. -/
def isNumeralPart (c : Char) : Bool :=
  (digitValue? c).isSome || (hexDigitValue? c).isSome || c = 'x' || c = 'X'

/-- A magnitude is a numeral in the radix that its mark tells, and decimal without a mark. -/
inductive MagnitudeAs (n : Nat) : Text → Prop
  | hexadecimal {mark : Char} {digits : Text} (marked : mark = 'x' ∨ mark = 'X')
      (numeral : numeral? 16 hexDigitValue? digits = some n) : MagnitudeAs n ('0' :: mark :: digits)
  | binary {mark : Char} {digits : Text} (marked : mark = 'b' ∨ mark = 'B')
      (numeral : numeral? 2 binaryDigitValue? digits = some n) : MagnitudeAs n ('0' :: mark :: digits)
  | decimal {digits : Text}
      (unmarked : ∀ mark rest, digits = '0' :: mark :: rest →
        ¬ (mark = 'x' ∨ mark = 'X') ∧ ¬ (mark = 'b' ∨ mark = 'B'))
      (numeral : numeral? 10 digitValue? digits = some n) : MagnitudeAs n digits

theorem magnitude_magnitudeAs {n : Nat} {digits : Text} (read : magnitude? digits = some n) :
    MagnitudeAs n digits := by
  rw [magnitude?.eq_def] at read
  split at read
  · split at read
    · next hexadecimal => exact .hexadecimal hexadecimal read
    · next noHexadecimal =>
        split at read
        · next binary => exact .binary binary read
        · next noBinary =>
            refine .decimal ?_ read
            rintro _ _ ⟨⟩
            exact ⟨noHexadecimal, noBinary⟩
  · next unmarked => exact .decimal (fun mark rest same => absurd same (unmarked mark rest)) read

theorem magnitude_characters {n : Nat} {digits : Text} (read : magnitude? digits = some n) :
    digits ≠ [] ∧ ∀ c ∈ digits, isNumeralPart c = true := by
  have marked {mark : Char} {rest : Text} (small : isNumeralPart mark = true)
      (later : ∀ c ∈ rest, isNumeralPart c = true) :
      '0' :: mark :: rest ≠ [] ∧ ∀ c ∈ '0' :: mark :: rest, isNumeralPart c = true :=
    ⟨List.cons_ne_nil _ _, List.forall_mem_cons.mpr
      ⟨by decide, List.forall_mem_cons.mpr ⟨small, later⟩⟩⟩
  cases magnitude_magnitudeAs read with
  | hexadecimal hexadecimal numeral =>
      refine marked ?_ fun c member => ?_
      · rcases hexadecimal with rfl | rfl <;> decide
      · simp [isNumeralPart, (numeral_digits numeral).2 c member]
  | binary binary numeral =>
      refine marked ?_ fun c member => ?_
      · rcases binary with rfl | rfl <;> decide
      · have digit := (numeral_digits numeral).2 c member
        rw [binaryDigitValue?] at digit
        split at digit
        · next zero => exact zero ▸ by decide
        · split at digit
          · next one => exact one ▸ by decide
          · cases digit
  | decimal _ numeral =>
      obtain ⟨written, each⟩ := numeral_digits numeral
      exact ⟨written, fun c member => by simp [isNumeralPart, each c member]⟩

theorem literal_characters {literal : Text} {value : Int} (read : literal? literal = some value) :
    ∀ c ∈ literal, isNumeralPart c = true ∨ c = '-' := by
  rw [literal?.eq_def] at read
  split at read
  · obtain ⟨n, found, _⟩ := Option.map_eq_some_iff.mp read
    exact List.forall_mem_cons.mpr
      ⟨.inr rfl, fun c member => .inl ((magnitude_characters found).2 c member)⟩
  · obtain ⟨n, found, _⟩ := Option.map_eq_some_iff.mp read
    exact fun c member => .inl ((magnitude_characters found).2 c member)

theorem literal_of_magnitude (digits : Text) (n : Nat) (unsigned : digits.head? ≠ some '-')
    (read : magnitude? digits = some n) : literal? digits = some (n : Int) := by
  rw [literal?.eq_def]
  split
  · simp at unsigned
  · simp [read]

/-- A literal is one whether or not it has too many digits. -/
theorem literal_of_excess {literal : Text} {count : Nat} (excess : excessDigits? literal = some count) :
    (literal? literal).isSome = true := by
  have decimal : (magnitude? (withoutMinus literal)).isSome = true := by
    rw [excessDigits?] at excess
    split at excess
    · next many =>
        obtain ⟨n, read⟩ := Option.isSome_iff_exists.mp many.2
        rw [magnitude_of_digits _ (numeral_digits read).2, read, Option.isSome_some]
    · cases excess
  rw [literal?.eq_def]
  split
  · simpa [withoutMinus] using decimal
  · next unsigned =>
      rw [withoutMinus.eq_2 _ fun digits same => unsigned digits same] at decimal
      simpa using decimal

theorem excess_of_unread {literal : Text} (unread : literal? literal = none) :
    excessDigits? literal = none := by
  refine Option.eq_none_iff_forall_ne_some.mpr fun count excess => ?_
  have read := literal_of_excess excess
  rw [unread] at read
  cases read

theorem number_some_iff {token : Text} {value : Int} :
    number? token = some value ↔
      excessDigits? (trim token) = none ∧ literal? (trim token) = some value := by
  rw [number?]
  cases excessDigits? (trim token) <;> simp

theorem number_of_unread {token : Text} (unread : literal? (trim token) = none) :
    number? token = none := by
  rw [number?, excess_of_unread unread, unread]

theorem number_characters {token : Text} {value : Int} (read : number? token = some value) :
    ∀ c ∈ trim token, isNumeralPart c = true ∨ c = '-' :=
  literal_characters (number_some_iff.mp read).2

/-- Neither a digit nor a minus sign stands first. -/
theorem literal_foreign {rest : Text} {c : Char} (noMinus : c ≠ '-')
    (noDigit : digitValue? c = none) : literal? (c :: rest) = none := by
  have noZero : c ≠ '0' := by
    rintro rfl
    cases noDigit
  have magnitude : magnitude? (c :: rest) = none := by
    rw [magnitude?.eq_def]
    split
    · next same => exact absurd (List.cons.inj same).1 noZero
    · simp [numeral?, numeralFrom, noDigit]
  rw [literal?.eq_def]
  split
  · next same => exact absurd (List.cons.inj same).1 noMinus
  · rw [magnitude]
    rfl

/-- A code point that no number has, with something other than a sign in front of it. -/
theorem literal_interrupted {literal : Text} {c : Char} (unsigned : literal.head? ≠ some '-')
    (member : c ∈ literal) (foreign : isNumeralPart c = false) : literal? literal = none := by
  have magnitude : magnitude? literal = none := by
    refine Option.eq_none_iff_forall_ne_some.mpr fun n read => ?_
    rw [(magnitude_characters read).2 c member] at foreign
    cases foreign
  rw [literal?.eq_def]
  split
  · exact absurd rfl unsigned
  · rw [magnitude]
    rfl

theorem nameStart_noDigit {c : Char} (start : isNameStart c = true) : digitValue? c = none := by
  have range : 0x39 < c.toNat ∧ c.toNat < 0x7F := by
    simp only [isNameStart, Char.isAlpha, Char.isUpper, Char.isLower, UInt32.le_iff_toNat_le,
      Bool.or_eq_true, Bool.and_eq_true, decide_eq_true_eq, ge_iff_le] at start
    rcases start with range | rfl
    · simp at range
      omega
    · decide
  have tens : ∀ first ∈ zeroDigits, first = 0x30 ∨ 0x7F ≤ first := by decide
  rw [digitValue?, Option.map_eq_none_iff, List.find?_eq_none]
  intro first tabled
  rcases tens first tabled with low | high <;> simp <;> omega

theorem name_not_number {name : Text} (named : isName name = true) : literal? name = none := by
  obtain ⟨c, rest, same, start, _⟩ := (isName_iff name).mp named
  subst same
  refine literal_foreign ?_ (nameStart_noDigit start)
  rintro rfl
  cases start

end Literals

/-- An integer as it is written: a minus sign or none, the mark of a radix, and digits. -/
structure WrittenInteger where
  negative : Bool
  radix : Radix
  magnitude : Nat
  digits : Text
  spelled : Spells radix.base magnitude digits

namespace WrittenInteger

def value (written : WrittenInteger) : Int :=
  if written.negative then -(written.magnitude : Int) else written.magnitude

def sign (negative : Bool) : Text := if negative then "-" else ""

def text (written : WrittenInteger) : Text :=
  sign written.negative ++ (written.radix.mark ++ written.digits)

theorem unsigned_alphanum (written : WrittenInteger) :
    ∀ c ∈ written.radix.mark ++ written.digits, c.isAlphanum = true := by
  have marks (radix : Radix) : radix.mark.all Char.isAlphanum = true := by
    cases radix <;> rfl
  intro c member
  rcases List.mem_append.mp member with mark | digit
  · exact List.all_eq_true.mp (marks written.radix) c mark
  · exact spelled_alphanum written.spelled c digit

-- No mark and no digit is taken for the minus sign that is not there.
theorem unsigned_head (written : WrittenInteger) :
    (written.radix.mark ++ written.digits).head? ≠ some '-' := fun minus =>
  absurd (written.unsigned_alphanum '-' (List.mem_of_head? minus)) (by decide)

theorem text_characters (written : WrittenInteger) :
    ∀ c ∈ written.text, c.isAlphanum = true ∨ c = '-' := by
  intro c member
  rcases List.mem_append.mp member with minus | unsigned
  · cases negative : written.negative <;> simp_all [sign]
  · exact .inl (written.unsigned_alphanum c unsigned)

theorem text_nonempty (written : WrittenInteger) : written.text ≠ [] := by
  simp [text, written.spelled.nonempty]

theorem text_solid (written : WrittenInteger) : ∀ c ∈ written.text, isBlank c = false := by
  intro c member
  rcases written.text_characters c member with alphanum | rfl
  · exact namePart_not_blank c (by simp [isNamePart, alphanum])
  · rfl

theorem literal_text (written : WrittenInteger) : literal? written.text = some written.value := by
  have read := magnitude_spelled written.spelled
  cases negative : written.negative with
  | true =>
      have signed : written.text = '-' :: (written.radix.mark ++ written.digits) := by
        simp [text, sign, negative]
      simp [signed, literal?, read, value, negative]
  | false =>
      have unsigned : written.text = written.radix.mark ++ written.digits := by
        simp [text, sign, negative]
      rw [unsigned, literal_of_magnitude _ _ written.unsigned_head read, value, negative]
      rfl

/-- How many digits the integer is written with, if it is decimal and they are too many. -/
def excess? (written : WrittenInteger) : Option Nat :=
  if written.radix = .decimal ∧ digitLimit < written.digits.length then some written.digits.length
  else none

theorem excess_text (written : WrittenInteger) : excessDigits? written.text = written.excess? := by
  have bare : withoutMinus written.text = written.radix.mark ++ written.digits := by
    cases negative : written.negative with
    | true => simp [text, sign, negative, withoutMinus]
    | false =>
        have unsigned : written.text = written.radix.mark ++ written.digits := by
          simp [text, sign, negative]
        rw [unsigned, withoutMinus.eq_2]
        rintro digits same
        exact written.unsigned_head (by rw [same]; rfl)
  rw [excessDigits?, excess?, bare]
  rcases written with ⟨negative, radix, n, digits, spelled⟩
  cases radix with
  | decimal =>
      have read : numeral? 10 digitValue? digits = some n :=
        numeral_spelled (by decide) digitValue_reads spelled
      simp [Radix.mark, read]
  | hexadecimal =>
      have unread : numeral? 10 digitValue? (Radix.hexadecimal.mark ++ digits) = none := rfl
      simp [unread]
  | binary =>
      have unread : numeral? 10 digitValue? (Radix.binary.mark ++ digits) = none := rfl
      simp [unread]

theorem excess_marked (written : WrittenInteger) (marked : written.radix ≠ .decimal) :
    written.excess? = none := if_neg fun excess => marked excess.1

/-- The same integer with more zeros in front. -/
def padded (written : WrittenInteger) (zeros : Nat) : WrittenInteger :=
  { written with
    digits := List.replicate zeros '0' ++ written.digits
    spelled := written.spelled.padded zeros }

/-- Zeros are counted like all other digits. -/
theorem padded_excess (written : WrittenInteger) (decimal : written.radix = .decimal) :
    (written.padded digitLimit).excess? = some (digitLimit + written.digits.length) := by
  have some_digit : 0 < written.digits.length := List.length_pos_iff.mpr written.spelled.nonempty
  have count : (written.padded digitLimit).digits.length = digitLimit + written.digits.length := by
    simp [padded]
  rw [excess?, count]
  exact if_pos ⟨decimal, by omega⟩

theorem number_text (written : WrittenInteger) (within : written.excess? = none) :
    number? written.text = some written.value := by
  rw [number_some_iff, trim_eq_self (trimmed_of_solid written.text_solid), written.excess_text]
  exact ⟨within, written.literal_text⟩

/-- Every integer can be written in every radix. -/
def ofInt (radix : Radix) (value : Int) : WrittenInteger where
  negative := decide (value < 0)
  radix := radix
  magnitude := value.natAbs
  digits := Nat.toDigits radix.base value.natAbs
  spelled := by
    have small : ∀ d < radix.base, d.digitChar.toLower = d.digitChar := by
      cases radix <;> simp only [Radix.base] <;> decide
    refine ⟨0, (List.map_congr_left fun c member => ?_).trans (List.map_id _)⟩
    obtain ⟨d, below, same⟩ := mem_toDigits radix.positional _ c member
    rw [same, small d below, id]

theorem ofInt_value (radix : Radix) (value : Int) : (ofInt radix value).value = value := by
  simp only [ofInt, WrittenInteger.value, decide_eq_true_eq]
  split <;> omega

/-- A number is written in decimal digits exactly if its digits can be read back. -/
theorem excess_ofInt (value : Int) :
    (ofInt .decimal value).excess? = none ↔ writable value = true := by
  have counted : (Nat.toDigits 10 value.natAbs).length ≤ digitLimit ↔
      value.natAbs < 10 ^ digitLimit := Nat.length_toDigits_le_iff (by decide) (by decide)
  have few : (ofInt .decimal value).excess? = none ↔
      (Nat.toDigits 10 value.natAbs).length ≤ digitLimit := by
    simp [excess?, ofInt, Radix.base]
  rw [few, counted, writable, decide_eq_true_eq, writingBound_eq]

theorem ofInt_decimal (value : Int) : (ofInt .decimal value).text = decimal value := by
  cases value with
  | ofNat n => rfl
  | negSucc n =>
      have negative : decide (Int.negSucc n < 0) = true := decide_eq_true (Int.negSucc_lt_zero n)
      simp only [ofInt, text, negative]
      rfl

end WrittenInteger

end AttAssembly
