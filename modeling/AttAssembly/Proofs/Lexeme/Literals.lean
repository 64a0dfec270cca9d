import AttAssembly.Proofs.Lexeme.Layout

/-!
The grammar of number literals. What is read as a number is a minus sign or none, the mark of a radix
in either letter case, and digits of that radix with any number of zeros in front; decimal digits, which
have no mark, may be of any script. The number is the one that the digits spell, so reading a literal
has nothing to choose.
-/

namespace AttAssembly

section Digits

variable {base : Nat} {digit? : Char → Option Nat} {text : Text} {n : Nat}

/-- The ASCII digit that is read as the same value. -/
def plainDigit (digit? : Char → Option Nat) (c : Char) : Char := ((digit? c).getD 0).digitChar

/-- Whatever the digits look like, those of the number are read, after zeros if there are any. -/
theorem numeral_plain (positional : 1 < base) (below : ∀ c d, digit? c = some d → d < base)
    (read : numeral? base digit? text = some n) :
    ∃ zeros, text.map (plainDigit digit?) =
      List.replicate zeros '0' ++ Nat.toDigits base n := by
  have written := (numeral_digits read).1
  rw [numeral_of_nonempty written] at read
  -- The last digit is the remainder by the base, those before it spell the quotient.
  induction text using List.reverseRecOn generalizing n with
  | nil => exact absurd rfl written
  | append_singleton front c ih =>
      rw [numeralFrom_append] at read
      obtain ⟨quotient, readFront, readLast⟩ := Option.bind_eq_some_iff.mp read
      obtain ⟨d, digit, rfl⟩ : ∃ d, digit? c = some d ∧ quotient * base + d = n := by
        cases digit : digit? c with
        | none => simp [numeralFrom, digit] at readLast
        | some d => exact ⟨d, rfl, by simpa [numeralFrom, digit] using readLast⟩
      have small := below c d digit
      have last : plainDigit digit? c = d.digitChar := by rw [plainDigit, digit, Option.getD_some]
      rw [List.map_append, List.map_singleton, last]
      by_cases alone : front = []
      · subst front
        cases readFront
        refine ⟨0, ?_⟩
        simp [Nat.toDigits_of_lt_base small]
      · obtain ⟨zeros, same⟩ := ih readFront alone
        rw [same]
        by_cases nothing : quotient = 0
        · subst quotient
          refine ⟨zeros + 1, ?_⟩
          simp [Nat.toDigits_of_lt_base small, List.replicate_succ']
        · have larger : base ≤ quotient * base + d :=
            le_add_right (Nat.le_mul_of_pos_left base (Nat.pos_of_ne_zero nothing))
          have back : (quotient * base + d) / base = quotient := by
            rw [Nat.mul_comm, Nat.mul_add_div (by omega), Nat.div_eq_of_lt small, Nat.add_zero]
          have remainder : (quotient * base + d) % base = d := by
            rw [Nat.mul_comm, Nat.mul_add_mod, Nat.mod_eq_of_lt small]
          refine ⟨zeros, ?_⟩
          rw [Nat.toDigits_of_base_le positional larger, back, remainder, List.append_assoc]

/-- Digits that are ASCII letters and figures spell the number that is read. -/
theorem spells_of_numeral (positional : 1 < base)
    (lowered : ∀ c d, digit? c = some d → d < base ∧ c.toLower = d.digitChar)
    (read : numeral? base digit? text = some n) : Spells base n text := by
  obtain ⟨zeros, plain⟩ :=
    numeral_plain positional (fun c d digit => (lowered c d digit).1) read
  refine ⟨zeros, (List.map_congr_left fun c member => ?_).trans plain⟩
  obtain ⟨d, digit⟩ := Option.isSome_iff_exists.mp ((numeral_digits read).2 c member)
  rw [(lowered c d digit).2, plainDigit, digit, Option.getD_some]

theorem hexDigitValue_lowered {c : Char} {d : Nat} (digit : hexDigitValue? c = some d) :
    d < 16 ∧ c.toLower = d.digitChar := by
  have each : ∀ code < 0x80, (hexDigitValue? (Char.ofNat code)).all (fun d =>
      decide (d < 16) && (Char.ofNat code).toLower == d.digitChar) = true := by decide +kernel
  have ascii : c.toNat < 0x80 := by
    have below {high : Char} (inside : c ≤ high) (low : high.toNat < 0x80) : c.toNat < 0x80 :=
      lt_of_le_of_lt inside low
    rw [hexDigitValue?] at digit
    split at digit
    · next figure => exact below figure.2 (by decide)
    · split at digit
      · next small => exact below small.2 (by decide)
      · split at digit
        · next capital => exact below capital.2 (by decide)
        · cases digit
  have here := each c.toNat ascii
  rw [Char.ofNat_toNat, digit] at here
  simpa using here

theorem binaryDigitValue_lowered {c : Char} {d : Nat} (digit : binaryDigitValue? c = some d) :
    d < 2 ∧ c.toLower = d.digitChar := by
  rw [binaryDigitValue?] at digit
  split at digit
  · next zero =>
      cases digit
      exact zero ▸ by decide
  · split at digit
    · next one =>
        cases digit
        exact one ▸ by decide
    · cases digit

theorem digitValue_below {c : Char} {d : Nat} (digit : digitValue? c = some d) : d < 10 := by
  obtain ⟨start, found, rfl⟩ := Option.map_eq_some_iff.mp digit
  have inside := List.find?_some found
  simp only [Bool.and_eq_true, decide_eq_true_eq] at inside
  omega

end Digits

/-- A natural number as it can be written: the mark of a radix in either letter case and ASCII digits
with any zeros in front, or decimal digits that have the values of such digits in whatever script. -/
inductive Magnitude (n : Nat) : Text → Prop
  | ascii (radix : Radix) {mark digits : Text} (marks : mark.map Char.toLower = radix.mark)
      (spelled : Spells radix.base n digits) : Magnitude n (mark ++ digits)
  | scripted {digits plain : Text} (spelled : Spells 10 n plain)
      (same : List.Forall₂ (fun c d => digitValue? c = digitValue? d) digits plain) :
      Magnitude n digits

/-- An integer as it can be written: without a sign, or with a minus sign in front. -/
inductive Literal : Int → Text → Prop
  | unsigned {n : Nat} {digits : Text} (written : Magnitude n digits) : Literal n digits
  | negated {n : Nat} {digits : Text} (written : Magnitude n digits) : Literal (-n) ('-' :: digits)

section Magnitudes

variable {n : Nat} {text : Text}

theorem numeralFrom_same {digits plain : Text}
    (same : List.Forall₂ (fun c d => digitValue? c = digitValue? d) digits plain) (value : Nat) :
    numeralFrom 10 digitValue? value digits = numeralFrom 10 digitValue? value plain := by
  induction same generalizing value with
  | nil => rfl
  | @cons c d _ _ first rest ih =>
      rw [numeralFrom, numeralFrom, first]
      cases digitValue? d with
      | none => rfl
      | some digit => exact ih _

theorem magnitude_scripted {digits plain : Text} (spelled : Spells 10 n plain)
    (same : List.Forall₂ (fun c d => digitValue? c = digitValue? d) digits plain) :
    magnitude? digits = some n := by
  have read := numeral_spelled (by decide) digitValue_reads spelled
  have written : digits ≠ [] := by
    rintro rfl
    cases same
    exact spelled.nonempty rfl
  rw [numeral_of_nonempty spelled.nonempty, ← numeralFrom_same same,
    ← numeral_of_nonempty written] at read
  rw [magnitude_of_digits digits (numeral_digits read).2, read]

theorem mark_letters (small capital : Char) (upper : small.toUpper = capital) {mark : Text}
    (marks : mark.map Char.toLower = ['0', small]) :
    ∃ letter, mark = ['0', letter] ∧ (letter = small ∨ letter = capital) := by
  obtain ⟨first, second, rfl⟩ : ∃ first second, mark = [first, second] :=
    List.length_eq_two.mp (by simpa using congrArg List.length marks)
  obtain ⟨zero, others⟩ := List.cons.inj marks
  obtain ⟨lowered, _⟩ := List.cons.inj others
  have figure : first = '0' := by
    rcases letter_case first with same | same
    · exact same.trans zero
    · rw [same, zero]
      rfl
  refine ⟨second, by rw [figure], ?_⟩
  rcases letter_case second with same | same
  · exact .inl (same.trans lowered)
  · rw [lowered, upper] at same
    exact .inr same

theorem magnitude_ascii {radix : Radix} {mark digits : Text}
    (marks : mark.map Char.toLower = radix.mark) (spelled : Spells radix.base n digits) :
    magnitude? (mark ++ digits) = some n := by
  cases radix with
  | decimal =>
      obtain rfl : mark = [] := List.map_eq_nil_iff.mp marks
      exact @magnitude_spelled .decimal n digits spelled
  | hexadecimal =>
      obtain ⟨letter, rfl, hexadecimal⟩ := mark_letters 'x' 'X' rfl marks
      rw [List.cons_append, List.cons_append, magnitude?, if_pos hexadecimal]
      exact numeral_spelled (by decide) hexDigitValue_reads spelled
  | binary =>
      obtain ⟨letter, rfl, binary⟩ := mark_letters 'b' 'B' rfl marks
      have noHexadecimal : ¬ (letter = 'x' ∨ letter = 'X') := by
        rcases binary with rfl | rfl <;> decide
      rw [List.cons_append, List.cons_append, magnitude?, if_neg noHexadecimal, if_pos binary]
      exact numeral_spelled (by decide) binaryDigitValue_reads spelled

theorem magnitude_of_decimal (read : numeral? 10 digitValue? text = some n) : Magnitude n text := by
  obtain ⟨zeros, plain⟩ := numeral_plain (by decide) (fun _ _ => digitValue_below) read
  have figure (d : Nat) (below : d < 10) : d.digitChar.toLower = d.digitChar ∧
      digitValue? d.digitChar = some d :=
    ⟨(by decide : ∀ d < 10, d.digitChar.toLower = d.digitChar) d below,
      (digitValue_reads d below).1⟩
  have digits : ∀ c ∈ text, ∃ d < 10, digitValue? c = some d ∧
      plainDigit digitValue? c = d.digitChar := by
    intro c member
    obtain ⟨d, digit⟩ := Option.isSome_iff_exists.mp ((numeral_digits read).2 c member)
    exact ⟨d, digitValue_below digit, digit, by rw [plainDigit, digit, Option.getD_some]⟩
  refine @Magnitude.scripted n text (text.map (plainDigit digitValue?)) ⟨zeros, ?_⟩ ?_
  · rw [List.map_map, ← plain]
    refine List.map_congr_left fun c member => ?_
    obtain ⟨d, below, _, same⟩ := digits c member
    rw [Function.comp_apply, same, (figure d below).1]
  · rw [List.forall₂_map_right_iff, List.forall₂_same]
    intro c member
    obtain ⟨d, below, digit, same⟩ := digits c member
    rw [same, digit, (figure d below).2]

theorem magnitude_iff : magnitude? text = some n ↔ Magnitude n text := by
  constructor
  · intro read
    cases magnitude_magnitudeAs read with
    | @hexadecimal letter digits marked numeral =>
        have spelled := spells_of_numeral (by decide) (fun _ _ => hexDigitValue_lowered) numeral
        refine @Magnitude.ascii n .hexadecimal ['0', letter] digits ?_ spelled
        rcases marked with rfl | rfl <;> decide
    | @binary letter digits marked numeral =>
        have spelled := spells_of_numeral (by decide) (fun _ _ => binaryDigitValue_lowered) numeral
        refine @Magnitude.ascii n .binary ['0', letter] digits ?_ spelled
        rcases marked with rfl | rfl <;> decide
    | decimal _ numeral => exact magnitude_of_decimal numeral
  · intro written
    cases written with
    | ascii radix marks spelled => exact magnitude_ascii marks spelled
    | scripted spelled same => exact magnitude_scripted spelled same

end Magnitudes

section Literals

variable {value : Int} {text : Text}

theorem literal_iff : literal? text = some value ↔ Literal value text := by
  constructor
  · intro read
    rw [literal?.eq_def] at read
    split at read
    · next digits =>
        obtain ⟨n, found, rfl⟩ := Option.map_eq_some_iff.mp read
        exact .negated (magnitude_iff.mp found)
    · obtain ⟨n, found, rfl⟩ := Option.map_eq_some_iff.mp read
      exact .unsigned (magnitude_iff.mp found)
  · intro written
    cases written with
    | negated written => simp [literal?, magnitude_iff.mpr written]
    | unsigned written =>
        have read := magnitude_iff.mpr written
        -- No digit and no mark is a minus sign.
        rw [literal?.eq_def]
        split
        · have minus := (magnitude_characters read).2 '-' List.mem_cons_self
          exact absurd minus (by decide)
        · simp [read]

theorem number_iff (token : Text) :
    number? token = some value ↔
      Literal value (trim token) ∧ excessDigits? (trim token) = none := by
  rw [number_some_iff, literal_iff, and_comm]

/-- The digits that can be too many are decimal ones, of any script and zeros in front among them. -/
theorem excess_iff (count : Nat) :
    excessDigits? text = some count ↔ digitLimit < count ∧ (withoutMinus text).length = count ∧
      ∀ c ∈ withoutMinus text, (digitValue? c).isSome = true := by
  rw [excessDigits?]
  constructor
  · intro excess
    split at excess
    · next many =>
        cases excess
        obtain ⟨n, read⟩ := Option.isSome_iff_exists.mp many.2
        exact ⟨many.1, rfl, (numeral_digits read).2⟩
    · cases excess
  · rintro ⟨many, rfl, decimal⟩
    have written : withoutMinus text ≠ [] := List.ne_nil_of_length_pos (by omega)
    rw [numeral_of_nonempty written, if_pos ⟨many, numeralFrom_isSome decimal⟩]

theorem Literal.solid (written : Literal value text) : ∀ c ∈ text, isBlank c = false := by
  have digits {n : Nat} {digits : Text} (written : Magnitude n digits) :
      ∀ c ∈ digits, isBlank c = false := fun c member =>
    numeralPart_solid ((magnitude_characters (magnitude_iff.mpr written)).2 c member)
  cases written with
  | unsigned written => exact digits written
  | negated written => exact List.forall_mem_cons.mpr ⟨rfl, digits written⟩

theorem Literal.trim_margins (written : Literal value text) {before after : Text}
    (front : ∀ c ∈ before, isBlank c = true) (back : ∀ c ∈ after, isBlank c = true) :
    trim (before ++ text ++ after) = text := by
  rw [List.append_assoc, trim_after_blanks _ _ front, trim_append_blanks _ _ back,
    trim_eq_self (trimmed_of_solid written.solid)]

theorem Literal.number (written : Literal value text) (within : excessDigits? text = none)
    {before after : Text} (front : ∀ c ∈ before, isBlank c = true)
    (back : ∀ c ∈ after, isBlank c = true) : number? (before ++ text ++ after) = some value := by
  rw [number_iff, written.trim_margins front back]
  exact ⟨written, within⟩

theorem Literal.nonempty (written : Literal value text) : text ≠ [] := by
  cases written with
  | unsigned written => exact (magnitude_characters (magnitude_iff.mpr written)).1
  | negated written => exact List.cons_ne_nil _ _

end Literals

end AttAssembly
