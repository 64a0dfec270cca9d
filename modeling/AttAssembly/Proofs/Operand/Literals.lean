import AttAssembly.Proofs.Lexeme.Literals
import AttAssembly.Proofs.Operand.Layout

/-!
Number literals where operands have them. After a dollar sign a literal is an immediate if 32 bits hold
its number, with or without a sign, and an error if not. After a symbol and a sign it is a displacement,
which may be any number: the sign in front is not part of the literal. In both places a decimal literal
with too many digits is an error, whatever number it spells.
-/

namespace AttAssembly

namespace Operand

section Immediates

variable {token : Text} {value : Int}

theorem trim_dollar (token : Text) : trim ('$' :: token) = '$' :: trimRight token := by
  have front : trimLeft ('$' :: token) = '$' :: token := trimLeft_eq_self _ (by rintro c ⟨⟩; rfl)
  rw [trim, front]
  exact trimRight_after_solid [] token '$' rfl

/-- A number is never taken for a symbol. -/
theorem literal_unnamed (written : Literal value (trim token)) : isLabelName (trim token) = false := by
  rw [isLabelName_trimmed _ (trimmed_trim token), Bool.eq_false_iff]
  intro named
  have read := literal_iff.mpr written
  rw [name_not_number named] at read
  cases read

theorem readNumber_written (invalid : OperandError) (written : Literal value (trim token)) :
    readNumber invalid token = unlessExcess (excessDigits? (trim token)) value :=
  readNumber_literal (literal_iff.mpr written)

theorem readImmediate_literal (written : Literal value (trim token)) :
    readImmediate ('$' :: token) =
      match excessDigits? (trim token) with
      | some count => .error (.tooManyDigits count)
      | none =>
          if -2 ^ 31 ≤ value ∧ value ≤ 2 ^ 32 - 1 then
            .ok ⟨'$' :: trimRight token, .immediate (.number value), .immediate⟩
          else .error (.immediateOutOfRange ('$' :: token)) := by
  have again : Literal value (trim (trim token)) := by rwa [trim_trim]
  simp only [readImmediate, trim_dollar, trim_trimRight, literal_unnamed written,
    readNumber_written _ again, trim_trim, Bool.false_eq_true, if_false]
  cases excessDigits? (trim token) with
  | some count => rfl
  | none => exact if_congr (fits32_iff value) rfl rfl

end Immediates

section Displacements

/-- The sign that an integer is written with. Zero may have either. -/
inductive Signs : Char → Int → Prop
  | plus {value : Int} (nonnegative : 0 ≤ value) : Signs '+' value
  | minus {value : Int} (nonpositive : value ≤ 0) : Signs '-' value

variable {name gap literal : Text} {sign : Char} {value : Int}

theorem literal_plain (written : Literal value literal) :
    ∀ c ∈ literal, c ≠ '(' ∧ c ≠ ')' ∧ c ≠ '\n' := by
  have parts := literal_characters (literal_iff.mpr written)
  have other (mark : Char) (foreign : isNumeralPart mark = false) (noMinus : mark ≠ '-') :
      ∀ c ∈ literal, c ≠ mark := by
    rintro c member rfl
    rcases parts c member with part | minus
    · rw [foreign] at part
      cases part
    · exact noMinus minus
  exact fun c member => ⟨other '(' (by decide) (by decide) c member,
    other ')' (by decide) (by decide) c member, other '\n' (by decide) (by decide) c member⟩

section Reading

variable (named : isName name = true) (signs : Signs sign value) (written : Literal |value| literal)
  (blank : ∀ c ∈ gap, isBlank c = true) (oneLine : '\n' ∉ gap)
include named signs written blank oneLine

theorem displaced_characters :
    ∀ c ∈ name ++ sign :: (gap ++ literal), c ≠ '(' ∧ c ≠ ')' ∧ c ≠ '\n' := by
  have names : ∀ c ∈ name, c ≠ '(' ∧ c ≠ ')' ∧ c ≠ '\n' := by
    intro c member
    have part := isName_parts name named c member
    refine ⟨?_, ?_, ?_⟩ <;>
      · rintro rfl
        cases part
  have marks : sign ≠ '(' ∧ sign ≠ ')' ∧ sign ≠ '\n' := by cases signs <;> decide
  have gaps : ∀ c ∈ gap, c ≠ '(' ∧ c ≠ ')' ∧ c ≠ '\n' := fun c member =>
    ⟨blank_ne (blank c member) rfl, blank_ne (blank c member) rfl,
      fun feed => oneLine (feed ▸ member)⟩
  exact List.forall_mem_append.mpr ⟨names, List.forall_mem_cons.mpr
    ⟨marks, List.forall_mem_append.mpr ⟨gaps, literal_plain written⟩⟩⟩

omit signs blank oneLine in
theorem displaced_trimmed : Trimmed (name ++ sign :: (gap ++ literal)) := by
  have written_ : name ≠ [] := by
    rintro rfl
    cases named
  have around := (isName_trimmed name named).around (trimmed_of_solid written.solid) (sign :: gap)
    written_ written.nonempty
  rwa [List.append_assoc] at around

theorem readDisplacement_displaced :
    readDisplacement (name ++ sign :: (gap ++ literal)) =
      unlessExcess (excessDigits? literal) (some name, some value) := by
  have plain := displaced_characters named signs written blank oneLine
  have trimmed : Trimmed (name ++ sign :: (gap ++ literal)) := displaced_trimmed named written
  have feedless : '\n' ∉ name ++ sign :: (gap ++ literal) :=
    fun feed => (plain '\n' feed).2.2 rfl
  have given : name ≠ [] := by
    rintro rfl
    cases named
  have leading : leadingName (name ++ sign :: (gap ++ literal)) = (name, sign :: (gap ++ literal)) := by
    apply leadingName_append name _ named
    rintro c ⟨⟩
    cases signs <;> rfl
  have rest : Trimmed (sign :: (gap ++ literal)) := by
    have mark : Trimmed [sign] := trimmed_of_solid (List.forall_mem_singleton.mpr
      (by cases signs <;> rfl))
    have around := mark.around (trimmed_of_solid written.solid) gap (List.cons_ne_nil sign [])
      written.nonempty
    simpa using around
  have alone : trim (gap ++ literal) = literal := by
    rw [trim_after_blanks _ _ blank, trim_eq_self (trimmed_of_solid written.solid)]
  have read (invalid : OperandError) : readNumber invalid (gap ++ literal) =
      unlessExcess (excessDigits? literal) |value| := by
    rw [readNumber_written invalid (alone.symm ▸ written), alone]
  rw [readDisplacement_oneLine _ (by rwa [trim_eq_self trimmed]), trim_eq_self trimmed, leading,
    if_neg given, trim_eq_self rest]
  cases signs with
  | plus nonnegative =>
      rw [displacementAfter, signedDisplacement, read, abs_of_nonneg nonnegative]
      cases excessDigits? literal <;> simp [unlessExcess]
  | minus nonpositive =>
      rw [displacementAfter, signedDisplacement, read, abs_of_nonpos nonpositive]
      cases excessDigits? literal <;> simp [unlessExcess]

theorem readMemory_displaced {after : Text} (back : ∀ c ∈ after, isBlank c = true) :
    readMemory (name ++ sign :: (gap ++ literal) ++ after) =
      unlessExcess (excessDigits? literal) ⟨name ++ sign :: (gap ++ literal),
        .memory ⟨some name, some value, none, none, none, false⟩, .direct⟩ := by
  have plain := displaced_characters named signs written blank oneLine
  have trimmed : Trimmed (name ++ sign :: (gap ++ literal)) := displaced_trimmed named written
  have displacement := readDisplacement_displaced named signs written blank oneLine
  have unstarred : (name ++ sign :: (gap ++ literal)).head? ≠ some '*' := by
    obtain ⟨c, rest, same, start, _⟩ := (isName_iff name).mp named
    subst same
    rintro ⟨⟩
    cases start
  have whole : trim (name ++ sign :: (gap ++ literal) ++ after) =
      name ++ sign :: (gap ++ literal) := by
    rw [trim_append_blanks _ _ back, trim_eq_self trimmed]
  rw [readMemory_displacement whole unstarred fun c member =>
    ⟨(plain c member).1, (plain c member).2.1⟩, displacement]
  cases excessDigits? literal <;> rfl

end Reading

end Displacements

/-- What is read as a number is exactly a literal with blanks around it, and its value is the number
that the literal spells, unless it has more decimal digits than are converted. A literal is an immediate
exactly if 32 bits hold its number, and a displacement of any size after a name and the sign of the
number; too many digits are an error in both places. -/
theorem number_literals_exact (value : Int) (literal : Text) :
    (∀ token, trim token = literal →
      (number? token = some value ↔ Literal value literal ∧ excessDigits? literal = none)) ∧
    (∀ before after, Literal value literal → (∀ c ∈ before, isBlank c = true) →
      (∀ c ∈ after, isBlank c = true) →
        (number? (before ++ literal ++ after) = some value ↔ excessDigits? literal = none)) ∧
    (∀ count, excessDigits? literal = some count ↔ digitLimit < count ∧
      (withoutMinus literal).length = count ∧
        ∀ c ∈ withoutMinus literal, (digitValue? c).isSome = true) ∧
    (∀ token, trim token = literal → Literal value literal → readImmediate ('$' :: token) =
      match excessDigits? literal with
      | some count => .error (.tooManyDigits count)
      | none =>
          if -2 ^ 31 ≤ value ∧ value ≤ 2 ^ 32 - 1 then
            .ok ⟨'$' :: trimRight token, .immediate (.number value), .immediate⟩
          else .error (.immediateOutOfRange ('$' :: token))) ∧
    ∀ name sign gap after, isName name = true → Signs sign value → Literal |value| literal →
      (∀ c ∈ gap, isBlank c = true) → '\n' ∉ gap → (∀ c ∈ after, isBlank c = true) →
        readMemory (name ++ sign :: (gap ++ literal) ++ after) =
          unlessExcess (excessDigits? literal) ⟨name ++ sign :: (gap ++ literal),
            .memory ⟨some name, some value, none, none, none, false⟩, .direct⟩ := by
  refine ⟨?_, ?_, excess_iff, ?_, ?_⟩
  · rintro token rfl
    exact number_iff token
  · intro before after written front back
    rw [number_iff, written.trim_margins front back, and_iff_right written]
  · rintro token rfl written
    exact readImmediate_literal written
  · intro name sign gap after named signs written blank oneLine back
    exact readMemory_displaced named signs written blank oneLine back

/-- Capital marks, zeros in front, a number too large by one, and figures of another script after a
minus sign. -/
theorem number_literals_exact_edges :
    Literal (-11) "-0B001011" ∧ Literal 4294967296 "0x100000000" ∧ Literal |(-12)| "١٢" ∧
      isName "tab" = true ∧ Signs '-' (-12) ∧ number? "\t-0B001011\n" = some (-11) ∧
      readImmediate "$ 0x100000000" = .error (.immediateOutOfRange "$ 0x100000000") ∧
      readMemory "tab- ١٢" =
        .ok ⟨"tab- ١٢", .memory ⟨some "tab", some (-12), none, none, none, false⟩, .direct⟩ := by
  have binary : Literal (-11) "-0B001011" :=
    .negated (@Magnitude.ascii 11 .binary ['0', 'B'] "001011" (by decide) ⟨2, by decide⟩)
  have hexadecimal : Literal 4294967296 "0x100000000" :=
    .unsigned (@Magnitude.ascii 4294967296 .hexadecimal ['0', 'x'] "100000000" (by decide)
      ⟨0, by decide⟩)
  have scripted : Literal |(-12)| "١٢" :=
    .unsigned (@Magnitude.scripted 12 "١٢" "12" ⟨0, by decide⟩
      (.cons (by decide) (.cons (by decide) .nil)))
  have signs : Signs '-' (-12) := .minus (by decide)
  have single (c : Char) (blank : isBlank c = true) : ∀ d ∈ [c], isBlank d = true :=
    List.forall_mem_singleton.mpr blank
  refine ⟨binary, hexadecimal, scripted, by decide, signs, ?_, ?_, ?_⟩
  · obtain ⟨_, reads, _⟩ := number_literals_exact (-11) "-0B001011"
    exact (reads ['\t'] ['\n'] binary (single '\t' rfl) (single '\n' rfl)).mpr rfl
  · obtain ⟨_, _, _, immediate, _⟩ := number_literals_exact 4294967296 "0x100000000"
    exact immediate " 0x100000000" (by decide) hexadecimal
  · obtain ⟨_, _, _, _, displaced⟩ := number_literals_exact (-12) "١٢"
    exact displaced "tab" '-' [' '] [] (by decide) signs scripted (single ' ' rfl)
      (by decide) (List.forall_mem_nil _)

/-- A seven behind as many zeros as there may be digits is a literal that is not read. -/
theorem padded_literal_refused :
    ¬ ∀ value literal, Literal value literal → number? literal = some value := by
  let seven : WrittenInteger := (WrittenInteger.ofInt .decimal 7).padded digitLimit
  have excess : excessDigits? seven.text = some 4301 :=
    seven.excess_text.trans (WrittenInteger.padded_excess _ rfl)
  intro claim
  have read := claim seven.value seven.text (literal_iff.mp seven.literal_text)
  rw [number_iff, trim_eq_self (trimmed_of_solid seven.text_solid), excess] at read
  cases read.2

end Operand

end AttAssembly
