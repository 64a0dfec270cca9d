import AttAssembly.Proofs.Lexeme.Numerals
import AttAssembly.Proofs.Operand.Forms

/-!
Immediates and registers. A number is read as an immediate after a dollar sign in every radix, as
long as 32 bits hold it. An immediate or a register that can be read consists of source parts: what
numbers, names and names of registers are written with, the mark in front and blanks after it. No
bracket, comma, colon, quote or comment mark is among them.
-/

namespace AttAssembly

namespace WrittenInteger

variable (written : WrittenInteger)

theorem text_trimmed : Trimmed written.text := trimmed_of_solid written.text_solid

-- A number is never taken for a symbol, because no name is read as a number.
theorem text_unnamed : isLabelName written.text = false := by
  rw [isLabelName_trimmed _ written.text_trimmed, Bool.eq_false_iff]
  intro named
  have read := written.literal_text
  rw [name_not_number named] at read
  cases read

theorem readNumber_text (invalid : OperandError) :
    Operand.readNumber invalid written.text =
      Operand.unlessExcess written.excess? written.value := by
  have whole := trim_eq_self written.text_trimmed
  rw [Operand.readNumber_literal (whole.symm ▸ written.literal_text), whole, written.excess_text]

theorem readImmediate_text (range : InRange written.value) (within : written.excess? = none) :
    Operand.readImmediate ('$' :: written.text) =
      .ok ⟨'$' :: written.text, .immediate (.number written.value), .immediate⟩ := by
  have whole : Trimmed ('$' :: written.text) :=
    trimmed_of_solid (List.forall_mem_cons.mpr ⟨rfl, written.text_solid⟩)
  simp only [Operand.readImmediate, trim_eq_self whole, trim_eq_self written.text_trimmed,
    written.text_unnamed, Operand.readNumber_ok_iff.mpr (written.number_text within), Bool.false_eq_true,
    if_false]
  exact if_pos ((fits32_iff _).mpr range)

end WrittenInteger

/-- The code points of immediates and registers. The name of a register is read in capitals, so a
    letter outside ASCII whose capital is an ASCII one may stand in it too. -/
def isSourcePart (c : Char) : Bool :=
  isNumeralPart c || isNamePart c || isBlank c || (upperLetter c).all Char.isUpper ||
    c = '$' || c = '%' || c = '-'

theorem sourcePart_quiet (c : Char) (part : isSourcePart c = true) : isQuiet c = true := by
  have other (mark : Char) (foreign : isSourcePart mark = false) : c ≠ mark := by
    rintro rfl
    rw [part] at foreign
    cases foreign
  simp [isQuiet, isCommentMark, other '"' rfl, other '(' rfl, other ')' rfl, other ',' rfl,
    other ';' rfl, other '#' rfl]

section Lexemes

theorem number_sourceParts {token : Text} {value : Int} (read : number? token = some value) :
    ∀ c ∈ trim token, isSourcePart c = true := by
  intro c member
  rcases number_characters read c member with part | rfl
  · simp [isSourcePart, part]
  · simp [isSourcePart]

theorem name_sourceParts {name : Text} (named : isName name = true) :
    ∀ c ∈ name, isSourcePart c = true :=
  fun c member => by simp [isSourcePart, isName_parts name named c member]

theorem register_sourceParts {token : Text} {register : Register}
    (read : Register.read? token = some register) : ∀ c ∈ trim token, isSourcePart c = true := by
  have named {name : Text} (found : Register.ofName? (upper name) = some register) :
      ∀ c ∈ name, isSourcePart c = true := by
    intro c member
    have capitals := List.all_eq_true.mpr (Register.read_capitals found c member)
    simp [isSourcePart, capitals]
  rw [Register.read?] at read
  split at read
  · next name percent =>
      rw [percent]
      exact List.forall_mem_cons.mpr ⟨by simp [isSourcePart], named read⟩
  · exact named read

theorem sourceParts_of_trim {text : Text} (parts : ∀ c ∈ trim text, isSourcePart c = true) :
    ∀ c ∈ text, isSourcePart c = true := by
  have blanks {text : Text} (blank : ∀ c ∈ text, isBlank c = true) :
      ∀ c ∈ text, isSourcePart c = true :=
    fun c member => by simp [isSourcePart, blank c member]
  obtain ⟨before, after, whole, front, back⟩ := trim_within text
  rw [whole]
  exact List.forall_mem_append.mpr ⟨List.forall_mem_append.mpr ⟨blanks front, parts⟩, blanks back⟩

end Lexemes

namespace Operand

variable {token : Text} {operand : Operand}

theorem readRegisterName_sourceParts {register : Register}
    (read : readRegisterName token = .ok register) : ∀ c ∈ trim token, isSourcePart c = true := by
  rw [readRegisterName] at read
  split at read
  · next found => exact register_sourceParts found
  · cases read

theorem readImmediate_sourceParts (read : readImmediate token = .ok operand) :
    ∀ c ∈ trim token, isSourcePart c = true := by
  have dollar {rest : Text} (dollar : trim token = '$' :: rest)
      (body : ∀ c ∈ trim rest, isSourcePart c = true) : ∀ c ∈ trim token, isSourcePart c = true := by
    rw [dollar]
    exact List.forall_mem_cons.mpr ⟨by simp [isSourcePart], sourceParts_of_trim body⟩
  cases readImmediate_iff.mp read with
  | symbol marked named => exact dollar marked (name_sourceParts named)
  | @number rest _ marked _ written _ =>
      exact dollar marked (trim_trim rest ▸ number_sourceParts written)

theorem readRegister_sourceParts (read : readRegister token = .ok operand) :
    ∀ c ∈ trim token, isSourcePart c = true := by
  obtain ⟨name, register, percent, named, _⟩ := readRegister_ok_iff.mp read
  rw [← percent] at named
  exact trim_trim token ▸ readRegisterName_sourceParts named

theorem readMemory_isMemory (read : readMemory token = .ok operand) : operand.isMemory = true := by
  cases readMemory_iff.mp read <;> rfl

/-- What is not read from memory is an immediate or a register. -/
theorem read_sourceParts (read : Operand.read token = .ok operand)
    (direct : operand.isMemory = false) : ∀ c ∈ trim token, isSourcePart c = true := by
  rw [← trim_trim]
  simp only [Operand.read] at read
  split at read
  · exact readImmediate_sourceParts read
  · exact readRegister_sourceParts read
  · rw [readMemory_isMemory read] at direct
    cases direct

end Operand

end AttAssembly
