import AttAssembly.Mnemonic.Classification
import AttAssembly.Proofs.Text.LetterCase

/-!
The names of mnemonics. All known names are in lower case, and a size letter is cut off only to leave a
known one, so the mnemonic of a record is in lower case whatever the line has. A word with a known name
is made of ASCII letters, since the only other letter with a lower case among them is in no name.
-/

namespace AttAssembly

theorem OperandSize.ofLetter_some {c : Char} {size : OperandSize} (read : ofLetter? c = some size) :
    c = size.letter := by
  rw [ofLetter?.eq_def] at read
  split at read <;> cases read <;> rfl

theorem RepeatPrefix.ofName_iff (name : Text) (repetition : RepeatPrefix) :
    ofName? name = some repetition ↔ name = repetition.name := by
  constructor
  · intro found
    have same := List.find?_some found
    exact (of_decide_eq_true same).symm
  · rintro rfl
    cases repetition <;> rfl

theorem RepeatPrefix.entry (repetition : RepeatPrefix) :
    entryOf? repetition.name = some ⟨.string, [], none⟩ := by
  cases repetition <;> decide

theorem RepeatPrefix.known (repetition : RepeatPrefix) : isKnown repetition.name = true := by
  rw [isKnown, repetition.entry, Option.isSome_some]

/-- A size letter is cut off of what is not known, and only to leave what is. -/
theorem splitSizeSuffix_cases (mnemonic : Text) :
    splitSizeSuffix mnemonic = (lower mnemonic, none) ∨
      ∃ base size, splitSizeSuffix mnemonic = (base, some size) ∧
        lower mnemonic = base ++ [size.letter] ∧ isKnown base = true ∧
        isKnown (lower mnemonic) = false := by
  simp only [splitSizeSuffix]
  by_cases known : isKnown (lower mnemonic) = true
  · rw [if_pos known]
    exact .inl rfl
  · rw [if_neg known]
    cases last : (lower mnemonic).getLast? with
    | none => exact .inl rfl
    | some c =>
        obtain ⟨front, same⟩ := List.getLast?_eq_some_iff.mp last
        rw [same, List.dropLast_concat, Option.bind_some]
        cases read : OperandSize.ofLetter? c with
        | none => exact .inl rfl
        | some size =>
            dsimp only
            by_cases base : isKnown front = true
            · rw [if_pos base]
              refine .inr ⟨front, size, rfl, ?_, base, by simpa [same] using known⟩
              rw [OperandSize.ofLetter_some read]
            · rw [if_neg base]
              exact .inl rfl

theorem splitSizeSuffix_unknown (mnemonic : Text)
    (unknown : entryOf? (splitSizeSuffix mnemonic).1 = none) :
    (splitSizeSuffix mnemonic).1 = lower mnemonic := by
  rcases splitSizeSuffix_cases mnemonic with whole | ⟨base, size, cut, _, known, _⟩
  · rw [whole]
  · rw [cut] at unknown
    rw [isKnown, unknown] at known
    cases known

theorem known_lower {name : Text} {entry : MnemonicEntry} (known : entryOf? name = some entry) :
    lower name = name := by
  have each : ∀ entry ∈ mnemonicTable, lower entry.1 = entry.1 := by decide +kernel
  exact each _ (mem_of_lookup known)

theorem splitSizeSuffix_lower (mnemonic : Text) :
    lower (splitSizeSuffix mnemonic).1 = (splitSizeSuffix mnemonic).1 := by
  cases known : entryOf? (splitSizeSuffix mnemonic).1 with
  | none => rw [splitSizeSuffix_unknown mnemonic known, lower_lower]
  | some entry => exact known_lower known

/-- A word with a known name in any letter case is made of ASCII letters. -/
theorem known_letters {word : Text} (known : isKnown (lower word) = true) :
    ∀ c ∈ word, c.isAlpha = true := by
  have each : mnemonicTable.all (fun entry => entry.1.all fun d => d ≠ 'k' && d.isLower) = true := by
    decide
  obtain ⟨entry, found⟩ := Option.isSome_iff_exists.mp known
  have name := List.all_eq_true.mp each _ (mem_of_lookup found)
  have letters : ∀ d ∈ lower word, d ≠ 'k' ∧ d.isLower = true := by simpa using name
  exact letters_of_lowerFrom letters

theorem splitSizeSuffix_known {name : Text} (small : lower name = name)
    (known : isKnown name = true) : splitSizeSuffix name = (name, none) := by
  simp [splitSizeSuffix, small, known]

theorem splitSizeSuffix_suffixed {name : Text} {size : OperandSize}
    (small : lower (name ++ [size.letter]) = name ++ [size.letter]) (known : isKnown name = true)
    (unknown : isKnown (name ++ [size.letter]) = false) :
    splitSizeSuffix (name ++ [size.letter]) = (name, some size) := by
  have read : OperandSize.ofLetter? size.letter = some size := by cases size <;> rfl
  simp [splitSizeSuffix, small, unknown, known, read]

end AttAssembly
