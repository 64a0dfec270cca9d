import AttAssembly.Proofs.Lexeme.Scanning
import AttAssembly.Proofs.Text.Layout

/-!
What stands at the front of a line. A name is read up to the first code point that no name has, a
label up to its colon and a mnemonic up to the first blank; each of them is found again in a line
that was put together from it and a remainder.
-/

namespace AttAssembly

section Names

theorem isNamePart_range (c : Char) (part : isNamePart c = true) :
    0x20 < c.toNat ∧ c.toNat < 0x7F := by
  simp only [isNamePart, Char.isAlphanum, Char.isAlpha, Char.isUpper, Char.isLower, Char.isDigit,
    UInt32.le_iff_toNat_le, Bool.or_eq_true, Bool.and_eq_true, decide_eq_true_eq, ge_iff_le] at part
  rcases part with range | rfl
  · simp at range
    omega
  · decide

theorem namePart_not_blank (c : Char) (part : isNamePart c = true) : isBlank c = false :=
  visible_not_blank c (isNamePart_range c part).1 (isNamePart_range c part).2

theorem namePart_quiet (c : Char) (part : isNamePart c = true) : isQuiet c = true := by
  have other (mark : Char) (noPart : isNamePart mark = false) : c ≠ mark := by
    rintro rfl
    simp [part] at noPart
  simp [isQuiet, isCommentMark, other '"' rfl, other '(' rfl, other ')' rfl, other ',' rfl,
    other ';' rfl, other '#' rfl]

theorem isName_iff (text : Text) :
    isName text = true ↔ ∃ c rest, text = c :: rest ∧ isNameStart c = true ∧
      ∀ d ∈ rest, isNamePart d = true := by
  cases text with
  | nil => simp [isName]
  | cons c rest => simp [isName]

theorem isNameStart_part (c : Char) (start : isNameStart c = true) : isNamePart c = true := by
  simp only [isNameStart, isNamePart, Char.isAlphanum, Bool.or_eq_true] at start ⊢
  tauto

theorem isName_parts (name : Text) (named : isName name = true) :
    ∀ c ∈ name, isNamePart c = true := by
  obtain ⟨first, rest, same, start, parts⟩ := (isName_iff name).mp named
  subst same
  intro c member
  rcases List.mem_cons.mp member with rfl | later
  · exact isNameStart_part c start
  · exact parts c later

theorem isName_trimmed (name : Text) (named : isName name = true) : Trimmed name :=
  trimmed_of_solid fun c member => namePart_not_blank c (isName_parts name named c member)

theorem isLabelName_trimmed (token : Text) (trimmed : Trimmed token) :
    isLabelName token = isName token := by
  have noFeed : token.getLast? ≠ some '\n' := by
    intro last
    exact absurd (trimmed.2 '\n' last) (by decide)
  rw [isLabelName, if_neg noFeed]

theorem isName_isLabelName (name : Text) (named : isName name = true) : isLabelName name = true := by
  rw [isLabelName_trimmed name (isName_trimmed name named), named]

theorem leadingName_named (text : Text) (found : (leadingName text).1 ≠ []) :
    isName (leadingName text).1 = true := by
  rw [leadingName.eq_def] at found ⊢
  split
  · exact absurd rfl found
  · next c rest =>
      split
      · next start =>
          refine (isName_iff _).mpr ⟨c, _, rfl, start, fun d member => ?_⟩
          exact List.mem_takeWhile_imp member
      · next other => simp [other] at found

theorem leadingName_whole (text : Text) : (leadingName text).1 ++ (leadingName text).2 = text := by
  rw [leadingName.eq_def]
  split
  · rfl
  · next c rest =>
      split
      · exact congrArg (c :: ·) (List.takeWhile_append_dropWhile)
      · rfl

theorem leadingName_append (name rest : Text) (named : isName name = true)
    (stop : ∀ c ∈ rest.head?, isNamePart c = false) : leadingName (name ++ rest) = (name, rest) := by
  obtain ⟨first, tail, same, start, parts⟩ := (isName_iff name).mp named
  subst same
  obtain ⟨taken, dropped⟩ := cut_exact parts stop
  rw [List.cons_append, leadingName, if_pos start, taken, dropped]

theorem leadingName_none (text : Text) (other : ∀ c ∈ text.head?, isNameStart c = false) :
    leadingName text = ([], text) := by
  cases text with
  | nil => rfl
  | cons c rest => simp [leadingName, other c rfl]

end Names

section Labels

/-- A name and a colon directly after it stand at the front. -/
def BeginsWithLabel (content : Text) : Prop :=
  ∃ name rest, isName name = true ∧ content = name ++ ':' :: rest

theorem splitLabel_plain (content : Text) (plain : ¬ BeginsWithLabel content) :
    splitLabel content = (none, content) := by
  rw [splitLabel]
  split
  · next c name rest leading =>
      have named : isName (leadingName content).1 = true :=
        leadingName_named content (by simp [leading])
      have whole := leadingName_whole content
      rw [leading] at named whole
      exact absurd ⟨c :: name, rest, named, whole.symm⟩ plain
  · rfl

theorem colonless_plain (content : Text) (colonless : ':' ∉ content) : ¬ BeginsWithLabel content := by
  rintro ⟨name, rest, named, rfl⟩
  exact colonless (by simp)

theorem splitLabel_unlabelled (line : Text) (colonless : ':' ∉ line) :
    splitLabel line = (none, line) :=
  splitLabel_plain line (colonless_plain line colonless)

theorem onlyLine_self (text : Text) (oneLine : '\n' ∉ text) : onlyLine? text = some text := by
  have inside : ∀ c ∈ text, decide (c ≠ '\n') = true := by
    intro c member
    refine decide_eq_true ?_
    rintro rfl
    exact oneLine member
  rw [onlyLine?, List.takeWhile_eq_self_iff.mpr inside, List.dropWhile_eq_nil_iff.mpr inside]
  simp

theorem splitLabel_colon (label rest : Text) (named : isName label = true)
    (oneLine : '\n' ∉ rest) : splitLabel (label ++ ':' :: rest) = (some label, trim rest) := by
  have leading : leadingName (label ++ ':' :: rest) = (label, ':' :: rest) :=
    leadingName_append label _ named (by rintro c ⟨⟩; rfl)
  have feedless : '\n' ∉ trimLeft rest := fun feed => oneLine (trimLeft_subset rest feed)
  have bare : trimLeft (trimLeft rest) = trimLeft rest :=
    trimLeft_eq_self _ (trimLeft_front rest)
  obtain ⟨first, others, same, _⟩ := (isName_iff label).mp named
  subst same
  rw [splitLabel, leading]
  simp only [onlyLine_self _ feedless, trim, bare]

/-- What a label leaves is trimmed like the line that it is taken off. -/
theorem splitLabel_trimmed {content : Text} (trimmed : Trimmed content) :
    Trimmed (splitLabel content).2 := by
  rw [splitLabel]
  split
  · split
    · exact trimmed_trim _
    · exact trimmed
  · exact trimmed

theorem splitLabel_unlabelled_whole {content statement : Text}
    (separated : splitLabel content = (none, statement)) : statement = content := by
  rw [splitLabel] at separated
  split at separated
  · split at separated
    · cases separated
    · exact (congrArg Prod.snd separated).symm
  · exact (congrArg Prod.snd separated).symm

end Labels

section Mnemonics

theorem lower_ascii (text : Text) (ascii : ∀ c ∈ text, c.toNat < 0x80) :
    lower text = text.map Char.toLower := by
  rw [lower]
  generalize false = afterLetter
  induction text generalizing afterLetter with
  | nil => rfl
  | cons c rest ih =>
      have here := ascii c List.mem_cons_self
      have ordinary : c ≠ 'Σ' := by
        rintro rfl
        exact absurd here (by decide)
      rw [lowerFrom, if_neg ordinary, lowerLetter, if_pos here,
        ih fun d member => ascii d (List.mem_cons_of_mem c member)]
      rfl

theorem upper_ascii (text : Text) (ascii : ∀ c ∈ text, c.toNat < 0x80) :
    upper text = text.map Char.toUpper := by
  induction text with
  | nil => rfl
  | cons c rest ih =>
      have later := ih fun d member => ascii d (List.mem_cons_of_mem c member)
      rw [upper, List.flatMap_cons, upperLetter, if_pos (ascii c List.mem_cons_self), ← upper, later]
      rfl

/-- The mnemonic is the first word, and the operand text is all that follows it. -/
theorem LeadingWord.splitMnemonic {text gap word rest : Text}
    (leads : LeadingWord text gap word rest) :
    AttAssembly.splitMnemonic text = (lower word, AttAssembly.trim rest) := by
  have inside : ∀ c ∈ word, (!isBlank c) = true := fun c member => by simp [leads.solid c member]
  have stop : ∀ c ∈ (trimRight rest).head?, (!isBlank c) = false :=
    fun c first => by simp [leads.stop c (trimRight_head rest c first)]
  obtain ⟨taken, dropped⟩ := cut_exact inside stop
  rw [AttAssembly.splitMnemonic, leads.trim, firstWord, taken, dropped, trimLeft_trimRight]

variable {word : Text} (solid : ∀ c ∈ word, isBlank c = false) (written : word ≠ [])
include solid written

theorem splitMnemonic_alone : splitMnemonic word = (lower word, []) := by
  have leads : LeadingWord word [] word [] :=
    ⟨(List.append_nil word).symm, by simp, solid, written, by simp⟩
  exact leads.splitMnemonic

theorem splitMnemonic_spaced (operands : Text) (trimmed : Trimmed operands) :
    splitMnemonic (word ++ " " ++ operands) = (lower word, operands) := by
  have leads : LeadingWord (word ++ " " ++ operands) [] word (' ' :: operands) :=
    ⟨List.append_assoc .., by simp, solid, written, by rintro c ⟨⟩; rfl⟩
  rw [leads.splitMnemonic, trim_after_blank ' ' operands rfl, trim_eq_self trimmed]

/-- A word, a blank and a list of pieces are a statement that holds no comment. -/
theorem statement_clean {first : Text} {others : List Text} (quiet : ∀ c ∈ word, isQuiet c = true)
    (each : ∀ piece ∈ first :: others, IsPiece piece) :
    beforeComment .outside (word ++ " " ++ joinWith ", " (first :: others)) =
        word ++ " " ++ joinWith ", " (first :: others) ∧
      Trimmed (word ++ " " ++ joinWith ", " (first :: others)) := by
  obtain ⟨trimmed, nonempty⟩ := joined_trimmed each
  have front : SelfContained (word ++ " ") := by
    refine selfContained_of_quiet _ fun c member => ?_
    rcases List.mem_append.mp member with inside | blank
    · exact quiet c inside
    · rw [List.mem_singleton.mp blank]
      rfl
  exact ⟨by rw [front.beforeComment_append, joined_uncommented each],
    (trimmed_of_solid solid).around trimmed " " written nonempty⟩

end Mnemonics

end AttAssembly
