import AttAssembly.Proofs.Line.Words

/-!
Repeat prefixes that stand where an instruction should. What a record is made of can be told from the
words of its statement: a repeat prefix takes the word after it for the mnemonic, whatever it is, and
without such a word it is reported. So a repeat prefix after another one is an instruction by name and is
not reported, and neither is one with a size letter.
-/

namespace AttAssembly

/-- The error that a repeat prefix without an instruction is to leave. -/
def Record.ReportsLoneRepeat (record : Record) : Prop :=
  ("prefix without instruction" : Text) ∈ record.errors.map (·.message)

/-- The word has this name, by itself or with a size letter. -/
def NamedWithSize (name word : Text) : Prop :=
  lower word = name ∨ ∃ size : OperandSize, lower word = name ++ [size.letter]

/-- The ways for a repeat prefix to become the mnemonic of a record without being reported: with a size
letter, and after a repeat prefix. -/
inductive TakenForInstruction (repetition : RepeatPrefix) : List Text → Prop
  | suffixed (word : Text) (others : List Text) (size : OperandSize)
      (named : lower word = repetition.name ++ [size.letter]) :
      TakenForInstruction repetition (word :: others)
  | repeated (first second : Text) (others : List Text) (repeats : IsRepeatWord first)
      (named : NamedWithSize repetition.name second) :
      TakenForInstruction repetition (first :: second :: others)

section Names

variable {word : Text}

/-- No other known name begins like a repeat prefix. -/
theorem suffixed_repetition (repetition : RepeatPrefix) (size : OperandSize) :
    isKnown (repetition.name ++ [size.letter]) = false := by
  have each : mnemonicTable.all (fun entry => !("rep" : Text).isPrefixOf entry.1 ||
      (RepeatPrefix.all.map (·.name)).contains entry.1) = true := by decide +kernel
  refine Bool.eq_false_iff.mpr fun known => ?_
  obtain ⟨entry, found⟩ := Option.isSome_iff_exists.mp known
  have listed := List.all_eq_true.mp each _ (mem_of_lookup found)
  have apart : (!("rep" : Text).isPrefixOf (repetition.name ++ [size.letter]) ||
      (RepeatPrefix.all.map (·.name)).contains (repetition.name ++ [size.letter])) = false := by
    cases repetition <;> cases size <;> decide
  exact Bool.false_ne_true (apart.symm.trans listed)

theorem suffixed_not_repeat {repetition : RepeatPrefix} {size : OperandSize}
    (named : lower word = repetition.name ++ [size.letter]) : ¬ IsRepeatWord word := by
  rintro ⟨other, same⟩
  have known := other.known
  rw [← same, named, suffixed_repetition] at known
  cases known

/-- A size letter is cut off of a repeat prefix as of any other name. -/
theorem splitSizeSuffix_repetition (word : Text) (repetition : RepeatPrefix) :
    (splitSizeSuffix (lower word)).1 = repetition.name ↔ NamedWithSize repetition.name word := by
  have small := lower_lower word
  constructor
  · intro same
    rcases splitSizeSuffix_cases (lower word) with whole | ⟨base, size, cut, spelled, _⟩
    · rw [whole] at same
      exact .inl (small.symm.trans same)
    · rw [cut] at same
      subst same
      exact .inr ⟨size, small.symm.trans spelled⟩
  · rintro (same | ⟨size, same⟩)
    · rw [splitSizeSuffix_known small (same ▸ repetition.known), same]
    · rw [same] at small ⊢
      rw [splitSizeSuffix_suffixed small repetition.known (suffixed_repetition repetition size)]

theorem tooManyDigitsMessage_begins (count : Option Nat) :
    (tooManyDigitsMessage count).head? = some 'E' := by
  delta tooManyDigitsMessage
  rw [List.append_assoc, List.append_assoc, List.append_assoc, List.head?_append]
  rfl

theorem OperandError.message_begins (error : OperandError) : error.message.head? ≠ some 'p' := by
  delta message
  cases error with
  | tooManyDigits count =>
      intro first
      cases (tooManyDigitsMessage_begins (some count)).symm.trans first
  | _ => simp

theorem InstructionError.message_ends (error : InstructionError) :
    error.message.getLast? ≠ some 'n' := by
  delta message Requirement.message
  cases error with
  | memoryToMemory mnemonic => simp
  | wrongCount mnemonic requirement => cases requirement <;> simp

/-- No other error has these words. -/
theorem message_loneRepeat (error : LineError) :
    error.message = "prefix without instruction".toList ↔ error = .loneRepeat := by
  constructor
  · intro same
    have first : error.message.head? = some 'p' := by rw [same]; rfl
    have last : error.message.getLast? = some 'n' := by rw [same]; rfl
    cases error with
    | operand error => exact absurd first error.message_begins
    | instruction error => exact absurd last error.message_ends
    | unknownDirective name => cases first
    | loneRepeat => rfl
  · rintro rfl
    rfl

theorem reportsLoneRepeat_iff (record : Record) :
    record.ReportsLoneRepeat ↔ .loneRepeat ∈ record.errors := by
  simp only [Record.ReportsLoneRepeat, List.mem_map, message_loneRepeat, exists_eq_right]

end Names

section Errors

/-- A repeat prefix has no rule to break. -/
theorem validate_repetition (repetition : RepeatPrefix) (operands : List Operand) (count : Int) :
    validate repetition.name operands count = [] := by
  have small : lower repetition.name = repetition.name := known_lower repetition.entry
  have still : isMemoryToMemory repetition.name operands count = false := by
    have noMove : ("mov" : Text).isPrefixOf repetition.name = false := by cases repetition <;> rfl
    simp only [isMemoryToMemory, noMove, Bool.false_and]
  have free : operandCount? repetition.name count = none := by
    have noString : isStringMove repetition.name count = false := by cases repetition <;> rfl
    simp [operandCount?, small, noString, repetition.entry]
  simp [validate, small, still, free]

/-- Words of letters leave no error as operands of a repeat prefix if there is one of them at most. -/
theorem instructionRecord_repetition (place : Place) (repetition : Option RepeatPrefix)
    {named : RepeatPrefix} {mnemonic operandText : Text}
    (base : (splitSizeSuffix mnemonic).1 = named.name) (trimmed : Trimmed operandText)
    (lettered : Lettered operandText) :
    (instructionRecord place repetition mnemonic operandText).errors = [] ↔
      (words operandText).length ≤ 1 := by
  simp only [instructionRecord, base, validate_repetition, List.map_nil, List.append_nil]
  by_cases written : operandText = []
  · subst written
    exact iff_of_true rfl (Nat.zero_le 1)
  · have one : (words operandText).length ≤ 1 ↔ (words operandText).length = 1 := by
      obtain ⟨_, _, rest, leads⟩ := leadingWord_of_trimmed trimmed written
      rw [leads.words, List.length_cons]
      omega
    rw [one, ← lettered.read_iff trimmed written, lettered.splitPieces trimmed written,
      refusedOperands]
    cases read : Operand.read operandText <;> simp [read]

end Errors

section Wording

/-- Only a repeat prefix without a word after it is reported. -/
theorem WordedAs.reports_iff {parts : List Text} {record : Record} (worded : WordedAs parts record) :
    record.ReportsLoneRepeat ↔ ∃ word, parts = [word] ∧ IsRepeatWord word := by
  rw [reportsLoneRepeat_iff]
  have unreported (place : Place) (repetition : Option RepeatPrefix) (mnemonic operandText : Text) :
      .loneRepeat ∉ (instructionRecord place repetition mnemonic operandText).errors := by
    simp [instructionRecord, refused_operand_iff]
  cases worded with
  | label line name => simp [labelRecord]
  | directive place first rest dotted =>
      have known : .loneRepeat ∉ (directiveRecord place (lower first) (trim rest)).errors := by
        simp only [directiveRecord, List.mem_append, refused_operand_iff, not_or]
        split <;> simp
      refine iff_of_false known ?_
      rintro ⟨word, same, repeats⟩
      rw [(List.cons.inj same).1, repeat_undotted repeats] at dotted
      cases dotted
  | loneRepeat place repetition word named =>
      exact iff_of_true (List.mem_singleton_self _) ⟨word, rfl, repetition, named⟩
  | repeated place repetition first second rest named =>
      exact iff_of_false (unreported _ _ _ _) (by simp)
  | single place first rest single =>
      refine iff_of_false (unreported _ _ _ _) ?_
      rintro ⟨word, same, repeats⟩
      exact single ((List.cons.inj same).1 ▸ repeats)

/-- A repeat prefix for a mnemonic is reported unless it stands in the place of an instruction. -/
theorem WordedAs.taken_iff {parts : List Text} {record : Record} (worded : WordedAs parts record)
    (repetition : RepeatPrefix) :
    record.mnemonic = repetition.name ∧ ¬ record.ReportsLoneRepeat ↔
      TakenForInstruction repetition parts := by
  rw [worded.reports_iff]
  cases worded with
  | label line name =>
      refine iff_of_false ?_ nofun
      rintro ⟨same, _⟩
      cases repetition <;> cases same
  | directive place first rest dotted =>
      have undotted : ¬ IsRepeatWord first := fun repeats => by
        rw [repeat_undotted repeats] at dotted
        cases dotted
      refine iff_of_false (fun ⟨same, _⟩ => undotted ⟨repetition, same⟩) ?_
      generalize words rest = others
      rintro (⟨_, _, size, named⟩ | ⟨_, _, _, repeats, _⟩)
      · have plain : isDirectiveName (repetition.name ++ [size.letter]) = false := by
          cases repetition <;> cases size <;> decide
        rw [named, plain] at dotted
        cases dotted
      · exact undotted repeats
  | loneRepeat place other word named =>
      refine iff_of_false (fun ⟨_, unreported⟩ => unreported ⟨word, rfl, other, named⟩) ?_
      rintro ⟨_, _, size, suffixed⟩
      exact suffixed_not_repeat suffixed ⟨other, named⟩
  | repeated place other first second rest named =>
      have more : ¬ ∃ word, first :: second :: words rest = [word] ∧ IsRepeatWord word := by simp
      refine (and_iff_left more).trans ((splitSizeSuffix_repetition second repetition).trans ?_)
      constructor
      · exact .repeated first second _ ⟨other, named⟩
      · rintro (⟨_, _, size, suffixed⟩ | ⟨_, _, _, _, names⟩)
        · exact absurd ⟨other, named⟩ (suffixed_not_repeat suffixed)
        · exact names
  | single place first rest single =>
      have more : ¬ ∃ word, first :: words rest = [word] ∧ IsRepeatWord word := by
        rintro ⟨word, same, repeats⟩
        exact single ((List.cons.inj same).1 ▸ repeats)
      refine (and_iff_left more).trans ((splitSizeSuffix_repetition first repetition).trans ?_)
      constructor
      · rintro (same | ⟨size, suffixed⟩)
        · exact absurd ⟨repetition, same⟩ single
        · exact .suffixed first _ size suffixed
      · generalize words rest = others
        rintro (⟨_, _, size, suffixed⟩ | ⟨_, _, _, repeats, _⟩)
        · exact .inr ⟨size, suffixed⟩
        · exact absurd repeats single

/-- Of a statement that is repeat prefixes alone the first repeats the second, and a third one is an
operand; only a fourth one cannot be read. -/
theorem WordedAs.clean_iff {parts : List Text} {record : Record} (worded : WordedAs parts record)
    (given : parts ≠ []) (repeats : ∀ part ∈ parts, IsRepeatWord part) :
    record.errors = [] ↔ parts.length = 2 ∨ parts.length = 3 := by
  cases worded with
  | label line name => exact absurd rfl given
  | directive place first rest dotted =>
      rw [repeat_undotted (repeats first List.mem_cons_self)] at dotted
      cases dotted
  | loneRepeat place repetition word named => simp [loneRepeatRecord]
  | repeated place repetition first second rest named =>
      obtain ⟨other, same⟩ := repeats second (by simp)
      have base : (splitSizeSuffix (lower second)).1 = other.name :=
        (splitSizeSuffix_repetition second other).mpr (.inl same)
      have lettered : Lettered (trim rest) := by
        intro word member
        rw [words_trim] at member
        exact known_letters (repeats word (by simp [member])).known
      rw [instructionRecord_repetition place _ base (trimmed_trim rest) lettered, words_trim,
        List.length_cons, List.length_cons]
      omega
  | single place first rest single => exact absurd (repeats first List.mem_cons_self) single

end Wording

/-- The error of a repeat prefix without an instruction is reported exactly if nothing follows it on its
line. A record with a repeat prefix for its mnemonic is without this error exactly if the prefix has a
size letter or stands after another one. So a line of repeat prefixes alone is free of errors exactly if
there are two or three of them. -/
theorem lone_repeat_reported_exactly (text : Text) :
    (∃ records, analyze text = .ok records ∧ ∀ record ∈ records,
      (record.ReportsLoneRepeat ↔ ∃ word, words record.source = [word] ∧ IsRepeatWord word) ∧
      (∀ repetition : RepeatPrefix, record.mnemonic = repetition.name ∧ ¬ record.ReportsLoneRepeat ↔
        TakenForInstruction repetition (words record.source)) ∧
      (words record.source ≠ [] → (∀ word ∈ words record.source, IsRepeatWord word) →
        (record.errors = [] ↔
          (words record.source).length = 2 ∨ (words record.source).length = 3))) ∧
    ∀ line, OnOneLine text → words text ≠ [] → (∀ word ∈ words text, IsRepeatWord word) →
      ∃ record, analyzeLine text line = .ok (some record) ∧ words record.source = words text := by
  constructor
  · refine ⟨recordsOf text, analyze_eq_records text, fun record member => ?_⟩
    obtain ⟨_, line, _, read⟩ := mem_recordsFrom 1 _ record member
    have worded := readLine_worded read
    exact ⟨worded.reports_iff, worded.taken_iff, worded.clean_iff⟩
  · intro line whole given repeats
    have lettered : Lettered text := fun word member => known_letters (repeats word member).known
    refine ⟨_, (analyzeLine_total text line whole).trans (congrArg _ (lettered.readLine given line)),
      ?_⟩
    rw [statementRecord_source, words_collapseBlanks, words_trim]

/-- A lone prefix with a comment after it, and three prefixes: the second of them is the mnemonic and the
third its operand. -/
theorem lone_repeat_reported_commented :
    let lone : Text := "again: REP # what?"
    let three : Text := "rep\tRepz  rep"
    (∃ record, analyze lone = .ok [record] ∧ record.ReportsLoneRepeat) ∧
      (∃ record, analyze three = .ok [record] ∧
        record.mnemonic = RepeatPrefix.repz.name ∧ ¬ record.ReportsLoneRepeat ∧ record.errors = []) ∧
      ∃ record, analyzeLine three 4 = .ok (some record) ∧ words record.source = words three := by
  intro lone three
  let parts : List Text := ["rep", "Repz", "rep"]
  have repeats : ∀ word ∈ parts, IsRepeatWord word := by
    have named : ∀ word ∈ parts, ∃ repetition ∈ RepeatPrefix.all, lower word = repetition.name := by
      decide
    exact fun word member => (named word member).imp fun _ found => found.2
  have written : words three = parts := by decide
  obtain ⟨⟨_, analyzed, each⟩, lines⟩ := lone_repeat_reported_exactly three
  refine ⟨?_, ?_, lines 4 (by decide) (by decide) (written ▸ repeats)⟩
  · obtain ⟨⟨_, analyzed, each⟩, _⟩ := lone_repeat_reported_exactly lone
    cases analyzed
    exact ⟨_, rfl, (each _ List.mem_cons_self).1.mpr ⟨"REP", by decide, .rep, by decide⟩⟩
  · cases analyzed
    obtain ⟨_, taken, clean⟩ := each _ List.mem_cons_self
    have shown : words (joinWith [' '] parts) = parts := by decide
    have repeated : TakenForInstruction .repz parts :=
      .repeated "rep" "Repz" ["rep"] ⟨.rep, by decide⟩ (.inl (by decide))
    have named := (taken .repz).mpr (shown ▸ repeated)
    exact ⟨_, rfl, named.1, named.2, (clean (by decide) (shown ▸ repeats)).mpr (.inr (by decide))⟩

/-- The second of two repeat prefixes is an instruction by name, and nothing is reported. -/
theorem doubled_repeat_unreported :
    ∃ record, analyze "rep rep" = .ok [record] ∧ record.mnemonic = RepeatPrefix.rep.name ∧
      record.errors = [] ∧ ¬ record.ReportsLoneRepeat := by
  refine ⟨_, rfl, by decide, by decide, ?_⟩
  rw [reportsLoneRepeat_iff]
  decide

end AttAssembly
