import AttAssembly.Proofs.Analysis.Labels
import AttAssembly.Proofs.Lexeme.Comments
import AttAssembly.Proofs.Line.Instructions
import AttAssembly.Proofs.Line.Statements

/-!
The parts of an instruction line. A line has its instruction after a margin, a label and a repeat prefix,
or after as many of them as there are; the mnemonic is the word there, and a blank, a comment or the end
of the line follows it. A line that is put together from these parts is read as they say, and every line
whose mnemonic is known comes apart into them.
-/

namespace AttAssembly

/-- A name that is known and is that of an instruction by itself. -/
structure NamesInstruction (name : Text) : Prop where
  known : isKnown name = true
  single : RepeatPrefix.ofName? name = none

/-- A blank, a comment or nothing follows a word. -/
def EndsWord (back : Text) : Prop := back.head?.all (fun c => isBlank c || isCommentMark c) = true

instance (back : Text) : Decidable (EndsWord back) := inferInstanceAs (Decidable (_ = true))

/-- A repeat prefix as it is written in front of an instruction. -/
structure RepeatWord where
  word : Text
  gap : Text
  repetition : RepeatPrefix
  named : RepeatPrefix.ofName? (lower word) = some repetition
  isGap : IsGap gap

/-- The instruction after a repeat prefix if it is given one. -/
def repeatLine : Option RepeatWord → Text → Text
  | none, text => text
  | some repeated, text => repeated.word ++ (repeated.gap ++ text)

/-- What stands on a line in front of the mnemonic. -/
structure LineFront where
  margin : Text
  label : Option LineLabel
  repeated : Option RepeatWord
  blank : ∀ c ∈ margin, isBlank c = true

namespace LineFront

variable (front : LineFront)

def before (text : Text) : Text :=
  front.margin ++ labelLine front.label (repeatLine front.repeated text)

def labelName : Option Text := front.label.map (·.name)

def repetition : Option RepeatPrefix := front.repeated.map (·.repetition)

/-- The words of the statement in front of the mnemonic. -/
def words : List Text := (front.repeated.map (·.word)).toList

/-- What a record shows of the line. -/
def shown (word back : Text) : Text :=
  joinWith [' '] (front.words ++ word :: AttAssembly.words (stripComment back))

end LineFront

section Statements

/-- A statement that is no directive is the instruction in it, if there is one. -/
theorem statementRecord_instruction {statement : Text} (line : Int) (label : Option Text)
    (undotted : isDirectiveName (splitMnemonic statement).1 = false)
    (given : (splitMnemonic (instructionOf statement)).1 ≠ []) :
    statementRecord line label statement =
      instructionRecord ⟨line, label, collapseBlanks statement⟩
        (RepeatPrefix.ofName? (splitMnemonic statement).1)
        (splitMnemonic (instructionOf statement)).1 (splitMnemonic (instructionOf statement)).2 := by
  rw [instructionOf] at given ⊢
  rw [statementRecord]
  rcases separated : splitMnemonic statement with ⟨first, others⟩
  rw [separated] at undotted given
  dsimp only at undotted given ⊢
  rw [if_neg (by simp [undotted])]
  cases named : RepeatPrefix.ofName? first with
  | none => simp only [separated]
  | some repetition =>
      rw [named] at given
      dsimp only at given ⊢
      rw [repeatedRecord]
      split
      · next empty => exact absurd (congrArg Prod.fst empty) given
      · next instruction => rw [instruction]

theorem splitMnemonic_trim (text : Text) : splitMnemonic (trim text) = splitMnemonic text := by
  rw [splitMnemonic, trim_trim, ← splitMnemonic]

theorem splitMnemonic_after_blanks (blanks text : Text) (blank : ∀ c ∈ blanks, isBlank c = true) :
    splitMnemonic (blanks ++ text) = splitMnemonic text := by
  rw [splitMnemonic, trim_after_blanks blanks text blank, ← splitMnemonic]

end Statements

theorem repetition_known {name : Text} {repetition : RepeatPrefix}
    (named : RepeatPrefix.ofName? name = some repetition) : isKnown name = true :=
  (RepeatPrefix.ofName_iff name repetition).mp named ▸ repetition.known

/-- A word that a statement can begin with, as names of mnemonics are with and without a suffix. -/
structure IsWord (word : Text) : Prop where
  written : word ≠ []
  letters : ∀ c ∈ word, c.isAlphanum = true

theorem isWord_of_known {word : Text} (known : isKnown (lower word) = true) : IsWord word where
  written := by
    rintro rfl
    cases known
  letters c member := by simp [Char.isAlphanum, known_letters known c member]

namespace IsWord

variable {word rest : Text} (isWord : IsWord word)
include isWord

theorem trimmed : Trimmed word := trimmed_of_solid (mnemonic_solid isWord.letters)

theorem quiet : ∀ c ∈ word, isQuiet c = true :=
  fun c member => namePart_quiet c (mnemonic_nameParts isWord.letters c member)

theorem leads (stop : ∀ c ∈ rest.head?, isBlank c = true) :
    LeadingWord (word ++ rest) [] word rest :=
  ⟨rfl, by simp, mnemonic_solid isWord.letters, isWord.written, stop⟩

/-- A label would end at a colon, and there is none before the first blank. -/
theorem unlabelled (stop : ∀ c ∈ rest.head?, isBlank c = true) : ¬ BeginsWithLabel (word ++ rest) := by
  rintro ⟨name, after, named, same⟩
  -- The name either goes on into the rest, which begins with a blank, or ends inside the word.
  rcases List.append_eq_append_iff.mp same with ⟨middle, longer, split⟩ | ⟨middle, shorter, split⟩
  · cases middle with
    | nil => exact absurd (stop ':' (by rw [split]; rfl)) (by decide)
    | cons c others =>
        have blank := stop c (by rw [split]; rfl)
        have part := isName_parts name named c (by rw [longer]; simp)
        rw [namePart_not_blank c part] at blank
        cases blank
  · cases middle with
    | nil =>
        have here : rest = ':' :: after := split.symm
        exact absurd (stop ':' (by rw [here]; rfl)) (by decide)
    | cons c others =>
        have colon : ':' = c := (List.cons.inj split).1
        have letter := isWord.letters c (by rw [shorter]; simp)
        rw [← colon] at letter
        cases letter

end IsWord

/-- What follows the mnemonic, without the comment. -/
def remainder (back : Text) : Text := trimRight (beforeComment .outside back)

section Remainders

variable {back : Text}

theorem endsWord_iff :
    EndsWord back ↔ ∀ c ∈ back.head?, isBlank c = true ∨ isCommentMark c = true := by
  simp [EndsWord, Option.all_eq_true]

theorem remainder_stop (ends : EndsWord back) :
    ∀ c ∈ (remainder back).head?, isBlank c = true := by
  intro c first
  have here := trimRight_head _ c first
  cases back with
  | nil => cases here
  | cons d rest =>
      rw [beforeComment] at here
      split at here
      · cases here
      · next unmarked =>
          cases here
          refine (endsWord_iff.mp ends c rfl).resolve_right fun marked => unmarked ?_
          simp [marked]

theorem trim_remainder : trim (remainder back) = stripComment back := trim_trimRight _

theorem words_remainder : words (remainder back) = words (stripComment back) := by
  rw [← trim_remainder, words_trim]

end Remainders

namespace RepeatWord

variable (repeated : RepeatWord)

theorem isWord : IsWord repeated.word := isWord_of_known (repetition_known repeated.named)

theorem stop (text : Text) : ∀ c ∈ (repeated.gap ++ text).head?, isBlank c = true := by
  obtain ⟨c, rest, same, blank⟩ := repeated.isGap.head
  rw [same]
  rintro d ⟨⟩
  exact blank

end RepeatWord

section Repeated

variable (repeated : Option RepeatWord) {word back : Text}

theorem repeatLine_append (word back : Text) :
    repeatLine repeated (word ++ back) = repeatLine repeated word ++ back := by
  cases repeated <;> simp [repeatLine]

variable (isWord : IsWord word)
include isWord

theorem repeatLine_quiet : ∀ c ∈ repeatLine repeated word, isQuiet c = true := by
  cases repeated with
  | none => exact isWord.quiet
  | some repeated =>
      simp only [repeatLine, List.forall_mem_append]
      exact ⟨repeated.isWord.quiet, fun c member => blank_quiet c (repeated.isGap.blank c member),
        isWord.quiet⟩

theorem repeatLine_trimmed : Trimmed (repeatLine repeated word) ∧ repeatLine repeated word ≠ [] := by
  cases repeated with
  | none => exact ⟨isWord.trimmed, isWord.written⟩
  | some repeated =>
      simp only [repeatLine, ← List.append_assoc]
      exact ⟨repeated.isWord.trimmed.around isWord.trimmed _ repeated.isWord.written isWord.written,
        by simp [isWord.written]⟩

/-- The line without its label is the statement that it holds. -/
theorem stripComment_repeated (back : Text) :
    stripComment (repeatLine repeated (word ++ back)) =
      repeatLine repeated word ++ remainder back := by
  obtain ⟨trimmed, written⟩ := repeatLine_trimmed repeated isWord
  rw [stripComment, repeatLine_append,
    (selfContained_of_quiet _ (repeatLine_quiet repeated isWord)).beforeComment_append,
    trimmed.trim_append written, ← remainder]

variable (ends : EndsWord back)
include ends

theorem repeatLine_unlabelled : ¬ BeginsWithLabel (repeatLine repeated word ++ remainder back) := by
  rw [← repeatLine_append]
  cases repeated with
  | none => exact isWord.unlabelled (remainder_stop ends)
  | some repeated => exact repeated.isWord.unlabelled (repeated.stop (word ++ remainder back))

theorem words_repeated :
    words (repeatLine repeated word ++ remainder back) =
      (repeated.map (·.word)).toList ++ word :: words (stripComment back) := by
  have own := (isWord.leads (remainder_stop ends)).words
  rw [words_remainder] at own
  rw [← repeatLine_append]
  cases repeated with
  | none => exact own
  | some repeated =>
      have leads := repeated.isWord.leads (repeated.stop (word ++ remainder back))
      rw [repeatLine, leads.words, words_after_blanks _ _ repeated.isGap.blank, own]
      rfl

variable (single : RepeatPrefix.ofName? (lower word) = none)
include single

/-- The first word is the repeat prefix or the mnemonic. -/
theorem first_repeated :
    ∃ first, IsWord first ∧
      RepeatPrefix.ofName? (lower first) = repeated.map (·.repetition) ∧
      (splitMnemonic (repeatLine repeated word ++ remainder back)).1 = lower first := by
  rw [← repeatLine_append]
  cases repeated with
  | none =>
      have own := (isWord.leads (remainder_stop ends)).splitMnemonic
      exact ⟨word, isWord, single, by rw [repeatLine, own]⟩
  | some repeated =>
      have leads := repeated.isWord.leads (repeated.stop (word ++ remainder back))
      exact ⟨repeated.word, repeated.isWord, repeated.named, by rw [repeatLine, leads.splitMnemonic]⟩

/-- A repeated instruction has the mnemonic and the operand text that it has by itself. -/
theorem instruction_repeated :
    splitMnemonic (instructionOf (repeatLine repeated word ++ remainder back)) =
      (lower word, stripComment back) := by
  have own := (isWord.leads (remainder_stop ends)).splitMnemonic
  rw [trim_remainder] at own
  rw [← repeatLine_append, instructionOf]
  cases repeated with
  | none => simp only [repeatLine, own, single]
  | some repeated =>
      have leads := repeated.isWord.leads (repeated.stop (word ++ remainder back))
      simp only [repeatLine, leads.splitMnemonic, repeated.named, splitMnemonic_trim,
        splitMnemonic_after_blanks _ _ repeated.isGap.blank, own]

theorem statementRecord_repeated (line : Int) (label : Option Text) :
    statementRecord line label (repeatLine repeated word ++ remainder back) =
      instructionRecord
        ⟨line, label, joinWith [' ']
          ((repeated.map (·.word)).toList ++ word :: words (stripComment back))⟩
        (repeated.map (·.repetition)) (lower word) (stripComment back) := by
  obtain ⟨first, isFirst, named, starts⟩ := first_repeated repeated isWord ends single
  have instruction := instruction_repeated repeated isWord ends single
  have written : lower word ≠ [] := fun nothing => isWord.written ((lower_eq_nil_iff word).mp nothing)
  have undotted : isDirectiveName (splitMnemonic (repeatLine repeated word ++ remainder back)).1 =
      false := starts ▸ mnemonic_undotted isFirst.letters
  rw [statementRecord_instruction line label undotted (by rw [instruction]; exact written),
    instruction, starts, named, collapseBlanks, words_repeated repeated isWord ends]

end Repeated

namespace LineFront

variable (front : LineFront) {word back : Text} (isWord : IsWord word) (ends : EndsWord back)
  (whole : OnOneLine (front.before (word ++ back)))
include isWord ends whole

theorem splitLabel_before :
    splitLabel (stripComment (front.before (word ++ back))) =
      (front.labelName, repeatLine front.repeated word ++ remainder back) := by
  have core := stripComment_repeated front.repeated isWord back
  rw [before, stripComment_after_blanks _ _ front.blank]
  cases same : front.label with
  | none =>
      rw [labelLine, core, splitLabel_plain _ (repeatLine_unlabelled front.repeated isWord ends),
        labelName, same]
      rfl
  | some label =>
      have oneLine : OnOneLine (repeatLine front.repeated (word ++ back)) :=
        whole.of_subset fun c member => by simp [before, labelLine, LineLabel.before, same, member]
      rw [labelLine, label.splitLabel_before _ oneLine, core, labelName, same]
      rfl

variable (single : RepeatPrefix.ofName? (lower word) = none)
include single

/-- The record of a line comes from its mnemonic and from what follows that. -/
theorem readLine_before (line : Int) :
    readLine (front.before (word ++ back)) line = some (instructionRecord
      ⟨line, front.labelName, front.shown word back⟩ front.repetition (lower word)
      (stripComment back)) := by
  have written : repeatLine front.repeated word ++ remainder back ≠ [] := fun nothing =>
    (repeatLine_trimmed front.repeated isWord).2 (List.append_eq_nil_iff.mp nothing).1
  rw [readLine_iff.mpr (.statement (front.splitLabel_before isWord ends whole) written),
    statementRecord_repeated front.repeated isWord ends single]
  rfl

theorem mnemonicOf_before : mnemonicOf (front.before (word ++ back)) = lower word := by
  rw [mnemonicOf, statementOf, front.splitLabel_before isWord ends whole,
    instruction_repeated front.repeated isWord ends single]

end LineFront

section Fronts

variable {line : Text}

theorem beforeComment_whole (state : Quoting) (text : Text) :
    ∃ comment, text = beforeComment state text ++ comment ∧
      ∀ c ∈ comment.head?, isCommentMark c = true := by
  rcases beforeComment_stops state text with whole | ⟨mark, rest, same, marked, _⟩
  · exact ⟨[], by rw [whole, List.append_nil], by simp⟩
  · exact ⟨mark :: rest, same, by rintro c ⟨⟩; exact marked⟩

theorem EndsWord.after_blanks {blanks back : Text} (blank : ∀ c ∈ blanks, isBlank c = true)
    (ends : EndsWord back) : EndsWord (blanks ++ back) := by
  cases blanks with
  | nil => exact ends
  | cons c rest => simp [EndsWord, blank c List.mem_cons_self]

/-- A line is a statement with a margin, and perhaps a label, before it. -/
theorem line_of_statement (whole : OnOneLine line) :
    ∃ margin label after, line = margin ++ labelLine label (statementOf line ++ after) ∧
      (∀ c ∈ margin, isBlank c = true) ∧ EndsWord after ∧ Trimmed (statementOf line) := by
  obtain ⟨comment, commented, starts⟩ := beforeComment_whole .outside line
  obtain ⟨margin, gap, around, front, back⟩ := trim_within (beforeComment .outside line)
  rw [← stripComment] at around
  have ends : EndsWord (gap ++ comment) :=
    .after_blanks back (endsWord_iff.mpr fun c first => .inr (starts c first))
  rw [around] at commented
  by_cases labelled : BeginsWithLabel (stripComment line)
  · obtain ⟨name, rest, named, same⟩ := labelled
    have oneLine : OnOneLine rest := whole.of_subset fun c member =>
      stripComment_subset line (by rw [same]; simp [member])
    obtain ⟨before, after, within, blank, behind⟩ := trim_within rest
    have statement : statementOf line = trim rest := by
      rw [statementOf, same, splitLabel_colon name rest named oneLine]
    have gapOneLine : OnOneLine before := oneLine.of_subset fun c member => by
      rw [within]
      simp [member]
    refine ⟨margin, some ⟨name, before, named, blank, gapOneLine⟩, after ++ (gap ++ comment), ?_,
      front, ends.after_blanks behind, statement ▸ trimmed_trim rest⟩
    rw [statement, labelLine, LineLabel.before]
    conv_lhs => rw [commented, same, within]
    simp
  · have statement : statementOf line = stripComment line := by
      rw [statementOf, splitLabel_plain _ labelled]
    refine ⟨margin, none, gap ++ comment, ?_, front, ends, statement ▸ trimmed_trim _⟩
    rw [statement, labelLine]
    conv_lhs => rw [commented]
    simp

theorem leadingWord_of_known {text : Text} (known : isKnown (splitMnemonic text).1 = true) :
    ∃ gap word rest, LeadingWord text gap word rest := by
  refine (blank_or_leadingWord text).resolve_left fun blank => ?_
  rw [(mnemonic_eq_nil_iff text).mpr ((trim_eq_nil_iff text).mpr blank)] at known
  cases known

theorem LeadingWord.flush {text gap word rest : Text} (leads : LeadingWord text gap word rest)
    (trimmed : Trimmed text) : text = word ++ rest := by
  cases gap with
  | nil => exact leads.whole
  | cons c others =>
      have solid := trimmed.1 c (by rw [leads.whole]; rfl)
      rw [leads.blank c List.mem_cons_self] at solid
      cases solid

/-- A statement is its mnemonic with a repeat prefix before it, or without one. -/
theorem statement_of_instruction {statement : Text} (trimmed : Trimmed statement)
    (whole : OnOneLine statement)
    (names : NamesInstruction (splitMnemonic (instructionOf statement)).1) :
    ∃ repeated word rest, statement = repeatLine repeated (word ++ rest) ∧
      lower word = (splitMnemonic (instructionOf statement)).1 ∧
      ∀ c ∈ rest.head?, isBlank c = true := by
  -- A repeat prefix has a known name too, so there is a first word in either case.
  have known : isKnown (splitMnemonic statement).1 = true := by
    cases named : RepeatPrefix.ofName? (splitMnemonic statement).1 with
    | none => simpa only [instructionOf, named] using names.known
    | some repetition => exact repetition_known named
  obtain ⟨gap, first, rest, leads⟩ := leadingWord_of_known known
  have starts := leads.flush trimmed
  rw [instructionOf, leads.splitMnemonic] at names ⊢
  cases named : RepeatPrefix.ofName? (lower first) with
  | none =>
      simp only [named, leads.splitMnemonic] at names ⊢
      exact ⟨none, first, rest, starts, rfl, leads.stop⟩
  | some repetition =>
      simp only [named, splitMnemonic_trim] at names ⊢
      obtain ⟨between, word, others, further⟩ := leadingWord_of_known names.known
      have oneLine : OnOneLine rest := whole.of_subset fun c member => by
        rw [starts]
        exact List.mem_append_right first member
      exact ⟨some ⟨first, between, repetition, named, further.isGap leads.stop oneLine⟩, word, others,
        starts.trans (congrArg (first ++ ·) further.whole), by rw [further.splitMnemonic],
        further.stop⟩

/-- Every line with a known instruction has a front, its mnemonic, and what follows it. -/
theorem line_of_instruction (whole : OnOneLine line) (names : NamesInstruction (mnemonicOf line)) :
    ∃ front : LineFront, ∃ word back, line = front.before (word ++ back) ∧
      lower word = mnemonicOf line ∧ EndsWord back := by
  obtain ⟨margin, label, after, same, blank, ends, trimmed⟩ := line_of_statement whole
  have oneLine : OnOneLine (statementOf line) := whole.of_subset
    (List.Subset.trans (splitLabel_subset _) (stripComment_subset line))
  obtain ⟨repeated, word, rest, statement, named, stop⟩ :=
    statement_of_instruction trimmed oneLine names
  refine ⟨⟨margin, label, repeated, blank⟩, word, rest ++ after, ?_, named, ?_⟩
  · rw [statement, ← repeatLine_append, List.append_assoc] at same
    exact same
  · cases rest with
    | nil => exact ends
    | cons c others => simp [EndsWord, stop c rfl]

end Fronts

end AttAssembly
