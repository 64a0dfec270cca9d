import AttAssembly.Proofs.Line.Fronts
import AttAssembly.Proofs.Operand.Layout

/-!
The words of a statement. What a record is made from can be told from the words of its source: the first
of them makes it a directive, a repeat prefix or an instruction, and a repeat prefix takes the second one
for the mnemonic, whatever it is. Words of letters have no marks, so as operands they are one piece, and
it can be read if it is one word.
-/

namespace AttAssembly

section Letters

variable {text : Text}

/-- A text of words that are made of letters. -/
def Lettered (text : Text) : Prop := ∀ word ∈ words text, ∀ c ∈ word, c.isAlpha = true

namespace Lettered

variable (lettered : Lettered text)
include lettered

theorem each {c : Char} (member : c ∈ text) : isBlank c = true ∨ c.isAlpha = true :=
  (mem_words member).imp_right fun ⟨word, among, inside⟩ => lettered word among c inside

theorem avoids (mark : Char) (visible : isBlank mark = false) (other : mark.isAlpha = false) :
    mark ∉ text := by
  intro member
  rcases lettered.each member with blank | letter
  · exact blank_ne blank visible rfl
  · rw [other] at letter
    cases letter

theorem quiet : ∀ c ∈ text, isQuiet c = true := by
  intro c member
  rcases lettered.each member with blank | letter
  · exact blank_quiet c blank
  · exact namePart_quiet c (by simp [isNamePart, Char.isAlphanum, letter])

/-- A trimmed text without marks is one piece of an operand text. -/
theorem splitPieces (trimmed : Trimmed text) (written : text ≠ []) :
    AttAssembly.splitPieces text = [text] := by
  have piece : IsPiece text := ⟨selfContained_of_quiet text lettered.quiet, trimmed, written⟩
  have joined := splitPieces_joined [text] (List.forall_mem_singleton.mpr piece)
  rwa [joinWith, List.intercalate_singleton] at joined

/-- After a name a displacement goes on with a sign, and no word of letters has one. -/
theorem readDisplacement_iff {gap word rest : Text} (leads : LeadingWord text gap word rest)
    (trimmed : Trimmed text) :
    (∃ parts, Operand.readDisplacement text = .ok parts) ↔ words rest = [] := by
  have whole : text = word ++ rest := leads.flush trimmed
  have named : isName word = true := by
    have letter : ∀ c ∈ word, c.isAlpha = true := fun c member =>
      (lettered.each (by simp [whole, member])).resolve_left (by simp [leads.solid c member])
    obtain ⟨first, others, rfl⟩ := List.exists_cons_of_ne_nil leads.written
    refine (isName_iff _).mpr ⟨first, others, rfl, ?_, fun c member => ?_⟩
    · simp [isNameStart, letter first List.mem_cons_self]
    · simp [isNamePart, Char.isAlphanum, letter c (List.mem_cons_of_mem first member)]
  have leading : leadingName text = (word, rest) := by
    rw [whole]
    refine leadingName_append word rest named fun c first => Bool.eq_false_iff.mpr fun part => ?_
    have solid := namePart_not_blank c part
    rw [leads.stop c first] at solid
    cases solid
  have read (oneLine : '\n' ∉ text) : Operand.readDisplacement text =
      displacementAfter text (some word) (trim rest) := by
    rw [readDisplacement_oneLine _ (by rwa [trim_eq_self trimmed]), trim_eq_self trimmed, leading,
      if_neg leads.written]
  rw [words_eq_nil_iff, ← trim_eq_nil_iff]
  constructor
  · rintro ⟨parts, found⟩
    by_contra more
    obtain ⟨c, others, starts⟩ := List.exists_cons_of_ne_nil more
    have inside : c ∈ text := by
      have among : c ∈ rest := trim_subset rest (by rw [starts]; exact List.mem_cons_self)
      simp [whole, among]
    have plus : c ≠ '+' := fun same => lettered.avoids '+' rfl rfl (same ▸ inside)
    have minus : c ≠ '-' := fun same => lettered.avoids '-' rfl rfl (same ▸ inside)
    by_cases oneLine : '\n' ∈ text
    · simp [Operand.readDisplacement, trim_eq_self trimmed, oneLine] at found
    · rw [read oneLine, starts, displacementAfter_unsigned plus minus] at found
      cases found
  · intro nothing
    have alone : text = word := by
      rw [← trim_eq_self trimmed, whole, trim_append_blanks _ _ ((trim_eq_nil_iff rest).mp nothing),
        trim_eq_self (isName_trimmed word named)]
    have oneLine : '\n' ∉ text := fun feed =>
      absurd (isName_parts word named '\n' (alone ▸ feed)) (by decide)
    exact ⟨_, by rw [read oneLine, nothing, displacementAfter]⟩

/-- Words of letters are an operand only if there is one of them: the symbol that it spells. -/
theorem read_iff (trimmed : Trimmed text) (written : text ≠ []) :
    (∃ operand, Operand.read text = .ok operand) ↔ (words text).length = 1 := by
  have whole := trim_eq_self trimmed
  have unmarked (mark : Char) (visible : isBlank mark = false) (other : mark.isAlpha = false) :
      text.head? ≠ some mark :=
    fun first => lettered.avoids mark visible other (List.mem_of_head? first)
  have plain : ∀ c ∈ text, c ≠ '(' ∧ c ≠ ')' := fun c member =>
    ⟨fun same => lettered.avoids '(' rfl rfl (same ▸ member),
      fun same => lettered.avoids ')' rfl rfl (same ▸ member)⟩
  obtain ⟨gap, word, rest, leads⟩ := leadingWord_of_trimmed trimmed written
  rw [leads.words, List.length_cons, Nat.add_eq_right, List.length_eq_zero_iff,
    ← lettered.readDisplacement_iff leads trimmed,
    Operand.read_unmarked text (whole.symm ▸ unmarked '$' rfl rfl)
      (whole.symm ▸ unmarked '%' rfl rfl), whole,
    Operand.readMemory_displacement whole (unmarked '*' rfl rfl) plain]
  simp only [bind_ok_iff]
  constructor
  · rintro ⟨operand, parts, found, _⟩
    exact ⟨parts, found⟩
  · rintro ⟨⟨symbol, displacement⟩, found⟩
    exact ⟨_, _, found, rfl⟩

/-- A line of such words is a statement as it is. -/
theorem readLine (given : words text ≠ []) (line : Int) :
    AttAssembly.readLine text line = some (statementRecord line none (trim text)) := by
  have stripped : stripComment text = trim text :=
    congrArg trim (selfContained_of_quiet text lettered.quiet).uncommented
  have colonless : ':' ∉ trim text := fun member =>
    lettered.avoids ':' rfl rfl (trim_subset text member)
  have written : trim text ≠ [] := fun nothing =>
    given ((words_eq_nil_iff text).mpr ((trim_eq_nil_iff text).mp nothing))
  exact readLine_unlabelled line stripped colonless written

end Lettered

end Letters

/-- A word that is a repeat prefix. -/
def IsRepeatWord (word : Text) : Prop := ∃ repetition : RepeatPrefix, lower word = repetition.name

section Repeats

variable {word : Text}

theorem IsRepeatWord.known (repeats : IsRepeatWord word) : isKnown (lower word) = true := by
  obtain ⟨repetition, named⟩ := repeats
  exact named ▸ repetition.known

theorem repeat_undotted (repeats : IsRepeatWord word) : isDirectiveName (lower word) = false :=
  mnemonic_undotted (isWord_of_known repeats.known).letters

end Repeats

/-- How a record is made of the words of its statement. -/
inductive WordedAs : List Text → Record → Prop
  | label (line : Int) (name : Text) : WordedAs [] (labelRecord line name)
  | directive (place : Place) (first rest : Text) (dotted : isDirectiveName (lower first) = true) :
      WordedAs (first :: words rest) (directiveRecord place (lower first) (trim rest))
  | loneRepeat (place : Place) (repetition : RepeatPrefix) (word : Text)
      (named : lower word = repetition.name) : WordedAs [word] (loneRepeatRecord place repetition)
  | repeated (place : Place) (repetition : RepeatPrefix) (first second rest : Text)
      (named : lower first = repetition.name) :
      WordedAs (first :: second :: words rest)
        (instructionRecord place (some repetition) (lower second) (trim rest))
  | single (place : Place) (first rest : Text) (single : ¬ IsRepeatWord first) :
      WordedAs (first :: words rest) (instructionRecord place none (lower first) (trim rest))

section Wording

theorem statementRecord_worded {statement gap word rest : Text} (line : Int) (label : Option Text)
    (leads : LeadingWord statement gap word rest) :
    WordedAs (words statement) (statementRecord line label statement) := by
  rw [statementRecord, leads.splitMnemonic, leads.words]
  dsimp only
  split
  · next dotted => exact .directive _ word rest dotted
  · cases named : RepeatPrefix.ofName? (lower word) with
    | none =>
        refine .single _ word rest ?_
        rintro ⟨repetition, same⟩
        rw [(RepeatPrefix.ofName_iff _ _).mpr same] at named
        cases named
    | some repetition =>
        have same := (RepeatPrefix.ofName_iff _ _).mp named
        dsimp only
        rw [repeatedRecord]
        obtain blank | ⟨between, second, others, further⟩ := blank_or_leadingWord rest
        · rw [words_blank rest blank, (trim_eq_nil_iff rest).mpr blank]
          exact .loneRepeat _ repetition word same
        · have given : lower second ≠ [] := fun nothing =>
            further.written ((lower_eq_nil_iff second).mp nothing)
          rw [splitMnemonic_trim, further.splitMnemonic, further.words]
          split
          · next nothing => exact absurd (congrArg Prod.fst nothing) given
          · next whole =>
              cases whole
              exact .repeated _ repetition word second others same

theorem readLine_worded {text : Text} {line : Int} {record : Record}
    (read : readLine text line = some record) : WordedAs (words record.source) record := by
  have trimmed := splitLabel_trimmed (trimmed_trim (beforeComment .outside text))
  rw [← stripComment] at trimmed
  cases readLine_iff.mp read with
  | label => exact .label line _
  | @statement label statement separated nonempty =>
      rw [separated] at trimmed
      obtain ⟨gap, word, rest, leads⟩ := leadingWord_of_trimmed trimmed nonempty
      rw [statementRecord_source, words_collapseBlanks]
      exact statementRecord_worded line label leads

end Wording

end AttAssembly
