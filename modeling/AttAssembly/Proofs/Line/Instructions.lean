import AttAssembly.Proofs.Analysis.Operands
import AttAssembly.Proofs.Lexeme.Pieces
import AttAssembly.Proofs.Operand.Rendering

/-!
Instruction lines. A line that is put together from a mnemonic and rendered operands is read back as
exactly these operands, in order, as long as no displacement among them has too many digits. The
mnemonic is any word of ASCII letters and digits; only a word that repeats the instruction after it is
read differently. The operands of a branch are taken for targets afterwards, those of every other
instruction stay as they were read.
-/

namespace AttAssembly

section Mnemonics

variable {mnemonic : Text} (word : ∀ c ∈ mnemonic, c.isAlphanum = true)
include word

theorem mnemonic_nameParts : ∀ c ∈ mnemonic, isNamePart c = true :=
  fun c member => by simp [isNamePart, word c member]

theorem mnemonic_solid : ∀ c ∈ mnemonic, isBlank c = false :=
  fun c member => namePart_not_blank c (mnemonic_nameParts word c member)

theorem mnemonic_lower : lower mnemonic = mnemonic.map Char.toLower :=
  lower_ascii mnemonic fun c member =>
    lt_trans (isNamePart_range c (mnemonic_nameParts word c member)).2 (by decide)

theorem mnemonic_undotted : isDirectiveName (lower mnemonic) = false := by
  have nameParts : ∀ c ∈ lower mnemonic, isNamePart c = true := by
    rw [mnemonic_lower word]
    intro c member
    obtain ⟨d, among, same⟩ := List.mem_map.mp member
    subst c
    have alphanum := word d among
    by_cases upper : d.isUpper
    · have letter : d.isAlpha = true := by simp [Char.isAlpha, upper]
      simp [isNamePart, Char.isAlphanum, letter]
    · rw [Char.toLower_eq_of_not_isUpper upper]
      simp [isNamePart, alphanum]
  have trimmed : Trimmed (lower mnemonic) :=
    trimmed_of_solid fun c member => namePart_not_blank c (nameParts c member)
  rw [isDirectiveName, trim_eq_self trimmed]
  refine decide_eq_false fun dot => ?_
  cases nameParts '.' (List.mem_of_head? dot)

end Mnemonics

/-- The operands as they stand on a line. -/
def operandTexts (operands : List WrittenOperand) : Text :=
  joinWith ", " (operands.map (·.text))

def instructionLine (mnemonic : Text) (operands : List WrittenOperand) : Text :=
  mnemonic ++ " " ++ operandTexts operands

/-- What becomes of the operands of an instruction once its category is known. -/
def Category.taken (category : Category) (operands : List Operand) : List Operand :=
  if category = .branch then operands.map Operand.asBranchTarget else operands

theorem Category.taken_length (category : Category) (operands : List Operand) :
    (category.taken operands).length = operands.length := by
  rw [taken]
  split <;> simp

/-- What the record of such a line holds. An operand with too many digits is left out and leaves an
    error in front of those of the instruction as a whole. -/
structure Record.Renders (record : Record) (mnemonic : Text) (operands : List WrittenOperand)
    (line : Int) : Prop where
  line : record.line = line
  label : record.label = none
  repetition : record.repetition = none
  mnemonic : (record.mnemonic, record.size) = splitSizeSuffix (lower mnemonic)
  category : record.category = AttAssembly.category record.mnemonic operands.length
  errors : record.errors =
    ((operands.filterMap (·.excess?)).map fun count => .operand (.tooManyDigits count)) ++
      (validate record.mnemonic record.operands operands.length).map .instruction
  operands : record.operands =
    record.category.taken ((operands.filter (·.isRead)).map (·.operand))

section Lines

/-- A line without a label is a statement as a whole. -/
theorem readLine_unlabelled {text core : Text} (line : Int) (stripped : stripComment text = core)
    (colonless : ':' ∉ core) (written : core ≠ []) :
    readLine text line = some (statementRecord line none core) :=
  readLine_iff.mpr (.statement (by rw [stripped, splitLabel_unlabelled core colonless]) written)

variable {mnemonic : Text} {operands : List WrittenOperand}

theorem operandTexts_pieces (given : ∀ operand ∈ operands, operand.text ≠ []) :
    ∀ piece ∈ operands.map (·.text), IsPiece piece := by
  intro piece member
  obtain ⟨operand, among, same⟩ := List.mem_map.mp member
  exact same ▸ operand.text_isPiece (given operand among)

theorem instructionRecord_renders (place : Place) (mnemonic : Text) (unlabelled : place.label = none)
    (given : ∀ operand ∈ operands, operand.text ≠ []) :
    (instructionRecord place none (lower mnemonic) (operandTexts operands)).Renders mnemonic operands
      place.line := by
  have pieces : splitPieces (operandTexts operands) = operands.map (·.text) :=
    splitPieces_joined _ (operandTexts_pieces given)
  obtain ⟨accepted, refused⟩ :=
    accepted_unlessExcess fun operand (_ : operand ∈ operands) => operand.read_text
  have count : ((operands.map (·.text)).length : Int) = operands.length := by simp
  constructor
  · rfl
  · exact unlabelled
  · rfl
  · rfl
  · simp only [instructionRecord, pieces, count]
    rfl
  · simp only [instructionRecord, pieces, accepted, refused, count]
  · simp only [instructionRecord, pieces, accepted]
    rfl

/-- Nothing is lost exactly if every displacement is read. -/
theorem Record.Renders.whole_iff {record : Record} {line : Int}
    (renders : record.Renders mnemonic operands line) :
    record.operands = record.category.taken (operands.map (·.operand)) ↔
      ∀ reference, .memory reference ∈ operands →
        ∀ value ∈ reference.displacement, writable value = true := by
  have each : (∀ operand ∈ operands, operand.isRead = true) ↔
      ∀ reference, .memory reference ∈ operands →
        ∀ value ∈ reference.displacement, writable value = true := by
    simp only [WrittenOperand.isRead, Option.isNone_iff_eq_none, WrittenOperand.excess_none_iff]
    exact ⟨fun all reference member => all _ member reference rfl,
      fun all operand member reference same => all reference (same ▸ member)⟩
  rw [renders.operands, ← each]
  constructor
  · intro same
    have count := congrArg List.length same
    simp only [Category.taken_length, List.length_map] at count
    exact List.length_filter_eq_length_iff.mp count
  · intro all
    rw [List.filter_eq_self.mpr all]

theorem instructionLine_characters (word : ∀ c ∈ mnemonic, c.isAlphanum = true)
    (operands : List WrittenOperand) :
    ∀ c ∈ instructionLine mnemonic operands, isOperandPart c = true ∨ c = ' ' := by
  intro c member
  rcases List.mem_append.mp member with front | joined
  · rcases List.mem_append.mp front with inside | blank
    · exact .inl (namePart_operandPart c (mnemonic_nameParts word c inside))
    · exact .inr (List.mem_singleton.mp blank)
  · rcases mem_joinWith _ _ c joined with separator | ⟨piece, among, inside⟩
    · have marks : (", ".toList).all (fun mark => isOperandPart mark || mark = ' ') = true := rfl
      simpa using List.all_eq_true.mp marks c separator
    · obtain ⟨operand, _, same⟩ := List.mem_map.mp among
      subst piece
      exact .inl (operand.text_characters c inside)

/-- The statement on the line. It ends with the mnemonic when there are no pieces. -/
theorem spacedLine_core {pieces : List Text} (written : mnemonic ≠ [])
    (word : ∀ c ∈ mnemonic, c.isAlphanum = true) (each : ∀ piece ∈ pieces, IsPiece piece) :
    ∃ core, stripComment (mnemonic ++ " " ++ joinWith ", " pieces) = core ∧ core ≠ [] ∧
      splitMnemonic core = (lower mnemonic, joinWith ", " pieces) := by
  have solid := mnemonic_solid word
  have quiet : ∀ c ∈ mnemonic, isQuiet c = true := fun c member =>
    namePart_quiet c (mnemonic_nameParts word c member)
  cases pieces with
  | nil =>
      -- The blank after the mnemonic goes with the trimming of the line.
      have alone : mnemonic ++ " " ++ joinWith ", " [] = mnemonic ++ [' '] := List.append_nil _
      have uncommented : beforeComment .outside (mnemonic ++ [' ']) = mnemonic ++ [' '] := by
        rw [(selfContained_of_quiet mnemonic quiet).beforeComment_append]
        rfl
      refine ⟨mnemonic, ?_, written, splitMnemonic_alone solid written⟩
      rw [alone, stripComment, uncommented,
        trim_append_blanks mnemonic [' '] (List.forall_mem_singleton.mpr rfl),
        trim_eq_self (trimmed_of_solid solid)]
  | cons first others =>
      obtain ⟨trimmed, _⟩ := joined_trimmed each
      obtain ⟨uncommented, whole⟩ := statement_clean solid written quiet each
      exact ⟨_, stripComment_self uncommented whole, by simp [written],
        splitMnemonic_spaced solid written _ trimmed⟩

theorem spacedLine_avoids {pieces : List Text} (word : ∀ c ∈ mnemonic, c.isAlphanum = true)
    {mark : Char} (outside : mark.isAlphanum = false ∧ mark ∉ [',', ' '])
    (each : ∀ piece ∈ pieces, mark ∉ piece) : mark ∉ mnemonic ++ " " ++ joinWith ", " pieces := by
  obtain ⟨foreign, apart⟩ := outside
  intro member
  rcases List.mem_append.mp member with front | joined
  · rcases List.mem_append.mp front with inside | blank
    · rw [word mark inside] at foreign
      cases foreign
    · exact apart (List.mem_cons_of_mem ',' blank)
  · rcases mem_joinWith _ _ mark joined with separator | ⟨piece, among, inside⟩
    · exact apart separator
    · exact each piece among inside

/-- A line of a mnemonic and pieces is an instruction with these pieces for its operands, if no colon
    makes a label of its front and the mnemonic is no word that repeats an instruction. -/
theorem readLine_spaced {pieces : List Text} (line : Int) (written : mnemonic ≠ [])
    (word : ∀ c ∈ mnemonic, c.isAlphanum = true)
    (single : RepeatPrefix.ofName? (lower mnemonic) = none)
    (each : ∀ piece ∈ pieces, IsPiece piece) (colonless : ∀ piece ∈ pieces, ':' ∉ piece) :
    ∃ place, readLine (mnemonic ++ " " ++ joinWith ", " pieces) line =
      some (instructionRecord place none (lower mnemonic) (joinWith ", " pieces)) := by
  obtain ⟨core, stripped, nonempty, split⟩ := spacedLine_core written word each
  have bare : ':' ∉ core := fun colon =>
    spacedLine_avoids word (by decide) colonless (stripComment_subset _ (stripped ▸ colon))
  refine ⟨⟨line, none, collapseBlanks core⟩, ?_⟩
  rw [readLine_unlabelled line stripped bare nonempty]
  simp only [statementRecord, split, mnemonic_undotted word, single]
  rfl

theorem instructionLine_core (written : mnemonic ≠ []) (word : ∀ c ∈ mnemonic, c.isAlphanum = true)
    (given : ∀ operand ∈ operands, operand.text ≠ []) :
    ∃ core, stripComment (instructionLine mnemonic operands) = core ∧ core ≠ [] ∧
      splitMnemonic core = (lower mnemonic, operandTexts operands) :=
  spacedLine_core written word (operandTexts_pieces given)

end Lines

section RoundTrip

variable {mnemonic : Text} {operands : List WrittenOperand}

theorem instructionLine_analyzed (line : Int) (written : mnemonic ≠ [])
    (word : ∀ c ∈ mnemonic, c.isAlphanum = true)
    (single : ∀ repetition : RepeatPrefix, lower mnemonic ≠ repetition.name)
    (given : ∀ operand ∈ operands, operand.text ≠ []) :
    ∃ record, analyzeLine (instructionLine mnemonic operands) line = .ok (some record) ∧
      record.Renders mnemonic operands line := by
  have characters := instructionLine_characters word operands
  obtain ⟨core, stripped, nonempty, split⟩ := instructionLine_core written word given
  have inside : core ⊆ instructionLine mnemonic operands := stripped ▸ stripComment_subset _
  -- Without a colon nothing is taken for a label, not even a mnemonic that is a name.
  have colonless : ':' ∉ core := fun colon => by
    rcases characters ':' (inside colon) with part | blank <;> contradiction
  have oneLine : OnOneLine (instructionLine mnemonic operands) := fun feed => by
    rcases characters '\n' feed with part | blank <;> contradiction
  have plain : RepeatPrefix.ofName? (lower mnemonic) = none := by
    refine List.find?_eq_none.mpr fun repetition _ same => ?_
    exact single repetition (of_decide_eq_true same).symm
  refine ⟨statementRecord line none core, ?_, ?_⟩
  · rw [analyzeLine_total _ line oneLine, readLine_unlabelled line stripped colonless nonempty]
  · simp only [statementRecord, split, mnemonic_undotted word, plain]
    exact instructionRecord_renders ⟨line, none, collapseBlanks core⟩ mnemonic rfl given

end RoundTrip

/-- A rendered instruction is read back operand by operand, whatever its mnemonic turns out to be,
    and none of its operands is missing exactly if every displacement has digits that are read. -/
theorem instruction_line_round_trip (mnemonic : Text) (operands : List WrittenOperand) (line : Int)
    (written : mnemonic ≠ []) (word : ∀ c ∈ mnemonic, c.isAlphanum = true)
    (single : ∀ repetition : RepeatPrefix, lower mnemonic ≠ repetition.name)
    (given : ∀ operand ∈ operands, operand.text ≠ []) :
    ∃ record, analyzeLine (instructionLine mnemonic operands) line = .ok (some record) ∧
      record.Renders mnemonic operands line ∧
      (record.operands = record.category.taken (operands.map (·.operand)) ↔
        ∀ reference, .memory reference ∈ operands →
          ∀ value ∈ reference.displacement, writable value = true) := by
  obtain ⟨record, analyzed, renders⟩ := instructionLine_analyzed line written word single given
  exact ⟨record, analyzed, renders, renders.whole_iff⟩

/-- A number, and a reference with all but an index. -/
def movedOperands : List WrittenOperand :=
  [ .number (-5) (by simp [InRange]),
    .memory ⟨true, some ⟨"tabla", rfl⟩, some (-8), some ⟨.long .ebp, "eBp", rfl⟩, none, some .four⟩]

theorem instruction_line_round_trip_moved :
    ∃ record, analyzeLine "MovL $-5, *tabla-8(%eBp,,4)" 3 = .ok (some record) ∧
      record.Renders "MovL" movedOperands 3 ∧
      record.operands = record.category.taken (movedOperands.map (·.operand)) := by
  have plain : ∀ repetition : RepeatPrefix, lower "MovL" ≠ repetition.name := by
    intro repetition
    cases repetition <;> decide
  have short : ∀ reference, .memory reference ∈ movedOperands →
      ∀ value ∈ reference.displacement, writable value = true := by
    intro reference member value displaced
    simp only [movedOperands, List.mem_cons, reduceCtorEq, WrittenOperand.memory.injEq, false_or,
      List.not_mem_nil, or_false] at member
    subst member
    cases displaced
    decide +kernel
  obtain ⟨record, analyzed, renders, whole⟩ := instruction_line_round_trip "MovL" movedOperands 3
    (by decide) (List.all_eq_true.mp rfl) plain (by decide)
  exact ⟨record, analyzed, renders, whole.mpr short⟩

/-- The least displacement with too many digits, alone. -/
def farOperand : WrittenOperand := .memory ⟨false, none, some writingBound, none, none, none⟩

theorem far_displacement_refused :
    ¬ ∀ (mnemonic : Text) (operands : List WrittenOperand) (line : Int), mnemonic ≠ [] →
      (∀ c ∈ mnemonic, c.isAlphanum = true) →
      (∀ repetition : RepeatPrefix, lower mnemonic ≠ repetition.name) →
      (∀ operand ∈ operands, operand.text ≠ []) → ∃ record,
        analyzeLine (instructionLine mnemonic operands) line = .ok (some record) ∧
          record.operands = record.category.taken (operands.map (·.operand)) := by
  intro claim
  have word : ∀ c ∈ ("jmp" : Text), c.isAlphanum = true := List.all_eq_true.mp rfl
  have plain : ∀ repetition : RepeatPrefix, lower "jmp" ≠ repetition.name := by
    intro repetition
    cases repetition <;> decide
  have given : ∀ operand ∈ [farOperand], operand.text ≠ [] :=
    List.forall_mem_singleton.mpr (List.cons_ne_nil _ _)
  obtain ⟨record, analyzed, whole⟩ := claim "jmp" [farOperand] 1 (by decide) word plain given
  obtain ⟨other, again, renders⟩ := instructionLine_analyzed 1 (by decide) word plain given
  rw [analyzed] at again
  cases again
  have written := renders.whole_iff.mp whole _ List.mem_cons_self writingBound rfl
  simp [writable] at written

end AttAssembly
