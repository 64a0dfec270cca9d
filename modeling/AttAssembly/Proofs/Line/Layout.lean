import AttAssembly.Proofs.Line.Margins
import AttAssembly.Proofs.Line.Totality
import AttAssembly.Proofs.Operand.Layout

/-!
The layout of a line. Lines without string literals that have the same words are read alike: one word
after another, whatever blanks are between them. What can differ is what is shown as it was written,
the texts of operands and of errors.
-/

namespace AttAssembly

namespace Operand

/-- The form without the name of a jump target, which may be the text of the operand. -/
def unnamed : OperandForm → OperandForm
  | .target _ displacement => .target [] displacement
  | form => form

/-- Operands that differ in their texts at most, and in the names of jump targets. -/
structure ReadAlike (one other : Operand) : Prop where
  form : unnamed one.form = unnamed other.form
  mode : one.mode = other.mode

variable {one other : Operand}

theorem SameForm.readAlike (same : SameForm one other) : ReadAlike one other :=
  ⟨congrArg unnamed same.form, same.mode⟩

theorem SameForm.asBranchTarget (same : SameForm one other) :
    ReadAlike one.asBranchTarget other.asBranchTarget := by
  rcases one with ⟨text, form, mode⟩
  rcases other with ⟨again, _, _⟩
  obtain ⟨rfl, rfl⟩ := same
  simp only [Operand.asBranchTarget]
  split
  · split
    · exact ⟨rfl, rfl⟩
    · exact ⟨rfl, rfl⟩
  · exact ⟨rfl, rfl⟩

theorem ReadAlike.isMemory (alike : ReadAlike one other) : one.isMemory = other.isMemory := by
  have unaffected (operand : Operand) :
      operand.isMemory = Operand.isMemory ⟨[], unnamed operand.form, .unknown⟩ := by
    rcases operand with ⟨text, form, mode⟩
    cases form <;> rfl
  rw [unaffected one, unaffected other, alike.form]

end Operand

section Operands

variable {operands others : List Operand} (alike : List.Forall₂ Operand.ReadAlike operands others)
include alike

theorem addressingSummary_alike : addressingSummary operands = addressingSummary others := by
  cases alike with
  | nil => rfl
  | cons first rest =>
      cases rest with
      | nil => exact congrArg AddressingMode.name first.mode
      | cons second more =>
          have names := map_eq_of_forall₂ (.cons second more) fun one other same =>
            congrArg (fun mode : AddressingMode => ("dst:" : Text) ++ mode.name)
              (Operand.ReadAlike.mode same)
          simp only [addressingSummary, first.mode, names]

theorem validate_alike (mnemonic : Text) (count : Int) :
    validate mnemonic operands count = validate mnemonic others count := by
  have memory : operands.all (·.isMemory) = others.all (·.isMemory) := by
    have flags := map_eq_of_forall₂ alike fun _ _ same => same.isMemory
    simpa only [List.all_map, Function.id_comp] using congrArg (List.all · id) flags
  have same (name : Text) : isMemoryToMemory name operands count =
      isMemoryToMemory name others count := by
    rw [isMemoryToMemory, isMemoryToMemory, memory, alike.length_eq]
  simp only [validate, same]

end Operands

/-- The operands of both layouts, and the number of those that cannot be read. -/
theorem operands_relaid {read : Text → Except OperandError Operand}
    (reads : ∀ one other, Relaid one other → BothRead Operand.SameForm (read one) (read other))
    {pieces others : List Text} (each : List.Forall₂ RelaidFromMark pieces others) :
    List.Forall₂ Operand.SameForm (acceptedOperands read pieces) (acceptedOperands read others) ∧
      (refusedOperands read pieces).length = (refusedOperands read others).length := by
  induction each with
  | nil => exact ⟨.nil, rfl⟩
  | @cons one other _ _ first rest ih =>
      have both := reads one other first.relaid
      simp only [acceptedOperands, refusedOperands, List.filterMap_cons] at ih ⊢
      generalize read one = here at both
      generalize read other = there at both
      cases both with
      | accepted alike => exact ⟨.cons alike ih.1, ih.2⟩
      | refused error again => exact ⟨ih.1, congrArg Nat.succ ih.2⟩

/-- Records of lines that differ in their layout at most. -/
structure Record.ReadAlike (one other : Record) : Prop where
  line : one.line = other.line
  label : one.label = other.label
  mnemonic : one.mnemonic = other.mnemonic
  size : one.size = other.size
  category : one.category = other.category
  reads : one.reads = other.reads
  writes : one.writes = other.writes
  repetition : one.repetition = other.repetition
  source : one.source = other.source
  errors : one.errors.length = other.errors.length
  operands : List.Forall₂ Operand.ReadAlike one.operands other.operands
  addressing : one.category ≠ .directive → one.addressing = other.addressing

theorem Record.ReadAlike.refl (record : Record) : record.ReadAlike record where
  line := rfl
  label := rfl
  mnemonic := rfl
  size := rfl
  category := rfl
  reads := rfl
  writes := rfl
  repetition := rfl
  source := rfl
  errors := rfl
  operands := List.forall₂_same.mpr fun _ _ => ⟨rfl, rfl⟩
  addressing := fun _ => rfl

section Records

variable {one other : Text} (relaid : Relaid one other)
include relaid

theorem directiveRecord_relaid (place : Place) (name : Text) :
    Record.ReadAlike (directiveRecord place name one) (directiveRecord place name other) := by
  obtain ⟨accepted, refused⟩ := operands_relaid (fun _ _ => Operand.readDirective_relaid)
    relaid.splitPieces
  constructor
  case errors => simp only [directiveRecord, List.length_append, refused]
  case operands => exact accepted.imp fun _ _ same => same.readAlike
  case addressing => exact fun other => absurd rfl other
  all_goals rfl

theorem instructionRecord_relaid (place : Place) (repetition : Option RepeatPrefix)
    (mnemonic : Text) :
    Record.ReadAlike (instructionRecord place repetition mnemonic one)
      (instructionRecord place repetition mnemonic other) := by
  have pieces := relaid.splitPieces
  obtain ⟨accepted, refused⟩ := operands_relaid (fun _ _ => Operand.read_relaid) pieces
  have operands : List.Forall₂ Operand.ReadAlike
      (instructionRecord place repetition mnemonic one).operands
      (instructionRecord place repetition mnemonic other).operands := by
    simp only [instructionRecord, pieces.length_eq]
    split
    · rw [List.forall₂_map_left_iff, List.forall₂_map_right_iff]
      exact accepted.imp fun _ _ same => same.asBranchTarget
    · exact accepted.imp fun _ _ same => same.readAlike
  have summary := addressingSummary_alike operands
  constructor
  case errors =>
    have rules := validate_alike operands (splitSizeSuffix mnemonic).1 (splitPieces other).length
    simp only [instructionRecord, pieces.length_eq] at rules ⊢
    rw [List.length_append, List.length_append, refused, rules]
  case operands => exact operands
  case addressing => exact fun _ => summary
  all_goals simp only [instructionRecord, pieces.length_eq]

theorem repeatedRecord_relaid (place : Place) (repetition : RepeatPrefix) :
    Record.ReadAlike (repeatedRecord place repetition one)
      (repeatedRecord place repetition other) := by
  obtain ⟨mnemonics, operands⟩ := relaid.splitMnemonic
  rw [repeatedRecord, repeatedRecord]
  generalize splitMnemonic one = here at mnemonics operands
  generalize splitMnemonic other = there at mnemonics operands
  rcases here with ⟨mnemonic, operandText⟩
  rcases there with ⟨again, otherText⟩
  obtain rfl : mnemonic = again := mnemonics
  cases mnemonic with
  | nil => exact .refl _
  | cons c rest => exact instructionRecord_relaid operands place (some repetition) (c :: rest)

theorem statementRecord_relaid (line : Int) (label : Option Text) :
    Record.ReadAlike (statementRecord line label one) (statementRecord line label other) := by
  obtain ⟨mnemonics, operands⟩ := relaid.splitMnemonic
  simp only [statementRecord]
  rw [mnemonics, relaid.collapseBlanks]
  split
  · exact directiveRecord_relaid operands _ _
  · split
    · exact repeatedRecord_relaid operands _ _
    · exact instructionRecord_relaid operands _ none _

theorem readLine_relaid (line : Int) :
    Option.Rel Record.ReadAlike (readLine one line) (readLine other line) := by
  have core := relaid.stripComment
  obtain ⟨labels, statements⟩ := core.relaid.splitLabel
  rw [readLine, readLine]
  generalize AttAssembly.stripComment one = first at core labels statements
  generalize AttAssembly.stripComment other = second at core labels statements
  cases core with
  | nil => exact .none
  | mark c solid plain rest =>
      dsimp only
      generalize splitLabel (c :: _) = here at labels statements
      generalize splitLabel (c :: _) = there at labels statements
      rcases here with ⟨label, statement⟩
      rcases there with ⟨again, other⟩
      obtain rfl : label = again := labels
      have statementAlike := statementRecord_relaid statements line label
      cases label with
      | none => exact .some statementAlike
      | some label =>
          by_cases bare : statement = []
          · have also := statements.eq_nil_iff.mp bare
            dsimp only at bare also
            subst statement other
            exact .some (.refl _)
          · have given : other ≠ [] := fun nothing => bare (statements.eq_nil_iff.mpr nothing)
            obtain ⟨d, more, rfl⟩ := List.exists_cons_of_ne_nil bare
            obtain ⟨e, others, rfl⟩ := List.exists_cons_of_ne_nil given
            exact .some statementAlike

end Records

/-- Blanks between words make no difference. With the same words the other line has no double quote
    either. -/
theorem interior_layout_immaterial (one other : Text) (line : Int) (unquoted : '"' ∉ one)
    (whole : OnOneLine one) (still : OnOneLine other) (same : words one = words other) :
    ∃ record again, analyzeLine one line = .ok record ∧ analyzeLine other line = .ok again ∧
      Option.Rel Record.ReadAlike record again := by
  have space : ∀ c ∈ [' '], isBlank c = true := List.forall_mem_singleton.mpr rfl
  have padded (text : Text) : readLine ([' '] ++ text ++ [' ']) line = readLine text line :=
    readLine_margins [' '] text [' '] line space space
  have relaid : Relaid ([' '] ++ one ++ [' ']) ([' '] ++ other ++ [' ']) := by
    apply relaid_of_words
    · rw [words_after_blanks [' '] one space, words_after_blanks [' '] other space, same]
    · simpa [OnOneLine] using whole
    · simpa [OnOneLine] using still
    · simpa using unquoted
    · rintro c ⟨⟩
      rfl
    · rintro c ⟨⟩
      rfl
  have alike := readLine_relaid relaid line
  rw [padded one, padded other] at alike
  exact ⟨_, _, analyzeLine_total one line whole, analyzeLine_total other line still, alike⟩

theorem interior_layout_immaterial_jump :
    let one : Text := "on:\trep  jmp table\u2028+\u30004 ,\t%eax # -  4"
    let other : Text := " on: rep jmp table + 4 , %eax # - 4"
    '"' ∉ one ∧ OnOneLine one ∧ OnOneLine other ∧ words one = words other ∧
      ∃ record again, analyzeLine one 7 = .ok record ∧ analyzeLine other 7 = .ok again ∧
        Option.Rel Record.ReadAlike record again ∧ record.isSome = true := by
  intro one other
  have unquoted : '"' ∉ one := by decide
  have whole : OnOneLine one := by decide
  have still : OnOneLine other := by decide
  have same : words one = words other := by decide
  have holds : ¬ HoldsNothing one := by decide
  obtain ⟨record, again, read, reread, alike⟩ :=
    interior_layout_immaterial one other 7 unquoted whole still same
  have found : record.isSome = true := by
    rw [analyzeLine_total one 7 whole] at read
    cases read
    exact (readLine_isSome_iff one 7).mpr holds
  exact ⟨unquoted, whole, still, same, record, again, read, reread, alike, found⟩

end AttAssembly
