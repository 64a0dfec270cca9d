import AttAssembly.Proofs.Analysis.Records
import AttAssembly.Proofs.Lexeme.Scanning
import AttAssembly.Proofs.Mnemonic.Names
import AttAssembly.Proofs.Operand.Forms

/-!
The operands of analysed records. The category of a record settles how its operands are read:
directives read by rules of their own, branches make targets of what the others keep as direct
references. An operand that one of the three readings makes is well formed for its category, and every
operand of every record comes from the reading of its record's category, for any text whatsoever.
-/

namespace AttAssembly

/-- An instruction is classified neither as a label nor as a directive. -/
theorem category_statement (mnemonic : Text) (count : Int) :
    category mnemonic count ≠ .label ∧ category mnemonic count ≠ .directive := by
  have entries : ∀ entry ∈ mnemonicTable,
      entry.2.category ≠ .label ∧ entry.2.category ≠ .directive := by decide +kernel
  have stems : ∀ family ∈ families, family.2 ≠ .label ∧ family.2 ≠ .directive := by decide
  simp only [category]
  split
  · simp
  · split
    · next entry found => exact entries _ (mem_of_lookup found)
    · split
      · next stem family found => exact stems _ (List.mem_of_find?_eq_some found)
      · simp

/-- How the operands of a record are read. -/
def Category.reader : Category → Text → Except OperandError Operand
  | .directive => Operand.readDirective
  | .branch => fun token => Operand.asBranchTarget <$> Operand.read token
  | _ => Operand.read

theorem Category.reader_plain {category : Category} (directive : category ≠ .directive)
    (branch : category ≠ .branch) : category.reader = Operand.read := by
  cases category with
  | directive => exact absurd rfl directive
  | branch => exact absurd rfl branch
  | _ => rfl

/-- The target of a jump, called by a name or else by the text it was written with. -/
inductive OperandForm.IsTarget (text : Text) : OperandForm → Prop
  | named (name : Text) (displacement : Option Int) (named : isName name = true) :
      IsTarget text (.target name displacement)
  | numbered (displacement : Int) : IsTarget text (.target text (some displacement))

namespace Operand

/-- A reference that a branch takes for its target. -/
def IsBareDirect (operand : Operand) : Prop :=
  operand.mode = .direct ∧ ∃ symbol displacement,
    operand.form = .memory ⟨symbol, displacement, none, none, none, false⟩

/-- The operand is one that a record of the category can have: it is well formed, and its text is
    what it was read from. -/
structure Suits (category : Category) (operand : Operand) : Prop where
  mode : operand.mode = operand.form.mode
  directive : category = .directive → operand.form.InDirective
  statement : category ≠ .directive → operand.form.InInstruction ∨
    category = .branch ∧ operand.form.IsTarget operand.text
  branch : category = .branch → ¬ operand.IsBareDirect
  written : Trimmed operand.text ∧ operand.text ≠ []
  reread : category.reader operand.text = .ok operand

theorem asBranchTarget_text (operand : Operand) : operand.asBranchTarget.text = operand.text := by
  rw [asBranchTarget]
  split
  · split <;> rfl
  · rfl

theorem asBranchTarget_other {operand : Operand} (other : ¬ operand.IsBareDirect) :
    operand.asBranchTarget = operand := by
  rw [asBranchTarget]
  split
  · next symbol displacement form =>
      split
      · next direct => exact absurd ⟨direct, symbol, displacement, form⟩ other
      · rfl
  · rfl

theorem asBranchTarget_bare {operand : Operand} {symbol : Option Text} {displacement : Option Int}
    (form : operand.form = .memory ⟨symbol, displacement, none, none, none, false⟩)
    (direct : operand.mode = .direct) :
    operand.asBranchTarget =
      ⟨operand.text, .target (symbol.getD operand.text) displacement, .relative⟩ := by
  rw [asBranchTarget]
  simp [form, direct]

/-- A direct reference has a symbol or a number to call the target by. -/
theorem bare_isTarget {operand : Operand} {symbol : Option Text} {displacement : Option Int}
    (form : operand.form = .memory ⟨symbol, displacement, none, none, none, false⟩)
    (direct : operand.mode = .direct) (table : operand.mode = operand.form.mode)
    (allowed : operand.form.InInstruction) :
    (OperandForm.target (symbol.getD operand.text) displacement).IsTarget operand.text := by
  rw [form] at allowed table
  cases symbol with
  | some name =>
      cases allowed with
      | memory _ wellFormed => exact .named name displacement (wellFormed.symbol name rfl)
  | none =>
      cases displacement with
      | some value => exact .numbered value
      -- With neither the table gives no mode at all.
      | none => simp [direct, OperandForm.mode, MemoryReference.mode, AddressingMode.ofComponents] at table

section Readings

variable {token : Text} {operand : Operand}

theorem branch_reader (found : Category.branch.reader token = .ok operand) :
    ∃ first, read token = .ok first ∧ first.asBranchTarget = operand := by
  simp only [Category.reader] at found
  cases reading : read token with
  | error cause =>
      rw [reading] at found
      cases found
  | ok first =>
      rw [reading] at found
      exact ⟨first, rfl, Except.ok.inj found⟩

theorem branch_reading (found : Category.branch.reader token = .ok operand) :
    operand.text = trim token ∧ operand.mode = operand.form.mode ∧
      (operand.form.InInstruction ∨ operand.form.IsTarget operand.text) ∧
      ¬ operand.IsBareDirect := by
  obtain ⟨first, reading, same⟩ := branch_reader found
  have origin := read_from reading
  subst operand
  rw [asBranchTarget_text]
  refine ⟨origin.text, ?_⟩
  by_cases bare : first.IsBareDirect
  · obtain ⟨direct, symbol, displacement, form⟩ := bare
    rw [asBranchTarget_bare form direct]
    exact ⟨rfl, .inr (bare_isTarget form direct origin.mode origin.form), by simp [IsBareDirect]⟩
  · rw [asBranchTarget_other bare]
    exact ⟨origin.mode, .inl origin.form, bare⟩

theorem suits_of_reader {category : Category} (found : category.reader token = .ok operand)
    (trimmed : Trimmed token) (nonempty : token ≠ []) : operand.Suits category := by
  -- The token was trimmed, so the operand's text is the token itself.
  have written (text : operand.text = trim token) :
      (Trimmed operand.text ∧ operand.text ≠ []) ∧ category.reader operand.text = .ok operand := by
    rw [text, trim_eq_self trimmed]
    exact ⟨⟨trimmed, nonempty⟩, found⟩
  -- Three readings: directives and branches have their own, all other categories share one.
  by_cases directive : category = .directive
  · subst category
    obtain ⟨text, mode, form⟩ := readDirective_from found
    exact ⟨mode, fun _ => form, fun other => absurd rfl other, by simp, (written text).1,
      (written text).2⟩
  · by_cases branch : category = .branch
    · subst category
      obtain ⟨text, mode, form, other⟩ := branch_reading found
      exact ⟨mode, by simp, fun _ => form.imp_right fun target => ⟨rfl, target⟩, fun _ => other,
        (written text).1, (written text).2⟩
    · rw [Category.reader_plain directive branch] at found
      obtain ⟨text, mode, form⟩ := read_from found
      exact ⟨mode, fun same => absurd same directive, fun _ => .inl form,
        fun same => absurd same branch, (written text).1, (written text).2⟩

end Readings

end Operand

theorem accepted_branch (pieces : List Text) :
    (acceptedOperands Operand.read pieces).map Operand.asBranchTarget =
      acceptedOperands Category.branch.reader pieces := by
  rw [acceptedOperands, acceptedOperands, List.map_filterMap]
  refine List.filterMap_congr fun piece _ => ?_
  simp only [Category.reader]
  cases Operand.read piece <;> rfl

/-- An instruction reads its operands in the way of the category it turns out to have. -/
theorem instructionRecord_operands (place : Place) (repetition : Option RepeatPrefix)
    (mnemonic operandText : Text) :
    (instructionRecord place repetition mnemonic operandText).operands =
      acceptedOperands (instructionRecord place repetition mnemonic operandText).category.reader
        (splitPieces operandText) := by
  have statement :
      (instructionRecord place repetition mnemonic operandText).category ≠ .directive :=
    (category_statement _ _).2
  change (if (instructionRecord place repetition mnemonic operandText).category = .branch then
    (acceptedOperands Operand.read (splitPieces operandText)).map Operand.asBranchTarget
    else acceptedOperands Operand.read (splitPieces operandText)) = _
  by_cases branch : (instructionRecord place repetition mnemonic operandText).category = .branch
  · rw [if_pos branch, accepted_branch, branch]
  · rw [if_neg branch, Category.reader_plain statement branch]

theorem ReadAs.operands_eq {text : Text} {line : Int} {record : Record}
    (kind : ReadAs text line record) :
    ∃ operandText, record.operands =
      acceptedOperands record.category.reader (splitPieces operandText) := by
  cases kind with
  | label name => exact ⟨[], rfl⟩
  | loneRepeat place repetition here => exact ⟨[], rfl⟩
  | directive place name operandText here inside => exact ⟨operandText, rfl⟩
  | instruction place repetition mnemonic operandText here inside =>
      exact ⟨operandText, instructionRecord_operands place repetition mnemonic operandText⟩

theorem ReadAs.operands_suit {text : Text} {line : Int} {record : Record}
    (kind : ReadAs text line record) :
    ∀ operand ∈ record.operands, operand.Suits record.category := by
  intro operand among
  obtain ⟨operandText, same⟩ := kind.operands_eq
  rw [same] at among
  obtain ⟨piece, written, reading⟩ := (accepted_operand_iff _ _ _).mp among
  obtain ⟨trimmed, nonempty⟩ := piece_trimmed operandText piece written
  exact Operand.suits_of_reader reading trimmed nonempty

/-- Every operand of the analysis of any text is well formed for the category of its record, and is
    what its own text is read as. -/
theorem operands_well_formed (text : Text) :
    ∃ analyzed, analyze text = .ok analyzed ∧
      ∀ record ∈ analyzed, ∀ operand ∈ record.operands, operand.Suits record.category := by
  refine ⟨recordsOf text, analyze_eq_records text, fun record member => ?_⟩
  have drawn : DrawnFrom text (recordsOf text) :=
    ⟨recordsOf text, analyze_eq_records text, List.Subset.refl _⟩
  obtain ⟨line, _, kind⟩ := drawn.readAs record member
  exact kind.operands_suit

/-- A jump target is recorded as a target, a table of jumps keeps its reference. -/
theorem operands_well_formed_jumps :
    ∃ first second, analyze "jmp fin+4\nfin: jmp *tabla(,%ecx,4)" = .ok [first, second] ∧
      ⟨"fin+4", .target "fin" (some 4), .relative⟩ ∈ first.operands ∧
      Operand.Suits .branch ⟨"fin+4", .target "fin" (some 4), .relative⟩ ∧
      ∀ operand ∈ second.operands, operand.Suits .branch := by
  obtain ⟨analyzed, analysis, each⟩ :=
    operands_well_formed "jmp fin+4\nfin: jmp *tabla(,%ecx,4)"
  have two : analyzed = [statementRecord 1 none "jmp fin+4",
      statementRecord 2 (some "fin") "jmp *tabla(,%ecx,4)"] :=
    Except.ok.inj (analysis.symm.trans rfl)
  subst two
  have target : ⟨"fin+4", .target "fin" (some 4), .relative⟩ ∈
      (statementRecord 1 none "jmp fin+4").operands := by decide
  exact ⟨_, _, analysis, target, each _ List.mem_cons_self _ target,
    each _ (List.mem_cons_of_mem _ List.mem_cons_self)⟩

end AttAssembly
