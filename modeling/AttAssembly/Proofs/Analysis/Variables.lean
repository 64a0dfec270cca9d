import AttAssembly.Variable
import AttAssembly.Proofs.Analysis.Concatenation
import AttAssembly.Proofs.Analysis.Operands
import AttAssembly.Proofs.Lexeme.Numerals
import AttAssembly.Proofs.Line.Statements
import AttAssembly.Proofs.Mnemonic.Names

/-!
Variables. A variable is taken from a record by its mnemonic and its label, not by its category. The
first word of a line cannot begin with a dot unless the line is a directive, and no size letter cut off
a mnemonic leaves a directive behind; only the word after a repeat prefix is never taken for one. So
the variables of a text are those of its data lines, but for the lines that repeat a data directive:
their dollar numbers declare a variable as well.
-/

namespace AttAssembly

/-- The numbers among the pieces of an operand text, in order. -/
def writtenNumbers (operandText : Text) : List Int := (splitPieces operandText).filterMap number?

def dollarNumber? (piece : Text) : Option Int :=
  match trim piece with
  | '$' :: digits => (number? digits).filter fits32
  | _ => none

/-- The numbers after dollar signs among the pieces of an operand text, in order. -/
def dollarNumbers (operandText : Text) : List Int :=
  (splitPieces operandText).filterMap dollarNumber?

/-- A label, the name of a data directive and a number among the operands. -/
def Record.declares (record : Record) : Bool :=
  record.label.isSome && variableDirectives.contains record.mnemonic &&
    record.operands.any (·.numericValue?.isSome)

/-- The variable of a record, with the numbers that are found on its line. -/
structure Declared (numbers : Text → List Int) (text : Text) (record : Record)
    (declared : Variable) : Prop where
  name : record.label = some declared.name
  directive : record.mnemonic = declared.directive
  line : record.line = declared.line
  values : ∃ index content, (physicalLines text)[index]? = some content ∧
    record.line = 1 + (index : Nat) ∧ declared.values = numbers content

/-- How a record comes to declare a variable. -/
inductive DeclaredBy (text : Text) (record : Record) (declared : Variable) : Prop
  | directive (category : record.category = .directive)
      (read : Declared (fun line => writtenNumbers (operandTextOf line)) text record declared)
  | repeated (category : record.category = .miscellaneous)
      (repetition : record.repetition.isSome = true)
      (read : Declared (fun line => dollarNumbers (splitMnemonic (operandTextOf line)).2) text record
        declared)

/-- One variable for each labelled data directive with a number, in order, and no other. -/
def DeclaresExactly (text : Text) (records : List Record) (declared : List Variable) : Prop :=
  List.Forall₂ (Declared (fun line => writtenNumbers (operandTextOf line)) text)
    (records.filter fun record => record.category = .directive && record.declares) declared

section Values

theorem directive_values (pieces : List Text) :
    (acceptedOperands Operand.readDirective pieces).filterMap (·.numericValue?) =
      pieces.filterMap number? := by
  rw [acceptedOperands, List.filterMap_filterMap]
  refine List.filterMap_congr fun piece _ => ?_
  have bare : number? (trim piece) = number? piece := by rw [number?, number?, trim_trim]
  rw [← bare]
  simp only [Operand.readDirective]
  split
  · next content literal =>
      -- A literal begins with a quote, which no number does.
      rw [Operand.stringContent?.eq_def] at literal
      split at literal
      · next rest quoted =>
          rw [number_of_unread]
          · rfl
          · rw [trim_trim, quoted]
            exact literal_foreign (by decide) (by decide)
      · cases literal
  · split
    · next count many =>
        rw [number?, trim_trim, many]
        rfl
    · next value _ found =>
        rw [found]
        rfl
    · next nothing =>
        rw [nothing]
        split <;> rfl

theorem immediate_value {rest : Text} (trimmed : trim ('$' :: rest) = '$' :: rest) :
    (Operand.readImmediate ('$' :: rest)).toOption.bind (·.numericValue?) =
      (number? rest).filter fits32 := by
  have bare : number? (trim rest) = number? rest := by rw [number?, number?, trim_trim]
  rw [← bare, Operand.readImmediate]
  split
  · next digits dollar =>
      cases trimmed.symm.trans dollar
      dsimp only
      split
      · next named =>
          rw [isLabelName_trimmed _ (trimmed_trim rest)] at named
          rw [number_of_unread ((trim_trim rest).symm ▸ name_not_number named)]
          rfl
      · cases read : Operand.readNumber (.invalidImmediate ('$' :: rest)) (trim rest) with
        | error error =>
            have nothing : number? (trim rest) = none := by
              refine Option.eq_none_iff_forall_ne_some.mpr fun value found => ?_
              rw [Operand.readNumber_ok_iff.mpr found] at read
              cases read
            rw [nothing]
            rfl
        | ok value =>
            rw [Operand.readNumber_ok_iff.mp read]
            by_cases fits : fits32 value = true <;>
              simp [fits, Option.filter, Except.toOption, Operand.numericValue?, bind, Except.bind,
                pure, Except.pure]
  · next other => exact absurd trimmed (other rest)

theorem register_valueless {token : Text} {operand : Operand}
    (read : Operand.readRegister token = .ok operand) : operand.numericValue? = none := by
  obtain ⟨name, register, _, _, rfl⟩ := Operand.readRegister_ok_iff.mp read
  rfl

theorem memory_valueless {token : Text} {operand : Operand}
    (read : Operand.readMemory token = .ok operand) : operand.numericValue? = none := by
  cases Operand.readMemory_iff.mp read <;> rfl

/-- Only what begins with a dollar sign is read as a number. -/
theorem instruction_values (pieces : List Text) :
    (acceptedOperands Operand.read pieces).filterMap (·.numericValue?) =
      pieces.filterMap dollarNumber? := by
  rw [acceptedOperands, List.filterMap_filterMap]
  refine List.filterMap_congr fun piece _ => ?_
  rw [dollarNumber?]
  split
  · next rest dollar =>
      rw [Operand.read_dollar dollar, immediate_value (dollar ▸ trim_trim piece)]
  · next other =>
      cases read : Operand.read piece with
      | error cause => rfl
      | ok operand =>
          simp only [Operand.read] at read
          split at read
          · next digits dollar => exact absurd dollar (other digits)
          · exact register_valueless read
          · exact memory_valueless read

end Values

section Mnemonics

open LetterCase

theorem ofNat_dot {code : Nat} (dot : Char.ofNat code = '.') : code = 0x2E := by
  have read := congrArg Char.toNat dot
  rw [Char.toNat_ofNat] at read
  split at read
  · exact read
  · cases read

theorem change_undotted {c : Char} (undotted : c ≠ '.') :
    ∃ first rest, change lowerExpansions lowerRuns c = first :: rest ∧ first ≠ '.' := by
  have expansions : ∀ expansion ∈ lowerExpansions,
      ∃ first rest, expansion.2 = first :: rest ∧ first ≠ 0x2E := by
    intro expansion tabled
    fin_cases tabled
    exact ⟨_, _, rfl, by decide⟩
  have runs : ∀ run ∈ lowerRuns, 0x2E < run.low + run.distance := by decide +kernel
  rw [change]
  split
  · next codes found =>
      obtain ⟨before, after, same, _⟩ := List.lookup_eq_some_iff.mp found
      obtain ⟨first, rest, written, other⟩ := expansions (c.toNat, codes) (by simp [same])
      dsimp only at written
      subst written
      exact ⟨_, _, rfl, fun dot => other (ofNat_dot dot)⟩
  · split
    · next code found =>
        obtain ⟨run, tabled, moved⟩ := List.exists_of_findSome?_eq_some found
        have above := runs run tabled
        rw [Run.move?] at moved
        split at moved
        · next inside =>
            cases moved
            refine ⟨_, _, rfl, fun dot => ?_⟩
            have low := ofNat_dot dot
            omega
        · cases moved
    · exact ⟨_, _, rfl, undotted⟩

/-- The lower case of anything but a dot is not empty and does not begin with one. -/
theorem lowerLetter_undotted {c : Char} (undotted : c ≠ '.') :
    ∃ first rest, lowerLetter c = first :: rest ∧ first ≠ '.' := by
  rw [lowerLetter]
  split
  · refine ⟨_, _, rfl, fun dot => undotted ?_⟩
    rcases letter_case c with same | capital
    · exact same.trans dot
    · rw [capital, dot]
      rfl
  · exact change_undotted undotted

theorem lower_dotted {text : Text} (dotted : (lower text).head? = some '.') :
    text.head? = some '.' := by
  cases text with
  | nil => cases dotted
  | cons c rest =>
      by_contra undotted
      have other : c ≠ '.' := fun dot => undotted (congrArg some dot)
      obtain ⟨first, others, same, noDot⟩ := lowerLetter_undotted other
      rw [lower, lowerFrom] at dotted
      split at dotted
      · split at dotted <;> cases dotted
      · rw [same] at dotted
        exact noDot (Option.some.inj dotted)

/-- What the classifier makes of a data directive that it is shown as a mnemonic. -/
theorem directive_unknown : ∀ name ∈ variableDirectives, entryOf? name = none ∧
    lower name = name ∧ name.head? = some '.' ∧
    (families.find? fun (stem, _) => stem.isPrefixOf name) = none ∧
    stringMoves.contains name = false := by
  decide +kernel

theorem directive_category {name : Text} (directive : name ∈ variableDirectives) (count : Int) :
    category name count = .miscellaneous := by
  obtain ⟨unknown, same, _, stemless, noMove⟩ := directive_unknown name directive
  simp only [category, same, isStringMove, noMove, Bool.false_and, unknown, stemless]
  rfl

theorem suffixed_directive {mnemonic : Text}
    (directive : (splitSizeSuffix mnemonic).1 ∈ variableDirectives) :
    isDirectiveName mnemonic = true := by
  obtain ⟨unknown, _, dotted, _⟩ := directive_unknown _ directive
  rw [splitSizeSuffix_unknown mnemonic unknown] at dotted
  obtain ⟨rest, same⟩ := List.head?_eq_some_iff.mp (lower_dotted dotted)
  have trimmed : trim mnemonic = '.' :: trimRight rest := by
    rw [same, trim, trimLeft_eq_self _ (by rintro c ⟨⟩; rfl)]
    exact trimRight_after_solid [] rest '.' rfl
  rw [isDirectiveName, trimmed]
  rfl

end Mnemonics

section Lines

variable {record : Record} {content : Text} {line : Int}

theorem instructionRecord_directive {place : Place} {repetition : Option RepeatPrefix}
    {mnemonic operandText : Text}
    (directive :
      (instructionRecord place repetition mnemonic operandText).mnemonic ∈ variableDirectives) :
    (instructionRecord place repetition mnemonic operandText).category = .miscellaneous ∧
      (instructionRecord place repetition mnemonic operandText).operands =
        acceptedOperands Operand.read (splitPieces operandText) := by
  have category :
      (instructionRecord place repetition mnemonic operandText).category = .miscellaneous :=
    directive_category directive _
  refine ⟨category, ?_⟩
  rw [instructionRecord_operands, category]
  rfl

/-- How a record comes to have the name of a data directive: its line begins with it, or with a repeat
    prefix in front of it. -/
inductive Record.NamesData (operandText : Text) (record : Record) : Prop
  | directive (category : record.category = .directive)
      (operands : record.operands =
        acceptedOperands Operand.readDirective (splitPieces operandText))
  | repeated (category : record.category = .miscellaneous)
      (repetition : record.repetition.isSome = true)
      (operands : record.operands =
        acceptedOperands Operand.read (splitPieces (splitMnemonic operandText).2))

theorem repeatedRecord_directive (place : Place) (repetition : RepeatPrefix) (operandText : Text)
    (directive : (repeatedRecord place repetition operandText).mnemonic ∈ variableDirectives) :
    (repeatedRecord place repetition operandText).NamesData operandText := by
  revert directive
  rw [repeatedRecord]
  split
  · have other : repetition.name ∉ variableDirectives := by cases repetition <;> decide
    exact fun directive => absurd directive other
  · next mnemonic rest _ separated =>
      intro directive
      obtain ⟨category, operands⟩ := instructionRecord_directive directive
      exact .repeated category rfl (separated ▸ operands)

theorem statementRecord_directive (line : Int) (label : Option Text) (statement : Text)
    (directive : (statementRecord line label statement).mnemonic ∈ variableDirectives) :
    (statementRecord line label statement).NamesData (splitMnemonic statement).2 := by
  revert directive
  rw [statementRecord]
  rcases splitMnemonic statement with ⟨mnemonic, operandText⟩
  dsimp only
  split
  · exact fun _ => .directive rfl rfl
  · next undotted =>
      intro directive
      split at directive
      · exact repeatedRecord_directive _ _ _ directive
      · exact absurd (suffixed_directive directive) undotted

theorem readLine_directive (read : readLine content line = some record)
    (directive : record.mnemonic ∈ variableDirectives) :
    record.NamesData (operandTextOf content) := by
  rw [operandTextOf]
  cases readLine_iff.mp read with
  | label => exact absurd directive (show ("label" : Text) ∉ variableDirectives by decide)
  | @statement label statement separated =>
      rw [separated]
      exact statementRecord_directive line label statement directive

end Lines

section Declarations

variable {text : Text} {records : List Record} {record : Record} {declared : Variable}

theorem declares_iff (record : Record) :
    record.declares = true ↔ ∃ declared, Variable.ofRecord? record = some declared := by
  rw [Record.declares, Variable.ofRecord?]
  cases record.label with
  | none => simp
  | some label => simp [List.filterMap_eq_nil_iff, Option.isSome_iff_ne_none]

theorem ofRecord_some (found : Variable.ofRecord? record = some declared) :
    record.mnemonic ∈ variableDirectives ∧ record.label = some declared.name ∧
      record.mnemonic = declared.directive ∧ record.line = declared.line ∧
      declared.values = record.operands.filterMap (·.numericValue?) := by
  rw [Variable.ofRecord?] at found
  split at found
  · cases found
  · next label named =>
      dsimp only at found
      split at found
      · next given =>
          cases found
          have directive := List.contains_iff_mem.mp (Bool.and_eq_true_iff.mp given).1
          exact ⟨directive, named, rfl, rfl, rfl⟩
      · cases found

theorem declaredBy_of_record (member : record ∈ recordsOf text)
    (found : Variable.ofRecord? record = some declared) : DeclaredBy text record declared := by
  obtain ⟨directive, name, mnemonic, line, values⟩ := ofRecord_some found
  obtain ⟨index, content, here, read⟩ := (mem_recordsFrom_iff _ _ _).mp member
  have place : record.line = 1 + (index : Nat) := (readLine_readAs _ _ _ read).line_eq
  cases readLine_directive read directive with
  | directive category operands =>
      refine .directive category ⟨name, mnemonic, line, index, content, here, place, ?_⟩
      rw [values, operands, directive_values]
      rfl
  | repeated category repetition operands =>
      refine .repeated category repetition ⟨name, mnemonic, line, index, content, here, place, ?_⟩
      rw [values, operands, instruction_values]
      rfl

theorem declared_each (inside : records ⊆ recordsOf text) :
    List.Forall₂ (DeclaredBy text) (records.filter Record.declares) (declaredVariables records) := by
  induction records with
  | nil => exact .nil
  | cons record rest ih =>
      have later := ih fun other member => inside (List.mem_cons_of_mem _ member)
      rw [declaredVariables, List.filterMap_cons]
      cases found : Variable.ofRecord? record with
      | none =>
          have silent : ¬ record.declares = true := by simp [declares_iff, found]
          rw [List.filter_cons_of_neg silent]
          exact later
      | some declared =>
          have declares : record.declares = true := (declares_iff record).mpr ⟨declared, found⟩
          rw [List.filter_cons_of_pos declares]
          exact .cons (declaredBy_of_record (inside List.mem_cons_self) found) later

/-- Records of which none but directives declare anything. -/
theorem declares_exactly (inside : records ⊆ recordsOf text)
    (only : ∀ record ∈ records, record.declares = true → record.category = .directive) :
    DeclaresExactly text records (declaredVariables records) := by
  have same : (records.filter fun record => record.category = .directive && record.declares) =
      records.filter Record.declares := by
    refine List.filter_congr fun record member => ?_
    cases declares : record.declares with
    | false => exact Bool.and_false _
    | true => simpa using only record member declares
  rw [DeclaresExactly, same]
  have directives : ∀ record ∈ records.filter Record.declares, record.category = .directive := by
    intro record member
    obtain ⟨among, declares⟩ := List.mem_filter.mp member
    exact only record among declares
  refine List.Forall₂.imp ?_
    ((List.forall₂_and_left _ _).mpr ⟨directives, declared_each inside⟩)
  rintro record declared ⟨directive, by_record⟩
  cases by_record with
  | directive category read => exact read
  | repeated category repetition read =>
      rw [category] at directive
      cases directive

theorem declares_exactly_iff (text : Text) :
    DeclaresExactly text (recordsOf text) (declaredVariables (recordsOf text)) ↔
      ∀ record ∈ recordsOf text, record.declares = true → record.category = .directive := by
  constructor
  · intro exactly record member declares
    -- Both lists of records have as many members as there are variables.
    have counted := exactly.length_eq.trans
      (declared_each (List.Subset.refl (recordsOf text))).length_eq.symm
    rw [← List.filter_filter, List.length_filter_eq_length_iff] at counted
    simpa using counted record (List.mem_filter.mpr ⟨member, declares⟩)
  · exact declares_exactly (List.Subset.refl _)

theorem declares_directives (text : Text) :
    DeclaresExactly text (recordsOf text)
      (declaredVariables ((recordsOf text).filter (·.category = .directive))) := by
  have only : ∀ record ∈ (recordsOf text).filter (·.category = .directive),
      record.declares = true → record.category = .directive := by
    intro record member _
    simpa using (List.mem_filter.mp member).2
  have exactly := declares_exactly (List.filter_subset_self _) only
  rw [DeclaresExactly, List.filter_filter] at exactly
  have once (record : Record) : (record.category = .directive && record.declares &&
      record.category = .directive) = (record.category = .directive && record.declares) := by
    rw [Bool.and_right_comm, Bool.and_self]
  simpa only [DeclaresExactly, once] using exactly

theorem declared_in_order (text : Text) :
    (declaredVariables (recordsOf text)).Pairwise fun one other => one.line < other.line := by
  refine List.Pairwise.filterMap _ ?_ (recordsFrom_increasing 1 (physicalLines text))
  intro one other earlier first found second further
  obtain ⟨_, _, _, line, _⟩ := ofRecord_some found
  obtain ⟨_, _, _, later, _⟩ := ofRecord_some further
  omega

end Declarations

/-- The variables of a text stand in the order of their lines, one for each record with a label, the
name of a data directive and a number. The values of a directive are the numbers among the pieces after
its name. There are no other variables unless a record declares one that is no directive; then its line
repeats a data directive, and the values are the numbers after dollar signs. -/
theorem variables_of_data_lines (text : Text) :
    ∃ records, analyze text = .ok records ∧
      List.Forall₂ (DeclaredBy text) (records.filter Record.declares) (declaredVariables records) ∧
      (declaredVariables records).Pairwise (fun one other => one.line < other.line) ∧
      DeclaresExactly text records
        (declaredVariables (records.filter (·.category = .directive))) ∧
      (DeclaresExactly text records (declaredVariables records) ↔
        ∀ record ∈ records, record.declares = true → record.category = .directive) :=
  ⟨_, analyze_eq_records text, declared_each (List.Subset.refl _), declared_in_order text,
    declares_directives text, declares_exactly_iff text⟩

/-- A repeated data directive is no directive, but declares a variable. -/
theorem repeated_directive_declares :
    ∃ record, analyze "x: rep .byte $1" = .ok [record] ∧ record.category = .miscellaneous ∧
      declaredVariables [record] = [⟨"x", ".byte", [1], 1⟩] ∧
      ¬ DeclaresExactly "x: rep .byte $1" [record] (declaredVariables [record]) := by
  refine ⟨_, rfl, rfl, rfl, ?_⟩
  intro declared
  cases declared

end AttAssembly
