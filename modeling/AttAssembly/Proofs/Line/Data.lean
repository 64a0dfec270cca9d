import AttAssembly.Proofs.Lexeme.Numerals
import AttAssembly.Proofs.Lexeme.Pieces
import AttAssembly.Proofs.Line.Labels
import AttAssembly.Proofs.Operand.Forms
import AttAssembly.Variable

/-!
Data lines. A line that is put together from a label, a data directive and items is read back as
exactly these, as long as no decimal integer among them has too many digits. An item is an integer in
any radix or a string literal; what stands between the quotes of a literal never separates items and
never begins a comment, so the string comes back whatever it holds. The numbers among the items are
the values of the variable that the line declares. An integer with too many digits leaves an error
in their place.
-/

namespace AttAssembly

/-- An item of a data line. -/
inductive DataItem where
  | integer (written : WrittenInteger)
  | string (content : Text) (escaped : WellEscaped content) (oneLine : OnOneLine content)

namespace DataItem

def text : DataItem → Text
  | integer written => written.text
  | string content _ _ => '"' :: content ++ ['"']

def immediate : DataItem → Immediate
  | integer written => .number written.value
  | string content _ _ => .string content

def operand (item : DataItem) : Operand := ⟨item.text, .immediate item.immediate, .immediate⟩

/-- How many digits of an item are too many to be read. -/
def excess? : DataItem → Option Nat
  | integer written => written.excess?
  | string _ _ _ => none

def isRead (item : DataItem) : Bool := item.excess?.isNone

/-- The number that an item is written for, if it is one. -/
def value? : DataItem → Option Int
  | integer written => some written.value
  | string _ _ _ => none

theorem text_isPiece (item : DataItem) : IsPiece item.text := by
  cases item with
  | integer written =>
      refine ⟨selfContained_of_quiet _ fun c member => ?_, trimmed_of_solid written.text_solid,
        written.text_nonempty⟩
      rcases written.text_characters c member with alphanum | rfl
      · exact namePart_quiet c (by simp [isNamePart, alphanum])
      · rfl
  | string content escaped oneLine =>
      -- The quotes keep the blanks inside from being trimmed.
      have quote : Trimmed ['"'] :=
        trimmed_of_solid fun c member => List.mem_singleton.mp member ▸ rfl
      exact ⟨selfContained_literal content escaped,
        quote.around quote content (by simp) (by simp), by simp [text]⟩

theorem text_onOneLine (item : DataItem) : OnOneLine item.text := by
  intro feed
  cases item with
  | integer written => exact absurd (written.text_solid '\n' feed) (by decide)
  | string content escaped oneLine => exact oneLine (by simpa [text] using feed)

theorem stringContent_integer (written : WrittenInteger) :
    Operand.stringContent? written.text = none := by
  refine Operand.stringContent_unopened fun opened => ?_
  rcases written.text_characters '"' (List.mem_of_head? opened) with alphanum | minus
  · exact absurd alphanum (by decide)
  · exact absurd minus (by decide)

theorem readDirective_text (item : DataItem) :
    Operand.readDirective item.text = Operand.unlessExcess item.excess? item.operand := by
  rw [Operand.readDirective, trim_eq_self item.text_isPiece.trimmed]
  cases item with
  | integer written =>
      simp only [text, stringContent_integer written, written.excess_text, excess?]
      cases within : written.excess? with
      | none =>
          rw [written.number_text within]
          rfl
      | some count => rfl
  | string content escaped oneLine =>
      simp only [text, (Operand.stringContent_iff _ content).mpr rfl]
      rfl

/-- The numbers of a list of items, without those that are not read. -/
def readValues (items : List DataItem) : List Int :=
  (items.filter (·.isRead)).filterMap (·.value?)

theorem operand_value (item : DataItem) : item.operand.numericValue? = item.value? := by
  cases item <;> rfl

end DataItem

section Lines

/-- A label, a colon and a blank in front of a statement are taken for what they are. -/
theorem readLine_labelled {label statement : Text} (line : Int) (named : isName label = true)
    (uncommented : beforeComment .outside statement = statement) (trimmed : Trimmed statement)
    (written : statement ≠ []) (oneLine : OnOneLine statement) :
    readLine (label ++ ": " ++ statement) line =
      some (statementRecord line (some label) statement) := by
  have space : ∀ c ∈ [' '], isBlank c = true := List.forall_mem_singleton.mpr rfl
  have read := LineLabel.readLine_before ⟨label, [' '], named, space, by decide⟩ statement line
    oneLine
  have whole : label ++ ": " ++ statement = label ++ ':' :: ([' '] ++ statement) :=
    List.append_assoc _ _ _
  rw [stripComment_self uncommented trimmed] at read
  rw [whole]
  cases statement with
  | nil => exact absurd rfl written
  | cons c rest => exact read

end Lines

section Directives

variable {directive : Text} (known : directive ∈ dataDirectives)
include known

theorem dataDirective_known : knownDirectives.contains directive = true := by
  simp [knownDirectives, known]

theorem dataDirective_characters :
    (∀ c ∈ directive, isQuiet c = true ∧ isBlank c = false) ∧ directive ≠ [] := by
  have each : dataDirectives.all (fun name =>
      name.all (fun c => isQuiet c && !isBlank c) && name ≠ []) = true := by rfl
  have here := List.all_eq_true.mp each directive known
  simpa using here

theorem dataDirective_name : lower directive = directive ∧ isDirectiveName directive = true := by
  have each : ∀ name ∈ dataDirectives, lower name = name ∧ isDirectiveName name = true := by decide
  exact each directive known

end Directives

/-- What an item list is on a line. -/
def itemTexts (items : List DataItem) : Text := joinWith ", " (items.map (·.text))

def dataStatement (directive : Text) (items : List DataItem) : Text :=
  directive ++ " " ++ itemTexts items

def dataLine (label directive : Text) (items : List DataItem) : Text :=
  label ++ ": " ++ dataStatement directive items

/-- The record of a data line. Items that cannot be read are left out and leave an error. -/
def dataRecord (label directive : Text) (items : List DataItem) (line : Int) : Record where
  line := line
  label := some label
  mnemonic := directive
  size := none
  category := .directive
  operands := (items.filter (·.isRead)).map (·.operand)
  addressing := itemTexts items
  reads := []
  writes := []
  errors := (items.filterMap (·.excess?)).map fun count => .operand (.tooManyDigits count)
  repetition := none
  source := collapseBlanks (dataStatement directive items)

section Reading

variable {label directive : Text} {items : List DataItem}

theorem itemTexts_pieces (items : List DataItem) : ∀ piece ∈ items.map (·.text), IsPiece piece := by
  intro piece member
  obtain ⟨item, _, same⟩ := List.mem_map.mp member
  exact same ▸ item.text_isPiece

theorem directiveRecord_items (place : Place) (known : directive ∈ dataDirectives)
    (given : items ≠ []) :
    directiveRecord place directive (itemTexts items) =
      { line := place.line, label := place.label, mnemonic := directive, size := none,
        category := .directive, operands := (items.filter (·.isRead)).map (·.operand),
        addressing := itemTexts items, reads := [], writes := [],
        errors := (items.filterMap (·.excess?)).map fun count => .operand (.tooManyDigits count),
        repetition := none, source := place.source } := by
  have pieces : splitPieces (itemTexts items) = items.map (·.text) :=
    splitPieces_joined _ (itemTexts_pieces items)
  obtain ⟨accepted, refused⟩ :=
    accepted_unlessExcess fun item (_ : item ∈ items) => item.readDirective_text
  simp only [directiveRecord, pieces, accepted, refused, dataDirective_known known,
    List.map_eq_nil_iff, given, if_true, if_false, List.nil_append]
  rfl

theorem itemTexts_onOneLine (items : List DataItem) : OnOneLine (itemTexts items) := by
  intro feed
  rcases mem_joinWith _ _ '\n' feed with separator | ⟨piece, member, inside⟩
  · exact absurd separator (by decide)
  · obtain ⟨item, _, same⟩ := List.mem_map.mp member
    subst piece
    exact item.text_onOneLine inside

theorem dataStatement_onOneLine (known : directive ∈ dataDirectives) (items : List DataItem) :
    OnOneLine (dataStatement directive items) := by
  have solid : '\n' ∉ directive := fun feed =>
    absurd ((dataDirective_characters known).1 '\n' feed).2 (by decide)
  rw [OnOneLine, dataStatement, List.mem_append, List.mem_append]
  rintro ((name | blank) | item)
  · exact solid name
  · exact absurd blank (by decide)
  · exact itemTexts_onOneLine items item

/-- The statement after the label comes apart into the directive and the items. -/
theorem dataStatement_split (known : directive ∈ dataDirectives) (given : items ≠ []) :
    beforeComment .outside (dataStatement directive items) = dataStatement directive items ∧
      Trimmed (dataStatement directive items) ∧
      splitMnemonic (dataStatement directive items) = (directive, itemTexts items) := by
  obtain ⟨plain, written⟩ := dataDirective_characters known
  have solid : ∀ c ∈ directive, isBlank c = false := fun c member => (plain c member).2
  have quiet : ∀ c ∈ directive, isQuiet c = true := fun c member => (plain c member).1
  cases items with
  | nil => exact absurd rfl given
  | cons first others =>
      have each := itemTexts_pieces (first :: others)
      obtain ⟨trimmed, _⟩ := joined_trimmed each
      obtain ⟨uncommented, whole⟩ := statement_clean solid written quiet each
      have split := splitMnemonic_spaced solid written _ trimmed
      rw [(dataDirective_name known).1] at split
      exact ⟨uncommented, whole, split⟩

theorem dataLine_read (line : Int) (named : isName label = true)
    (known : directive ∈ dataDirectives) (given : items ≠ []) :
    readLine (dataLine label directive items) line =
      some (dataRecord label directive items line) := by
  obtain ⟨uncommented, trimmed, split⟩ := dataStatement_split known given
  have written : dataStatement directive items ≠ [] := by simp [dataStatement]
  rw [dataLine, readLine_labelled line named uncommented trimmed written
    (dataStatement_onOneLine known items), statementRecord, split]
  simp only [(dataDirective_name known).2, if_true]
  exact congrArg some (directiveRecord_items _ known given)

theorem dataLine_analyzed (line : Int) (named : isName label = true)
    (known : directive ∈ dataDirectives) (given : items ≠ []) :
    analyzeLine (dataLine label directive items) line =
      .ok (some (dataRecord label directive items line)) := by
  have faultless : (dataRecord label directive items line).fault? = none := by
    refine List.findSome?_eq_none_iff.mpr fun error member => ?_
    obtain ⟨count, _, rfl⟩ := List.mem_map.mp member
    rfl
  simp [analyzeLine, dataLine_read line named known given, faultless]

theorem dataRecord_whole_iff {line : Int} :
    (dataRecord label directive items line).operands = items.map (·.operand) ∧
        (dataRecord label directive items line).errors = [] ↔
      ∀ item ∈ items, item.excess? = none := by
  have silent : (dataRecord label directive items line).errors = [] ↔
      ∀ item ∈ items, item.excess? = none := by
    rw [dataRecord, List.map_eq_nil_iff, List.filterMap_eq_nil_iff]
  refine ⟨fun whole => silent.mp whole.2, fun within => ⟨?_, silent.mpr within⟩⟩
  have all : items.filter (·.isRead) = items := List.filter_eq_self.mpr fun item member => by
    rw [DataItem.isRead, within item member, Option.isNone_none]
  rw [dataRecord, all]

end Reading

/-- A data line is read back as its label, its directive and those of its items that are read; it is
    read back whole, without an error, exactly if every item is. It declares a variable of the numbers
    that are read when its directive is one that declares variables. -/
theorem data_line_round_trip (label directive : Text) (items : List DataItem) (line : Int)
    (named : isName label = true) (known : directive ∈ dataDirectives) (given : items ≠ []) :
    analyzeLine (dataLine label directive items) line =
        .ok (some (dataRecord label directive items line)) ∧
      ((dataRecord label directive items line).operands = items.map (·.operand) ∧
          (dataRecord label directive items line).errors = [] ↔
        ∀ item ∈ items, item.excess? = none) ∧
      (directive ∈ variableDirectives → DataItem.readValues items ≠ [] →
        declaredVariables [dataRecord label directive items line] =
          [⟨label, directive, DataItem.readValues items, line⟩]) := by
  refine ⟨dataLine_analyzed line named known given, dataRecord_whole_iff, ?_⟩
  intro declares numbered
  have values : ((items.filter (·.isRead)).map (·.operand)).filterMap (·.numericValue?) =
      DataItem.readValues items := by
    rw [List.filterMap_map]
    exact List.filterMap_congr fun item _ => item.operand_value
  have declared : Variable.ofRecord? (dataRecord label directive items line) =
      some ⟨label, directive, DataItem.readValues items, line⟩ := by
    simp [Variable.ofRecord?, dataRecord, values, declares, numbered]
  simp [declaredVariables, declared]

/-- A negative number with a leading zero, and a literal with a comma, a semicolon and a quote. -/
def mixedItems : List DataItem :=
  [ .integer ⟨true, .hexadecimal, 255, "0fF", ⟨1, rfl⟩⟩,
    .string ",;\\\"" (.ordinary ',' _ (by decide) (by decide)
      (.ordinary ';' _ (by decide) (by decide) (.escape '"' _ .nil))) (by simp [OnOneLine])]

theorem data_line_round_trip_mixed :
    analyzeLine "buf: .byte -0x0fF, \",;\\\"\"" 7 =
        .ok (some (dataRecord "buf" ".byte" mixedItems 7)) ∧
      (dataRecord "buf" ".byte" mixedItems 7).operands = mixedItems.map (·.operand) ∧
      declaredVariables [dataRecord "buf" ".byte" mixedItems 7] =
        [⟨"buf", ".byte", [-255], 7⟩] := by
  obtain ⟨read, whole, declared⟩ :=
    data_line_round_trip "buf" ".byte" mixedItems 7 (by decide) (by decide) (by simp [mixedItems])
  exact ⟨read, (whole.mpr (by decide)).1, declared (by decide) (by decide)⟩

/-- A seven behind many zeros is no less an integer, but it is not read. -/
theorem padded_item_refused :
    ¬ ∀ (label directive : Text) (items : List DataItem) (line : Int), isName label = true →
      directive ∈ dataDirectives → items ≠ [] → ∃ record,
        analyzeLine (dataLine label directive items) line = .ok (some record) ∧
          record.operands = items.map (·.operand) ∧ record.errors = [] := by
  let seven : WrittenInteger := (WrittenInteger.ofInt .decimal 7).padded digitLimit
  have excess : seven.excess? = some 4301 := WrittenInteger.padded_excess _ rfl
  intro claim
  obtain ⟨record, read, whole⟩ :=
    claim "x" ".quad" [.integer seven] 1 (by decide) (by decide) (by simp)
  rw [dataLine_analyzed 1 (by decide) (by decide) (by simp)] at read
  cases read
  have within := dataRecord_whole_iff.mp whole (.integer seven) (by simp)
  rw [DataItem.excess?, excess] at within
  cases within

end AttAssembly
