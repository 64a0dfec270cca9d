import AttAssembly.Proofs.Analysis.Records
import AttAssembly.Proofs.Line.Margins

/-!
The analysis of a text put together from two. Lines are read one by one and nothing is carried from
a line to the next, so the records of two texts with a line feed between them are the records of the
first followed by those of the second, moved down by the lines of the first. A carriage return that
goes with the line feed would have been trimmed away with the blanks of its line.
-/

namespace AttAssembly

/-- The same record so many lines further down. -/
def Record.moved (count : Int) (record : Record) : Record :=
  { record with line := record.line + count }

theorem endAtFeeds_length (first : Text) (others : List Text) :
    (endAtFeeds first others).length = (first :: others).length := by
  induction others generalizing first with
  | nil => rfl
  | cons next others ih => exact congrArg (· + 1) (ih next)

theorem physicalLines_length (text : Text) :
    (physicalLines text).length = 1 + text.count '\n' := by
  have counted : text.countP (· = '\n') = text.count '\n' := by
    rw [List.count]
    exact List.countP_congr fun c _ => by simp
  rw [← counted, ← splitParts_length]
  exact endAtFeeds_length _ _

theorem stripComment_dropReturn (line : Text) : stripComment (dropReturn line) = stripComment line := by
  rw [dropReturn]
  split
  · next last =>
      obtain ⟨front, same⟩ := List.getLast?_eq_some_iff.mp last
      have blank : ∀ c ∈ ['\r'], isBlank c = true := List.forall_mem_singleton.mpr rfl
      rw [same, List.dropLast_concat, stripComment_append_blanks front ['\r'] blank]
  · rfl

theorem readLine_dropReturn (text : Text) (line : Int) :
    readLine (dropReturn text) line = readLine text line := by
  rw [readLine, readLine, stripComment_dropReturn]

theorem recordsFrom_endAtFeeds (line : Int) (first : Text) (others : List Text) :
    recordsFrom line (endAtFeeds first others) = recordsFrom line (first :: others) := by
  induction others generalizing line first with
  | nil => rfl
  | cons next others ih =>
      rw [endAtFeeds, recordsFrom, readLine_dropReturn, ih, ← recordsFrom]

theorem recordsOf_eq_parts (text : Text) :
    recordsOf text = recordsFrom 1 (splitParts (· = '\n') text) :=
  recordsFrom_endAtFeeds 1 _ _

theorem repeatedRecord_moved (place : Place) (repetition : RepeatPrefix) (statement : Text)
    (count : Int) :
    repeatedRecord { place with line := place.line + count } repetition statement =
      (repeatedRecord place repetition statement).moved count := by
  rw [repeatedRecord, repeatedRecord]
  split <;> rfl

theorem statementRecord_moved (label : Option Text) (statement : Text) (line count : Int) :
    statementRecord (line + count) label statement =
      (statementRecord line label statement).moved count := by
  simp only [statementRecord]
  split
  · rfl
  · split
    · exact repeatedRecord_moved ⟨line, label, collapseBlanks statement⟩ _ _ count
    · rfl

/-- A line does not know where it stands. -/
theorem readLine_moved (text : Text) (line count : Int) :
    readLine text (line + count) = (readLine text line).map (·.moved count) := by
  rw [readLine, readLine]
  split
  · rfl
  · split
    · rfl
    · rw [statementRecord_moved, Option.map_some]

theorem recordsFrom_moved (line count : Int) (lines : List Text) :
    recordsFrom (line + count) lines = (recordsFrom line lines).map (·.moved count) := by
  induction lines generalizing line with
  | nil => rfl
  | cons text rest ih =>
      have later : line + count + 1 = line + 1 + count := by omega
      rw [recordsFrom, recordsFrom, List.map_append, readLine_moved, later, ih,
        Option.toList_map]

theorem recordsFrom_append (line : Int) (first second : List Text) :
    recordsFrom line (first ++ second) =
      recordsFrom line first ++ recordsFrom (line + first.length) second := by
  induction first generalizing line with
  | nil => simp [recordsFrom]
  | cons text rest ih =>
      have after : line + 1 + rest.length = line + (text :: rest).length := by
        rw [List.length_cons]
        push_cast
        omega
      rw [List.cons_append, recordsFrom, recordsFrom, ih, after, List.append_assoc]

theorem recordsOf_append (first second : Text) :
    recordsOf (first ++ '\n' :: second) =
      recordsOf first ++ (recordsOf second).map (·.moved (1 + first.count '\n')) := by
  have lines : ((splitParts (· = '\n') first).length : Int) = 1 + first.count '\n' := by
    have counted := physicalLines_length first
    rw [physicalLines, endAtFeeds_length] at counted
    exact_mod_cast counted
  rw [recordsOf_eq_parts, recordsOf_eq_parts, recordsOf_eq_parts,
    splitParts_append _ first second '\n' rfl, recordsFrom_append, lines, recordsFrom_moved]

theorem mem_recordsFrom_iff (line : Int) (lines : List Text) (record : Record) :
    record ∈ recordsFrom line lines ↔
      ∃ index text, lines[index]? = some text ∧
        readLine text (line + (index : Nat)) = some record := by
  induction lines generalizing line with
  | nil => simp [recordsFrom]
  | cons text rest ih =>
      rw [recordsFrom, List.mem_append, Option.mem_toList, ih]
      have later (index : Nat) : line + 1 + (index : Int) = line + (index + 1 : Nat) := by
        push_cast
        omega
      constructor
      · rintro (here | ⟨index, other, among, found⟩)
        · exact ⟨0, text, rfl, by simpa using here⟩
        · exact ⟨index + 1, other, among, later index ▸ found⟩
      · rintro ⟨index, other, among, found⟩
        cases index with
        | zero =>
            cases among
            exact .inl (by simpa using found)
        | succ index => exact .inr ⟨index, other, among, (later index).symm ▸ found⟩

/-- A record stands on the line that it was read from. -/
theorem record_on_line_iff (text : Text) (index : Nat) (line : Text)
    (here : (physicalLines text)[index]? = some line) :
    (∃ record ∈ recordsOf text, record.line = 1 + (index : Int)) ↔ ¬ HoldsNothing line := by
  rw [← readLine_isSome_iff line (1 + index), Option.isSome_iff_exists]
  constructor
  · rintro ⟨record, member, number⟩
    obtain ⟨other, part, among, found⟩ := (mem_recordsFrom_iff _ _ _).mp member
    have same : other = index := by
      have placed := (readLine_readAs _ _ _ found).line_eq
      omega
    subst same
    rw [among] at here
    cases here
    exact ⟨record, found⟩
  · rintro ⟨record, found⟩
    exact ⟨record, (mem_recordsFrom_iff _ _ _).mpr ⟨index, line, here, found⟩,
      (readLine_readAs _ _ _ found).line_eq⟩

/-- The analysis of two texts with a line feed between them is that of the first and, moved down by
its lines, that of the second. In every text the records stand on lines of their own in growing
order, and a line has a record exactly when it is more than blanks and a comment. -/
theorem analysis_of_concatenation (first second text : Text) :
    (∃ before after, analyze first = .ok before ∧ analyze second = .ok after ∧
      analyze (first ++ '\n' :: second) =
        .ok (before ++ after.map (·.moved (1 + first.count '\n')))) ∧
    ∃ records, analyze text = .ok records ∧
      (records.Pairwise fun one other => one.line < other.line) ∧
      (∀ record ∈ records, 1 ≤ record.line ∧ record.line ≤ 1 + text.count '\n') ∧
      (physicalLines text).length = 1 + text.count '\n' ∧
      ∀ (index : Nat) line, (physicalLines text)[index]? = some line →
        ((∃ record ∈ records, record.line = 1 + (index : Int)) ↔ ¬ HoldsNothing line) := by
  constructor
  · refine ⟨_, _, analyze_eq_records first, analyze_eq_records second, ?_⟩
    rw [analyze_eq_records, recordsOf_append]
  · refine ⟨_, analyze_eq_records text, recordsFrom_increasing 1 _, ?_, physicalLines_length text,
      record_on_line_iff text⟩
    intro record member
    obtain ⟨index, part, among, found⟩ := (mem_recordsFrom_iff _ _ _).mp member
    have inside := (List.getElem?_eq_some_iff.mp among).1
    rw [physicalLines_length] at inside
    rw [(readLine_readAs _ _ _ found).line_eq]
    constructor <;> omega

/-- The first text ends in an open literal, a dangling escape and a carriage return. -/
theorem analysis_of_concatenation_open :
    let first : Text := "; data\nx: .ascii \"a;\\\r"
    let second : Text := "\n\t # none\npush $1"
    let text : Text := first ++ '\n' :: second
    (∃ before after, analyze first = .ok before ∧ analyze second = .ok after ∧
      analyze text = .ok (before ++ after.map (·.moved 2))) ∧
    ∃ records, analyze text = .ok records ∧ (physicalLines text)[4]? = some "push $1".toList ∧
      ∃ record ∈ records, record.line = 5 := by
  intro first second text
  obtain ⟨joined, records, analyzed, _, _, _, held⟩ := analysis_of_concatenation first second text
  have last : (physicalLines text)[4]? = some "push $1".toList := by decide
  exact ⟨joined, records, analyzed, last, (held 4 _ last).mpr (by decide)⟩

end AttAssembly
