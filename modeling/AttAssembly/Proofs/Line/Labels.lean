import AttAssembly.Proofs.Lexeme.Heads
import AttAssembly.Proofs.Line.Totality

/-!
A label put in front of a line. The scan for comments passes over it, and taken off it leaves the line
as it would have been read without it. So the label is all that it adds to the record of the line; a
line that had no record gets one of the label alone.
-/

namespace AttAssembly

/-- A label as it is written in front of a line: a name, a colon, and blanks if there are any. -/
structure LineLabel where
  name : Text
  gap : Text
  named : isName name = true
  blank : ∀ c ∈ gap, isBlank c = true
  oneLine : OnOneLine gap

namespace LineLabel

variable (label : LineLabel) (text : Text)

def before : Text := label.name ++ ':' :: (label.gap ++ text)

theorem before_oneLine (whole : OnOneLine text) : OnOneLine (label.before text) := by
  intro feed
  rcases List.mem_append.mp feed with name | rest
  · exact absurd (isName_parts label.name label.named '\n' name) (by decide)
  · rcases List.mem_cons.mp rest with colon | after
    · cases colon
    · exact (List.mem_append.mp after).elim label.oneLine whole

theorem stripComment_before : stripComment (label.before text) =
    label.name ++ ':' :: trimRight (label.gap ++ beforeComment .outside text) := by
  have quiet : SelfContained (label.name ++ ':' :: label.gap) := by
    apply selfContained_of_quiet
    intro c member
    rcases List.mem_append.mp member with name | rest
    · exact namePart_quiet c (isName_parts label.name label.named c name)
    · rcases List.mem_cons.mp rest with rfl | blank
      · rfl
      · exact blank_quiet c (label.blank c blank)
  have line : label.before text = (label.name ++ ':' :: label.gap) ++ text := by simp [before]
  have front : trimLeft (label.name ++ ':' :: (label.gap ++ beforeComment .outside text)) =
      label.name ++ ':' :: (label.gap ++ beforeComment .outside text) := by
    apply trimLeft_eq_self
    obtain ⟨first, rest, same, start, _⟩ := (isName_iff label.name).mp label.named
    rw [same]
    rintro c ⟨⟩
    exact namePart_not_blank first (isNameStart_part first start)
  rw [stripComment, line, quiet.beforeComment_append, trim, List.append_assoc, List.cons_append,
    front, trimRight_after_solid _ _ ':' rfl]

theorem splitLabel_before (whole : OnOneLine text) :
    splitLabel (stripComment (label.before text)) = (some label.name, stripComment text) := by
  have oneLine : '\n' ∉ trimRight (label.gap ++ beforeComment .outside text) := by
    intro feed
    rcases List.mem_append.mp (trimRight_subset _ feed) with gap | line
    · exact label.oneLine gap
    · exact whole (beforeComment_subset _ _ line)
  rw [stripComment_before, splitLabel_colon label.name _ label.named oneLine, trim_trimRight,
    trim_after_blanks _ _ label.blank, ← stripComment]

/-- Whatever the line holds, a label of its own among it, is a statement after the label. -/
theorem readLine_before (line : Int) (whole : OnOneLine text) :
    readLine (label.before text) line = some (match stripComment text with
      | [] => labelRecord line label.name
      | core => statementRecord line (some label.name) core) := by
  have separated := label.splitLabel_before text whole
  refine readLine_iff.mpr ?_
  cases core : stripComment text with
  | nil => exact .label (core ▸ separated)
  | cons c rest => exact .statement (core ▸ separated) (List.cons_ne_nil c rest)

/-- The record of the line with the label: the record that the line has without it, if it has one. -/
def on (line : Int) : Option Record → Record
  | none => labelRecord line label.name
  | some record => { record with label := some label.name }

theorem statementRecord_labelled (line : Int) (statement : Text) :
    statementRecord line (some label.name) statement =
      { statementRecord line none statement with label := some label.name } := by
  simp only [statementRecord]
  split
  · rfl
  · split
    · rw [repeatedRecord, repeatedRecord]
      split <;> rfl
    · rfl

theorem readLine_labelled_line (line : Int) (whole : OnOneLine text)
    (plain : ¬ BeginsWithLabel (stripComment text)) :
    readLine (label.before text) line = some (label.on line (readLine text line)) := by
  rw [readLine_before label text line whole, readLine]
  cases core : stripComment text with
  | nil => rfl
  | cons c rest =>
      rw [core] at plain
      dsimp only
      rw [splitLabel_plain _ plain, statementRecord_labelled]
      rfl

end LineLabel

end AttAssembly
