import AttAssembly.Proofs.Analysis.Lines

/-!
Comments put at the ends of lines. The scan for a comment goes through the line first, and a line that
leaves no literal open has it where a comment mark counts. If the line has a comment already, all that
is added is inside that one; otherwise the scan stops at the mark with the line as it was.
-/

namespace AttAssembly

theorem beforeComment_commented (state : Quoting) (line comment : Text) (mark : Char)
    (marked : isCommentMark mark = true) (closed : state.after line = .outside) :
    beforeComment state (line ++ mark :: comment) = beforeComment state line := by
  induction line generalizing state with
  | nil =>
      have outside : state = .outside := closed
      simp [beforeComment, marked, outside]
  | cons c rest ih =>
      have later := ih (state.next c) closed
      rw [List.cons_append, beforeComment, beforeComment, later]

theorem readLine_commented (text comment : Text) (mark : Char) (line : Int)
    (marked : isCommentMark mark = true) (closed : Quoting.outside.after text = .outside) :
    readLine (text ++ mark :: comment) line = readLine text line := by
  have stripped : stripComment (text ++ mark :: comment) = stripComment text := by
    rw [stripComment, stripComment, beforeComment_commented .outside text comment mark marked closed]
  rw [readLine, readLine, stripped]

/-- The line leaves no literal open and has a comment put after it. -/
def Commented (line commented : Text) : Prop :=
  Quoting.outside.after line = .outside ∧
    ∃ mark comment, isCommentMark mark = true ∧ commented = line ++ mark :: comment

/-- A line that leaves no literal open is read in the same way with a comment put after it, and a text
cannot be told from one that has comments put after any of these lines. -/
theorem comments_immaterial :
    (∀ (line comment : Text) (mark : Char) (number : Int), mark ∈ [';', '#'] →
      Quoting.outside.after line = .outside →
        analyzeLine (line ++ mark :: comment) number = analyzeLine line number) ∧
    ∀ text commented, LinesEdited Commented text commented → Interchangeable text commented := by
  constructor
  · intro line comment mark number among closed
    have marked : isCommentMark mark = true := by simpa [isCommentMark] using among
    rw [analyzeLine, analyzeLine, readLine_commented line comment mark number marked closed]
  · intro text commented edited
    apply interchangeable_of_records
    apply recordsOf_linesEdited edited
    rintro one other ⟨closed, mark, comment, marked, rfl⟩ line
    exact readLine_commented one comment mark line marked closed

/-- The literal holds comment marks and an escaped quote, and the comment opens another literal. -/
theorem comments_immaterial_literal :
    let line : Text := "x: .ascii \";\\\"#\" \\"
    let comment : Text := " \"a"
    Quoting.outside.after line = .outside ∧
      analyzeLine (line ++ '#' :: comment) 7 = analyzeLine line 7 ∧
      Interchangeable (line ++ ['\r', '\n']) (line ++ '#' :: comment ++ ['\r', '\n']) := by
  intro line comment
  have closed : Quoting.outside.after line = .outside := by decide
  have edited : LinesEdited Commented (line ++ ['\r', '\n'])
      (line ++ '#' :: comment ++ ['\r', '\n']) :=
    .single (.line [] line (line ++ '#' :: comment) _ (.inl rfl) (.inr ⟨[], .inr rfl⟩) (by decide)
      (by decide) ⟨closed, '#', comment, rfl, rfl⟩)
  exact ⟨closed, comments_immaterial.1 line comment '#' 7 (by decide) closed,
    comments_immaterial.2 _ _ edited⟩

end AttAssembly
