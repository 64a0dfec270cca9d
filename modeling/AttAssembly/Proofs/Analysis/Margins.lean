import AttAssembly.Proofs.Analysis.Lines

/-!
The margins of lines. Blanks around a line are trimmed away with the blanks it has, be they inside a
comment, after a literal that was left open or after a backslash. A carriage return at the end of a
line is such a blank, so a text can as well be written with both code points at every line end.
-/

namespace AttAssembly

/-- The line with blanks before and after it. -/
def Widened (line wide : Text) : Prop :=
  ∃ before after, (∀ c ∈ before, isBlank c = true) ∧ (∀ c ∈ after, isBlank c = true) ∧
    wide = before ++ line ++ after

theorem readLine_widened (text wide : Text) (widened : Widened text wide) (line : Int) :
    readLine wide line = readLine text line := by
  rcases widened with ⟨before, after, front, back, rfl⟩
  exact readLine_margins before text after line front back

/-- The text with a carriage return before every line feed. -/
def withReturns (text : Text) : Text :=
  text.flatMap fun c => if c = '\n' then ['\r', '\n'] else [c]

section Returns

theorem withReturns_feed (rest : Text) :
    withReturns ('\n' :: rest) = '\r' :: '\n' :: withReturns rest := by
  simp [withReturns]

theorem withReturns_other (c : Char) (rest : Text) (feedless : c ≠ '\n') :
    withReturns (c :: rest) = c :: withReturns rest := by
  simp [withReturns, feedless]

-- What stands in front of the text is part of its first line.
theorem endAtFeeds_withReturns (front text : Text) :
    endAtFeeds (front ++ (splitWhere (· = '\n') (withReturns text)).1)
        (splitWhere (· = '\n') (withReturns text)).2 =
      (front ++ (splitWhere (· = '\n') text).1) :: (splitWhere (· = '\n') text).2 := by
  induction text generalizing front with
  | nil => rfl
  | cons c rest ih =>
      by_cases feed : c = '\n'
      · have ended (tail : Text) : splitWhere (· = '\n') ('\r' :: '\n' :: tail) =
            (['\r'], splitParts (· = '\n') tail) := rfl
        have fed (tail : Text) :
            splitWhere (· = '\n') ('\n' :: tail) = ([], splitParts (· = '\n') tail) := rfl
        have dropped : dropReturn (front ++ ['\r']) = front := by simp [dropReturn]
        have later : endAtFeeds _ _ = splitParts (· = '\n') rest := ih []
        rw [feed, withReturns_feed, ended, fed, List.append_nil]
        rw [splitParts, endAtFeeds, dropped]
        exact congrArg (front :: ·) later
      · have later := ih (front ++ [c])
        rw [withReturns_other c rest feed]
        simpa [splitWhere, feed] using later

theorem recordsOf_withReturns (text : Text) : recordsOf (withReturns text) = recordsOf text := by
  have lines : physicalLines (withReturns text) = splitParts (· = '\n') text :=
    endAtFeeds_withReturns [] text
  rw [recordsOf, lines, ← recordsOf_eq_parts]

end Returns

/-- A text can be told neither from one that has blanks put before and after any of its lines nor
from one that has carriage returns put before its line feeds. -/
theorem margins_immaterial (text wide : Text) (widened : LinesEdited Widened text wide) :
    Interchangeable text wide ∧ Interchangeable text (withReturns text) := by
  constructor
  · exact interchangeable_of_records (recordsOf_linesEdited widened readLine_widened)
  · exact interchangeable_of_records (recordsOf_withReturns text)

/-- Blanks go behind a backslash inside an open literal, and into a comment on a line that ends in
both code points. -/
theorem margins_immaterial_open :
    let data : Text := "x: .ascii \"a;\\"
    let code : Text := "push $1 # c"
    let text : Text := data ++ '\n' :: (code ++ ['\r', '\n'])
    let wide : Text := (' ' :: data ++ ['\t']) ++ '\n' ::
      (('\u3000' :: code ++ ['\u2028']) ++ ['\r', '\n'])
    LinesEdited Widened text wide ∧ Interchangeable text wide ∧
      Interchangeable text (withReturns text) := by
  intro data code text wide
  have widened (line : Text) {first last : Char} (front : isBlank first = true)
      (back : isBlank last = true) : Widened line (first :: line ++ [last]) :=
    ⟨[first], [last], List.forall_mem_singleton.mpr front, List.forall_mem_singleton.mpr back, rfl⟩
  have literal : LineEdited Widened text
      ((' ' :: data ++ ['\t']) ++ '\n' :: (code ++ ['\r', '\n'])) :=
    .line [] data (' ' :: data ++ ['\t']) _ (.inl rfl) (.inr ⟨_, .inl rfl⟩) (by decide) (by decide)
      (widened data rfl rfl)
  have comment : LineEdited Widened ((' ' :: data ++ ['\t'] ++ ['\n']) ++ code ++ ['\r', '\n'])
      ((' ' :: data ++ ['\t'] ++ ['\n']) ++ ('\u3000' :: code ++ ['\u2028']) ++ ['\r', '\n']) :=
    .line _ code ('\u3000' :: code ++ ['\u2028']) _ (.inr ⟨_, rfl⟩) (.inr ⟨[], .inr rfl⟩)
      (by decide) (by decide) (widened code rfl rfl)
  rw [List.append_assoc, List.append_assoc, List.append_assoc, List.append_assoc] at comment
  have both : LinesEdited Widened text wide := .tail (.single literal) comment
  exact ⟨both, margins_immaterial text wide both⟩

end AttAssembly
