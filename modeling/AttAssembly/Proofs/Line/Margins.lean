import AttAssembly.Proofs.Lexeme.Scanning
import AttAssembly.Line.Reader

/-!
Blanks around a line, and lines without a record. Blanks do not begin a comment, so what is put at the
end of a line is either inside its comment or trimmed away, whatever literal or escape the line has
left open, and what is put in front leaves the scan where it starts. A line holds nothing when its
first code point that is not blank begins a comment, or when there is none; these are the lines that
have no record.
-/

namespace AttAssembly

theorem blank_unmarked (c : Char) (blank : isBlank c = true) : isCommentMark c = false := by
  have quiet := blank_quiet c blank
  simp only [isQuiet, Bool.and_eq_true, Bool.not_eq_true'] at quiet
  exact quiet.2

section Comments

variable {rest : Text} (unmarked : ∀ c ∈ rest, isCommentMark c = false)

include unmarked

theorem beforeComment_unmarked (state : Quoting) : beforeComment state rest = rest := by
  induction rest generalizing state with
  | nil => rfl
  | cons c others ih =>
      have later := ih (fun d member => unmarked d (List.mem_cons_of_mem c member)) (state.next c)
      rw [beforeComment, unmarked c List.mem_cons_self, later]
      rfl

-- A line that already has a comment takes all that follows into it.
theorem beforeComment_append_unmarked (state : Quoting) (line : Text) :
    beforeComment state (line ++ rest) = beforeComment state line ∨
      beforeComment state (line ++ rest) = beforeComment state line ++ rest := by
  induction line generalizing state with
  | nil => exact .inr (beforeComment_unmarked unmarked state)
  | cons c tail ih =>
      rw [List.cons_append, beforeComment, beforeComment]
      split
      · exact .inl rfl
      · rcases ih (state.next c) with commented | open_
        · exact .inl (by rw [commented])
        · exact .inr (by rw [open_, List.cons_append])

end Comments

theorem stripComment_append_blanks (line blanks : Text) (blank : ∀ c ∈ blanks, isBlank c = true) :
    stripComment (line ++ blanks) = stripComment line := by
  have unmarked : ∀ c ∈ blanks, isCommentMark c = false :=
    fun c member => blank_unmarked c (blank c member)
  rw [stripComment, stripComment]
  rcases beforeComment_append_unmarked unmarked .outside line with commented | open_
  · rw [commented]
  · rw [open_, trim_append_blanks _ _ blank]

theorem readLine_append_blanks (text blanks : Text) (line : Int)
    (blank : ∀ c ∈ blanks, isBlank c = true) :
    readLine (text ++ blanks) line = readLine text line := by
  rw [readLine, readLine, stripComment_append_blanks text blanks blank]

/-- Blank up to the end or to a comment. -/
def HoldsNothing (line : Text) : Prop := (trimLeft line).head?.all isCommentMark = true

instance (line : Text) : Decidable (HoldsNothing line) := inferInstanceAs (Decidable (_ = true))

theorem stripComment_after_blank (c : Char) (rest : Text) (blank : isBlank c = true) :
    stripComment (c :: rest) = stripComment rest := by
  have notQuote : c ≠ '"' := blank_ne blank rfl
  have stays : Quoting.next .outside c = .outside := by simp [Quoting.next, notQuote]
  rw [stripComment, beforeComment, blank_unmarked c blank, stays]
  exact trim_after_blank c _ blank

theorem stripComment_after_blanks (margin text : Text) (blank : ∀ c ∈ margin, isBlank c = true) :
    stripComment (margin ++ text) = stripComment text := by
  induction margin with
  | nil => rfl
  | cons c rest ih =>
      rw [List.cons_append, stripComment_after_blank c _ (blank c List.mem_cons_self)]
      exact ih fun d member => blank d (List.mem_cons_of_mem c member)

/-- What is put around a line makes no difference as long as it is blank. -/
theorem readLine_margins (before text after : Text) (line : Int)
    (front : ∀ c ∈ before, isBlank c = true) (back : ∀ c ∈ after, isBlank c = true) :
    readLine (before ++ text ++ after) line = readLine text line := by
  rw [readLine_append_blanks _ after line back, readLine, readLine,
    stripComment_after_blanks before text front]

theorem stripComment_eq_nil_iff (line : Text) : stripComment line = [] ↔ HoldsNothing line := by
  induction line with
  | nil => simp [stripComment, beforeComment, trim_eq_nil_iff, HoldsNothing, trimLeft]
  | cons c rest ih =>
      by_cases blank : isBlank c = true
      · have same : trimLeft (c :: rest) = trimLeft rest := List.dropWhile_cons_of_pos blank
        rw [stripComment_after_blank c rest blank, ih, HoldsNothing, HoldsNothing, same]
      · have front : trimLeft (c :: rest) = c :: rest :=
          trimLeft_eq_self _ (by simpa using blank)
        rw [stripComment, trim_eq_nil_iff, HoldsNothing, front, beforeComment]
        by_cases marked : isCommentMark c = true
        · simp [marked]
        · simp [marked, blank]

theorem readLine_isSome_iff (text : Text) (line : Int) :
    (readLine text line).isSome = true ↔ ¬ HoldsNothing text := by
  rw [← stripComment_eq_nil_iff, readLine]
  cases stripComment text with
  | nil => simp
  | cons c core =>
      dsimp only
      split <;> simp

end AttAssembly
