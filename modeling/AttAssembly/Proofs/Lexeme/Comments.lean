import AttAssembly.Proofs.Lexeme.Scanning

/-!
Where the comment of a line begins. A position is outside the string literals of the line when nothing
but whole literals and code points other than quotes stand in front of it, which is what the scan over
the quoting states decides. A line is cut at the first comment mark outside its literals, so what is
left is the longest beginning without such a mark. The blanks in front are outside the literals, and what
is cut off at the end has no bearing on what stands before it; trimming therefore brings no mark out of a
literal, even out of one that is never closed.
-/

namespace AttAssembly

/-- No string literal is open after the text. -/
inductive OutsideLiterals : Text → Prop
  | nil : OutsideLiterals []
  | ordinary (c : Char) (rest : Text) (notQuote : c ≠ '"') (later : OutsideLiterals rest) :
      OutsideLiterals (c :: rest)
  | literal (content rest : Text) (escaped : WellEscaped content) (later : OutsideLiterals rest) :
      OutsideLiterals ('"' :: (content ++ '"' :: rest))

/-- The text closes what the state leaves open, and no string literal is open after it. -/
def Quoting.ClosedBy : Quoting → Text → Prop
  | .outside, text => OutsideLiterals text
  | .inside, text =>
      ∃ content rest, text = content ++ '"' :: rest ∧ WellEscaped content ∧ OutsideLiterals rest
  | .escaped, text =>
      ∃ c content rest, text = c :: (content ++ '"' :: rest) ∧ WellEscaped content ∧
        OutsideLiterals rest

/-- Every comment mark of the line is inside a string literal. -/
def Uncommented (line : Text) : Prop :=
  ∀ front mark rest, line = front ++ mark :: rest → mark ∈ [';', '#'] → ¬ OutsideLiterals front

section Literals

theorem wellEscaped_after {content : Text} (escaped : WellEscaped content) :
    Quoting.after .inside content = .inside := by
  have passes := passes_wellEscaped 0 content escaped
  rw [← Scan.after_quoting ⟨.inside, 0⟩ content, passes.after]

theorem closedBy_of_after (state : Quoting) (text : Text) (closed : state.after text = .outside) :
    state.ClosedBy text := by
  induction text generalizing state with
  | nil =>
      cases state with
      | outside => exact .nil
      | inside | escaped => cases closed
  | cons c rest ih =>
      have later := ih (state.next c) closed
      cases state with
      | outside =>
          by_cases quote : c = '"'
          · subst quote
            obtain ⟨content, tail, rfl, escaped, outside⟩ := later
            exact .literal content tail escaped outside
          · rw [Quoting.next, if_neg quote] at later
            exact .ordinary c rest quote later
      | inside =>
          by_cases escape : c = '\\'
          · subst escape
            obtain ⟨d, content, tail, rfl, escaped, outside⟩ := later
            exact ⟨'\\' :: d :: content, tail, rfl, .escape d content escaped, outside⟩
          · rw [Quoting.next, if_neg escape] at later
            by_cases quote : c = '"'
            · rw [if_pos quote] at later
              exact ⟨[], rest, by rw [quote]; rfl, .nil, later⟩
            · rw [if_neg quote] at later
              obtain ⟨content, tail, rfl, escaped, outside⟩ := later
              exact ⟨c :: content, tail, rfl, .ordinary c content quote escape escaped, outside⟩
      | escaped =>
          obtain ⟨content, tail, rfl, escaped, outside⟩ := later
          exact ⟨c, content, tail, rfl, escaped, outside⟩

theorem outsideLiterals_iff (text : Text) :
    OutsideLiterals text ↔ Quoting.after .outside text = .outside := by
  constructor
  · intro outside
    induction outside with
    | nil => rfl
    | ordinary c rest notQuote _ ih =>
        have stays : Quoting.next .outside c = .outside := by simp [Quoting.next, notQuote]
        exact (congrArg (Quoting.after · rest) stays).trans ih
    | literal content rest escaped _ ih =>
        calc
          Quoting.after .outside ('"' :: (content ++ '"' :: rest))
            = Quoting.after (Quoting.after .inside content) ('"' :: rest) := List.foldl_append
          _ = Quoting.after .inside ('"' :: rest) := by rw [wellEscaped_after escaped]
          _ = .outside := ih
  · exact closedBy_of_after .outside text

theorem OutsideLiterals.after_blanks {blanks rest : Text} (blank : ∀ c ∈ blanks, isBlank c = true)
    (outside : OutsideLiterals rest) : OutsideLiterals (blanks ++ rest) := by
  induction blanks with
  | nil => exact outside
  | cons c others ih =>
      apply OutsideLiterals.ordinary
      · exact blank_ne (blank c List.mem_cons_self) rfl
      · exact ih fun d member => blank d (List.mem_cons_of_mem c member)

end Literals

section Cut

theorem isCommentMark_iff (c : Char) : isCommentMark c = true ↔ c ∈ [';', '#'] := by
  simp [isCommentMark]

theorem beforeComment_self_iff (state : Quoting) (text : Text) :
    beforeComment state text = text ↔
      ∀ front mark rest, text = front ++ mark :: rest → isCommentMark mark = true →
        state.after front ≠ .outside := by
  induction text generalizing state with
  | nil => simp [beforeComment]
  | cons c tail ih =>
      rw [forall_position_cons]
      by_cases here : isCommentMark c = true ∧ state = .outside
      · rw [beforeComment, if_pos (by simp [here])]
        refine iff_of_false (List.cons_ne_nil c tail).symm fun unmarked => ?_
        exact unmarked.1 here.1 here.2
      · rw [beforeComment, if_neg (by simpa using here), List.cons_inj_right, ih]
        exact (and_iff_right (not_and.mp here)).symm

theorem uncommented_iff (line : Text) : Uncommented line ↔ beforeComment .outside line = line := by
  simp only [beforeComment_self_iff, Uncommented, outsideLiterals_iff, isCommentMark_iff, ne_eq]

/-- The scan stops at a comment mark outside the literals, if it does not reach the end. -/
theorem beforeComment_stops (state : Quoting) (text : Text) :
    beforeComment state text = text ∨
      ∃ mark rest, text = beforeComment state text ++ mark :: rest ∧ isCommentMark mark = true ∧
        state.after (beforeComment state text) = .outside := by
  induction text generalizing state with
  | nil => exact .inl rfl
  | cons c tail ih =>
      by_cases here : isCommentMark c = true ∧ state = .outside
      · rw [beforeComment, if_pos (by simp [here])]
        exact .inr ⟨c, tail, rfl, here⟩
      · rw [beforeComment, if_neg (by simpa using here)]
        rcases ih (state.next c) with whole | ⟨mark, rest, same, marked, outside⟩
        · exact .inl (congrArg (c :: ·) whole)
        · exact .inr ⟨mark, rest, congrArg (c :: ·) same, marked, outside⟩

theorem beforeComment_twice (state : Quoting) (text : Text) :
    beforeComment state (beforeComment state text) = beforeComment state text := by
  induction text generalizing state with
  | nil => rfl
  | cons c tail ih =>
      rw [beforeComment]
      split
      · rfl
      · next ordinary => rw [beforeComment, if_neg ordinary, ih]

variable {line : Text}

theorem Uncommented.of_trim (uncommented : Uncommented line) : Uncommented (trim line) := by
  obtain ⟨before, after, whole, blank, _⟩ := trim_within line
  intro front mark rest same marked outside
  refine uncommented (before ++ front) mark (rest ++ after) ?_ marked (outside.after_blanks blank)
  rw [whole, same]
  simp

/-- The front is all of the line, or ends at a comment mark outside the literals; no longer beginning of
    the line is without such a mark. -/
structure CutAtComment (line front : Text) : Prop where
  cut : front = line ∨ ∃ mark rest, line = front ++ mark :: rest ∧ mark ∈ [';', '#'] ∧
    OutsideLiterals front
  uncommented : Uncommented front
  longest : ∀ other, other <+: line → Uncommented other → other <+: front

theorem beforeComment_cut (line : Text) : CutAtComment line (beforeComment .outside line) where
  cut := by
    simp only [outsideLiterals_iff, ← isCommentMark_iff]
    exact beforeComment_stops .outside line
  uncommented := (uncommented_iff _).mpr (beforeComment_twice .outside line)
  longest := by
    rintro other ⟨rest, rfl⟩ uncommented
    rw [beforeComment_append ((uncommented_iff other).mp uncommented)]
    exact List.prefix_append _ _

end Cut

/-- A comment is cut off at the first mark outside the string literals and nowhere else, and the blanks
around what is left with it. No comment begins in the result, so nothing is cut off from it again. -/
theorem comment_cut_exactly (line : Text) :
    (∃ front, CutAtComment line front ∧ stripComment line = trim front) ∧
      Uncommented (stripComment line) ∧ stripComment (stripComment line) = stripComment line := by
  have cut := beforeComment_cut line
  have uncommented : Uncommented (stripComment line) := cut.uncommented.of_trim
  refine ⟨⟨_, cut, rfl⟩, uncommented, ?_⟩
  exact stripComment_self ((uncommented_iff _).mp uncommented) (trimmed_trim _)

-- The literal is never closed and ends in a backslash, and the blank that this escapes is trimmed away.
example : stripComment " \"a;b\\ " = "\"a;b\\".toList := by decide

end AttAssembly
