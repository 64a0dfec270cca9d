import AttAssembly.Proofs.Lexeme.Numerals
import AttAssembly.Proofs.Lexeme.Parentheses
import AttAssembly.Proofs.Operand.Forms

/-!
String literals as operands of directives. By the quoting rules that comments and commas go by, one
whole literal is a text between two quotes in which every quote and every backslash belongs to an
escape. The reader of directives looks at the first and the last code point only. It finds the content
of every whole literal, but it also takes a text for a string that closes its literal too early or not
at all.
-/

namespace AttAssembly

/-- One literal by the quoting rules: open from its first code point on, and closed by the last. -/
structure IsLiteral (text : Text) : Prop where
  opens : text.head? = some '"'
  within : ∀ front, front <+: text → front ≠ [] → front ≠ text →
    Quoting.after .outside front ≠ .outside
  closes : Quoting.after .outside text = .outside

section Inside

/-- The literal that is open before the text is not closed in it. -/
def StaysOpen (state : Quoting) (text : Text) : Prop :=
  ∀ front, front <+: text → state.after front ≠ .outside

theorem staysOpen_cons (state : Quoting) (c : Char) (rest : Text) :
    StaysOpen state (c :: rest) ↔ state ≠ .outside ∧ StaysOpen (state.next c) rest :=
  forall_prefix_cons c rest

theorem next_outside_iff {state : Quoting} (opened : state ≠ .outside) (c : Char) :
    state.next c = .outside ↔ state = .inside ∧ c = '"' := by
  cases state with
  | outside => exact absurd rfl opened
  | inside =>
      simp only [Quoting.next]
      split
      · next escape => simp [escape]
      · split <;> simp [*]
  | escaped => simp [Quoting.next]

theorem wellEscaped_stays {content : Text} (escaped : WellEscaped content) :
    StaysOpen .inside content ∧ Quoting.after .inside content = .inside := by
  induction escaped with
  | nil => exact ⟨by simp [StaysOpen, Quoting.after], rfl⟩
  | ordinary c rest notQuote notEscape _ ih =>
      have stays : Quoting.next .inside c = .inside := by simp [Quoting.next, notQuote, notEscape]
      refine ⟨(staysOpen_cons _ _ _).mpr ⟨by decide, stays.symm ▸ ih.1⟩, ?_⟩
      exact (congrArg (Quoting.after · rest) stays).trans ih.2
  | escape c rest _ ih =>
      refine ⟨(staysOpen_cons _ _ _).mpr ⟨by decide, ?_⟩, ih.2⟩
      exact (staysOpen_cons _ _ _).mpr ⟨by decide, ih.1⟩

-- A backslash leaves one code point to skip, so the induction speaks of both states at once.
theorem stays_wellEscaped (content : Text) :
    (StaysOpen .inside content → Quoting.after .inside content = .inside → WellEscaped content) ∧
      (StaysOpen .escaped content → Quoting.after .escaped content = .inside →
        ∃ c rest, content = c :: rest ∧ WellEscaped rest) := by
  induction content with
  | nil => exact ⟨fun _ _ => .nil, fun _ ended => by cases ended⟩
  | cons c rest ih =>
      constructor
      · intro stays ended
        have later := ((staysOpen_cons _ _ _).mp stays).2
        by_cases escape : c = '\\'
        · subst escape
          obtain ⟨d, others, same, escaped⟩ := ih.2 later ended
          exact same ▸ .escape d others escaped
        · by_cases quote : c = '"'
          · subst quote
            exact absurd rfl (later [] List.nil_prefix)
          · have same : Quoting.next .inside c = .inside := by simp [Quoting.next, escape, quote]
            rw [same] at later
            refine .ordinary c rest quote escape (ih.1 later ?_)
            exact (congrArg (Quoting.after · rest) same).symm.trans ended
      · intro stays ended
        exact ⟨c, rest, rfl, ih.1 ((staysOpen_cons _ _ _).mp stays).2 ended⟩

theorem wellEscaped_iff (content : Text) :
    WellEscaped content ↔
      StaysOpen .inside content ∧ Quoting.after .inside content = .inside :=
  ⟨wellEscaped_stays, fun ⟨stays, ended⟩ => (stays_wellEscaped content).1 stays ended⟩

end Inside

/-- A whole literal is a content without loose quotes and backslashes between two quotes. -/
theorem isLiteral_iff (text : Text) :
    IsLiteral text ↔ ∃ content, text = '"' :: content ++ ['"'] ∧ WellEscaped content := by
  have last (content : Text) (c : Char) : Quoting.after .outside ('"' :: content ++ [c]) =
      (Quoting.after .inside content).next c := List.foldl_concat ..
  constructor
  · intro literal
    obtain ⟨rest, whole⟩ := List.head?_eq_some_iff.mp literal.opens
    subst whole
    rcases List.eq_nil_or_concat' rest with rfl | ⟨content, c, rfl⟩
    · cases literal.closes
    · have stays : StaysOpen .inside content := by
        intro front inside
        refine literal.within ('"' :: front) ?_ (List.cons_ne_nil _ _) ?_
        · exact (List.prefix_cons_inj _).mpr (inside.trans (List.prefix_append _ _))
        · intro same
          have shorter := inside.length_le
          have longer := congrArg List.length (List.cons.inj same).2
          simp at longer
          omega
      have closes := literal.closes
      rw [← List.cons_append, last] at closes
      obtain ⟨ended, quote⟩ :=
        (next_outside_iff (stays content List.prefix_rfl) c).mp closes
      refine ⟨content, ?_, (wellEscaped_iff content).mpr ⟨stays, ended⟩⟩
      rw [quote, List.cons_append]
  · rintro ⟨content, rfl, escaped⟩
    obtain ⟨stays, ended⟩ := wellEscaped_stays escaped
    refine ⟨rfl, fun front inside given proper => ?_, ?_⟩
    · rcases List.prefix_concat_iff.mp inside with whole | within
      · exact absurd whole proper
      · rcases List.prefix_cons_iff.mp within with rfl | ⟨tail, rfl, deeper⟩
        · exact absurd rfl given
        · exact stays tail deeper
    · rw [last, ended]
      rfl

namespace Operand

/-- The token is read as a string with this content. -/
def ReadsString (token content : Text) : Prop :=
  ∃ operand, readDirective token = .ok operand ∧ operand.form = .immediate (.string content)

theorem readsString_iff (token content : Text) :
    ReadsString token content ↔ trim token = '"' :: content ++ ['"'] := by
  rw [← stringContent_iff, ReadsString]
  simp only [readDirective]
  cases stringContent? (trim token) with
  | some found => simp
  | none =>
      refine iff_of_false ?_ (by simp)
      rintro ⟨operand, read, form⟩
      dsimp only at read
      split at read
      · cases read
      · cases read
        cases form
      · split at read
        · cases read
          cases form
        · cases read

theorem term_quote (rest : Text) : isTerm ('"' :: rest) = false := by
  rw [isTerm.eq_def]
  split
  · next same => cases same
  · next same => cases same
  · next same => cases same
  · rfl

theorem isExpression_quote (rest : Text) : isExpression ('"' :: rest) = false := by
  rw [isExpression_terms, splitParts_ordinary isSign '"' rest rfl, List.all_cons]
  have first : trim ('"' :: (splitWhere isSign rest).1) =
      '"' :: trimRight (splitWhere isSign rest).1 := trimRight_after_solid [] _ '"' rfl
  rw [first, term_quote, Bool.false_and]

theorem unclosed_refused {token : Text} (opened : (trim token).head? = some '"')
    (unclosed : ∀ content, trim token ≠ '"' :: content ++ ['"']) :
    readDirective token = .error (.invalidDirectiveOperand (trim token)) := by
  obtain ⟨rest, whole⟩ := List.head?_eq_some_iff.mp opened
  have noString : stringContent? (trim token) = none := by
    refine Option.eq_none_iff_forall_ne_some.mpr fun content found => ?_
    exact unclosed content ((stringContent_iff _ _).mp found)
  have noNumber : literal? (trim token) = none := whole ▸ literal_foreign (by decide) rfl
  rw [readDirective_expression noString noNumber, whole, isExpression_quote]
  rfl

/-- Strings are the tokens between two quotes, and the string of a token is one whole literal exactly
when its content has no loose quote and no loose backslash. All whole literals are strings; any other
token that begins with a quote is refused unless it ends with a second one. -/
theorem strings_between_quotes (token : Text) :
    (∀ content, ReadsString token content ↔ trim token = '"' :: content ++ ['"']) ∧
    (∀ content, ReadsString token content → (IsLiteral (trim token) ↔ WellEscaped content)) ∧
    (IsLiteral (trim token) → ∃ content, WellEscaped content ∧ ReadsString token content) ∧
    ((trim token).head? = some '"' → (∃ content, ReadsString token content) ∨
      readDirective token = .error (.invalidDirectiveOperand (trim token))) := by
  refine ⟨readsString_iff token, fun content read => ?_, fun literal => ?_, fun opened => ?_⟩
  · have whole := (readsString_iff token content).mp read
    rw [isLiteral_iff]
    constructor
    · rintro ⟨other, same, escaped⟩
      rw [whole, List.append_cancel_right_eq, List.cons_inj_right] at same
      exact same ▸ escaped
    · exact fun escaped => ⟨content, whole, escaped⟩
  · obtain ⟨content, whole, escaped⟩ := (isLiteral_iff _).mp literal
    exact ⟨content, escaped, (readsString_iff token content).mpr whole⟩
  · by_cases closed : ∃ content, trim token = '"' :: content ++ ['"']
    · obtain ⟨content, whole⟩ := closed
      exact .inl ⟨content, (readsString_iff token content).mpr whole⟩
    · exact .inr (unclosed_refused opened (not_exists.mp closed))

/-- Two literals without a comma between them are read as one string, and so is a literal that its last
quote does not close. -/
theorem loose_quotes_accepted :
    (ReadsString "\"a\" \"b\"" "a\" \"b" ∧ ¬ IsLiteral (trim "\"a\" \"b\"")) ∧
      ReadsString "\"a\\\"" "a\\" ∧ ¬ IsLiteral (trim "\"a\\\"") := by
  refine ⟨⟨⟨_, rfl, rfl⟩, fun literal => ?_⟩, ⟨_, rfl, rfl⟩, fun literal => ?_⟩
  · exact literal.within "\"a\"" ⟨" \"b\"", rfl⟩ (by decide) (by decide) rfl
  · cases literal.closes

end Operand

end AttAssembly
