import AttAssembly.Lexeme.Comment
import AttAssembly.Lexeme.Pieces
import AttAssembly.Proofs.Text.Trimming

/-!
Texts that stand whole between commas. Comments and commas are looked for by two scans over the same
quoting rules, and each scan goes through a concatenation part by part: what a part leaves open is
where the next one starts. `Passes` says that both scans get through a part without finding anything.
A part that they pass and that closes what it opens is self-contained; such parts, put together with
commas, hold no comment either. Quiet code points are self-contained, and so is a string literal with
anything in it, as long as its quotes and backslashes are escaped.
-/

namespace AttAssembly

/-- A fact about every position of a text, told from what stands in front of it and the code point
    there. -/
theorem forall_position_cons {holds : Text → Char → Prop} (c : Char) (tail : Text) :
    (∀ front mark rest, c :: tail = front ++ mark :: rest → holds front mark) ↔
      holds [] c ∧ ∀ front mark rest, tail = front ++ mark :: rest → holds (c :: front) mark := by
  constructor
  · intro each
    exact ⟨each [] c tail rfl, fun front mark rest same => each _ mark rest (congrArg (c :: ·) same)⟩
  · rintro ⟨first, later⟩ front mark rest same
    cases front with
    | nil => exact (List.cons.inj same).1 ▸ first
    | cons d others =>
        obtain ⟨rfl, behind⟩ := List.cons.inj same
        exact later others mark rest behind

theorem beforeComment_append {state : Quoting} {first : Text}
    (uncommented : beforeComment state first = first) (rest : Text) :
    beforeComment state (first ++ rest) = first ++ beforeComment (state.after first) rest := by
  induction first generalizing state with
  | nil => rfl
  | cons c tail ih =>
      rw [beforeComment] at uncommented
      split at uncommented
      · cases uncommented
      · next ordinary =>
          have later := ih (List.cons.inj uncommented).2
          rw [List.cons_append, beforeComment, if_neg ordinary, later]
          rfl

theorem splitAtCommas_cons {scan : Scan} {c : Char} (ordinary : scan.separates c = false)
    (rest : Text) :
    splitAtCommas scan (c :: rest) =
      (c :: (splitAtCommas (scan.next c) rest).1, (splitAtCommas (scan.next c) rest).2) := by
  rw [splitAtCommas, ordinary]
  rfl

theorem splitAtCommas_separator {scan : Scan} {c : Char} (comma : scan.separates c = true)
    (rest : Text) :
    splitAtCommas scan (c :: rest) =
      ([], (splitAtCommas (scan.next c) rest).1 :: (splitAtCommas (scan.next c) rest).2) := by
  rw [splitAtCommas, comma]
  rfl

theorem splitAtCommas_append {scan : Scan} {first : Text}
    (whole : splitAtCommas scan first = (first, [])) (rest : Text) :
    splitAtCommas scan (first ++ rest) =
      (first ++ (splitAtCommas (scan.after first) rest).1,
        (splitAtCommas (scan.after first) rest).2) := by
  induction first generalizing scan with
  | nil => rfl
  | cons c tail ih =>
      cases separating : scan.separates c with
      | true =>
          rw [splitAtCommas_separator separating] at whole
          cases whole
      | false =>
          rw [splitAtCommas_cons separating] at whole
          obtain ⟨first, others⟩ := Prod.ext_iff.mp whole
          have later := ih (Prod.ext (List.cons.inj first).2 others)
          rw [List.cons_append, splitAtCommas_cons separating, later]
          rfl

namespace Scan

theorem after_quoting (scan : Scan) (text : Text) :
    (scan.after text).quoting = scan.quoting.after text := by
  induction text generalizing scan with
  | nil => rfl
  | cons c rest ih => exact ih (scan.next c)

/-- No comment begins in the text and no comma of it separates. -/
structure Passes (scan : Scan) (text : Text) (next : Scan) : Prop where
  uncommented : beforeComment scan.quoting text = text
  whole : splitAtCommas scan text = (text, [])
  after : scan.after text = next

namespace Passes

variable {scan middle next : Scan} {first second : Text}

theorem nil (scan : Scan) : scan.Passes [] scan := ⟨rfl, rfl, rfl⟩

theorem cons (c : Char) (joined : scan.separates c = false)
    (unmarked : isCommentMark c = false ∨ scan.quoting ≠ .outside)
    (later : (scan.next c).Passes second next) : scan.Passes (c :: second) next where
  uncommented := by
    have quoting : (scan.next c).quoting = scan.quoting.next c := rfl
    have tail := later.uncommented
    rw [quoting] at tail
    rw [beforeComment, tail]
    rcases unmarked with plain | inside
    · simp [plain]
    · simp [inside]
  whole := by rw [splitAtCommas_cons joined, later.whole]
  after := later.after

theorem append (one : scan.Passes first middle) (other : middle.Passes second next) :
    scan.Passes (first ++ second) next where
  uncommented := by
    rw [beforeComment_append one.uncommented, ← after_quoting, one.after, other.uncommented]
  whole := by rw [splitAtCommas_append one.whole, one.after, other.whole]
  after := by
    rw [Scan.after, List.foldl_append]
    exact (congrArg (Scan.after · second) one.after).trans other.after

end Passes

end Scan

/-- A code point that, outside string literals, opens and closes nothing and is neither comma nor
    comment mark. -/
def isQuiet (c : Char) : Bool :=
  c ≠ '"' && c ≠ '(' && c ≠ ')' && c ≠ ',' && !isCommentMark c

theorem blank_quiet (c : Char) (blank : isBlank c = true) : isQuiet c = true := by
  have other (mark : Char) (visible : isBlank mark = false) : c ≠ mark := blank_ne blank visible
  simp [isQuiet, isCommentMark, other '"' rfl, other '(' rfl, other ')' rfl, other ',' rfl,
    other ';' rfl, other '#' rfl]

-- Between parentheses a comma is as good as any other code point.
theorem passes_quiet (depth : Nat) (text : Text)
    (quiet : ∀ c ∈ text, isQuiet c = true ∨ 0 < depth ∧ c = ',') :
    Scan.Passes ⟨.outside, depth⟩ text ⟨.outside, depth⟩ := by
  induction text with
  | nil => exact .nil _
  | cons c rest ih =>
      have later := ih fun other member => quiet other (List.mem_cons_of_mem c member)
      rcases quiet c List.mem_cons_self with ordinary | ⟨inside, comma⟩
      · simp only [isQuiet, Bool.and_eq_true, decide_eq_true_eq] at ordinary
        have stays : Scan.next ⟨.outside, depth⟩ c = ⟨.outside, depth⟩ := by
          simp [Scan.next, Quoting.next, ordinary]
        refine .cons c (by simp [Scan.separates, ordinary]) (.inl ?_) (stays.symm ▸ later)
        simpa using ordinary.2
      · subst c
        have deeper : (⟨.outside, depth⟩ : Scan) ≠ .start := by
          simp [Scan.start]
          omega
        exact .cons ',' (by simp [Scan.separates, deeper]) (.inl rfl) later

/-- The inside of a string literal: every quote and every backslash in it belongs to an escape. -/
inductive WellEscaped : Text → Prop
  | nil : WellEscaped []
  | ordinary (c : Char) (rest : Text) (notQuote : c ≠ '"') (notEscape : c ≠ '\\')
      (later : WellEscaped rest) : WellEscaped (c :: rest)
  | escape (c : Char) (rest : Text) (later : WellEscaped rest) :
      WellEscaped ('\\' :: c :: rest)

theorem passes_wellEscaped (depth : Nat) (content : Text) (escaped : WellEscaped content) :
    Scan.Passes ⟨.inside, depth⟩ content ⟨.inside, depth⟩ := by
  induction escaped with
  | nil => exact .nil _
  | ordinary c rest notQuote notEscape _ ih =>
      have stays : Scan.next ⟨.inside, depth⟩ c = ⟨.inside, depth⟩ := by
        simp [Scan.next, Quoting.next, notQuote, notEscape]
      exact .cons c (by simp [Scan.separates, Scan.start]) (.inr (by simp)) (stays.symm ▸ ih)
  | escape c rest _ ih =>
      -- The scan is back inside the literal after the escaped code point, whatever that is.
      refine .cons '\\' rfl (.inr (by simp)) (.cons c ?_ (.inr ?_) ih)
      · simp [Scan.separates, Scan.start, Scan.next, Quoting.next]
      · simp [Scan.next, Quoting.next]

theorem stripComment_self {line : Text} (uncommented : beforeComment .outside line = line)
    (trimmed : Trimmed line) : stripComment line = line := by
  rw [stripComment, uncommented, trim_eq_self trimmed]

/-- A text that leaves nothing open and in which neither a comment begins nor a comma separates. -/
def SelfContained (text : Text) : Prop := Scan.start.Passes text .start

namespace SelfContained

variable {text : Text} (contained : SelfContained text) (rest : Text)
include contained

theorem beforeComment_append :
    beforeComment .outside (text ++ rest) = text ++ beforeComment .outside rest := by
  have closed : Quoting.after .outside text = .outside := by
    have quoting := Scan.start.after_quoting text
    rw [contained.after] at quoting
    exact quoting.symm
  have scanned := AttAssembly.beforeComment_append contained.uncommented rest
  rwa [show Scan.start.quoting = .outside from rfl, closed] at scanned

end SelfContained

theorem selfContained_of_quiet (text : Text) (quiet : ∀ c ∈ text, isQuiet c = true) :
    SelfContained text :=
  passes_quiet 0 text fun c member => .inl (quiet c member)

/-- A quoted literal holds commas, comment marks and parentheses without being cut by them. -/
theorem selfContained_literal (content : Text) (escaped : WellEscaped content) :
    SelfContained ('"' :: content ++ ['"']) := by
  have inner := passes_wellEscaped 0 content escaped
  have closing : Scan.Passes ⟨.inside, 0⟩ ['"'] .start :=
    .cons '"' rfl (.inl rfl) (.nil _)
  exact .cons '"' rfl (.inl rfl) (inner.append closing)

theorem selfContained_group (front inside : Text) (quiet : ∀ c ∈ front, isQuiet c = true)
    (listed : ∀ c ∈ inside, isQuiet c = true ∨ c = ',') :
    SelfContained (front ++ '(' :: inside ++ [')']) := by
  have inner : Scan.Passes ⟨.outside, 1⟩ inside ⟨.outside, 1⟩ :=
    passes_quiet 1 inside fun c member => (listed c member).imp_right fun comma => ⟨by decide, comma⟩
  have closing : Scan.Passes ⟨.outside, 1⟩ [')'] .start := .cons ')' rfl (.inl rfl) (.nil _)
  have opening : Scan.start.Passes ['('] ⟨.outside, 1⟩ := .cons '(' rfl (.inl rfl) (.nil _)
  rw [List.append_assoc]
  exact (selfContained_of_quiet front quiet).append (opening.append (inner.append closing))

theorem piece_trimmed (operands : Text) :
    ∀ piece ∈ splitPieces operands, Trimmed piece ∧ piece ≠ [] := by
  intro piece member
  obtain ⟨cut, nonempty⟩ := List.mem_filter.mp member
  obtain ⟨part, _, same⟩ := List.mem_map.mp cut
  subst piece
  exact ⟨trimmed_trim part, of_decide_eq_true nonempty⟩

/-- A text that a comma-separated list can hold as one of its items. -/
structure IsPiece (text : Text) : Prop where
  contained : SelfContained text
  trimmed : Trimmed text
  nonempty : text ≠ []

section Joining

theorem joinWith_cons_cons (separator first second : Text) (rest : List Text) :
    joinWith separator (first :: second :: rest) =
      first ++ separator ++ joinWith separator (second :: rest) :=
  List.intercalate_cons_cons

theorem mem_joinWith (separator : Text) (parts : List Text) :
    ∀ c ∈ joinWith separator parts, c ∈ separator ∨ ∃ part ∈ parts, c ∈ part := by
  induction parts with
  | nil => simp [joinWith]
  | cons first others ih =>
      intro c member
      cases others with
      | nil => exact .inr ⟨first, List.mem_cons_self, by simpa [joinWith] using member⟩
      | cons second rest =>
          rw [joinWith_cons_cons] at member
          rcases List.mem_append.mp member with front | later
          · rcases List.mem_append.mp front with inside | between
            · exact .inr ⟨first, List.mem_cons_self, inside⟩
            · exact .inl between
          · exact (ih c later).imp_right fun ⟨part, among, inside⟩ =>
              ⟨part, List.mem_cons_of_mem first among, inside⟩

variable {first : Text} {others : List Text}

theorem joined_trimmed (each : ∀ piece ∈ first :: others, IsPiece piece) :
    Trimmed (joinWith ", " (first :: others)) ∧ joinWith ", " (first :: others) ≠ [] := by
  induction others generalizing first with
  | nil =>
      have piece := each first List.mem_cons_self
      simpa [joinWith] using And.intro piece.trimmed piece.nonempty
  | cons second rest ih =>
      have piece := each first List.mem_cons_self
      obtain ⟨trimmed, nonempty⟩ := ih fun other member => each other (List.mem_cons_of_mem _ member)
      rw [joinWith_cons_cons]
      exact ⟨piece.trimmed.around trimmed _ piece.nonempty nonempty, by simp [piece.nonempty]⟩

theorem joined_uncommented (each : ∀ piece ∈ first :: others, IsPiece piece) :
    beforeComment .outside (joinWith ", " (first :: others)) = joinWith ", " (first :: others) := by
  induction others generalizing first with
  | nil =>
      rw [joinWith, List.intercalate_singleton]
      exact (each first List.mem_cons_self).contained.uncommented
  | cons second rest ih =>
      have later := ih fun other member => each other (List.mem_cons_of_mem _ member)
      have separator (text : Text) :
          beforeComment .outside (", " ++ text) = ", " ++ beforeComment .outside text := rfl
      rw [joinWith_cons_cons, List.append_assoc,
        (each first List.mem_cons_self).contained.beforeComment_append, separator, later]

end Joining

end AttAssembly
