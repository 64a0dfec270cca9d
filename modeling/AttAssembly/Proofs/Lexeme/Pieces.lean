import AttAssembly.Proofs.Lexeme.Scanning

/-!
Operand texts and the commas between them. A list of texts is separable when no comma of theirs is
outside parentheses and string literals and none but the last leaves anything open. The scan cuts every
text into a separable list, and finds such a list again in its texts with commas between them. Trimming
its texts and leaving some of them out keeps a list separable: blanks that stand in front of a text or
behind a closed one leave the scan where it is. So nothing is lost but the commas and the blanks around
them, and what was cut once and put together again is cut in the same places.
-/

namespace AttAssembly

/-- Every comma of the text is inside parentheses or a string literal. -/
def CommasInside (text : Text) : Prop :=
  ∀ front rest, text = front ++ ',' :: rest →
    (Scan.start.after front).quoting ≠ .outside ∨ 0 < (Scan.start.after front).depth

/-- Neither a parenthesis nor a string literal is open after the text. -/
def NothingOpen (text : Text) : Prop :=
  (Scan.start.after text).quoting = .outside ∧ (Scan.start.after text).depth = 0

/-- Texts that are found again between commas: only the last can leave something open. -/
inductive Separable : List Text → Prop
  | nil : Separable []
  | last (piece : Text) (inside : CommasInside piece) : Separable [piece]
  | before (piece : Text) (others : List Text) (inside : CommasInside piece)
      (closed : NothingOpen piece) (later : Separable others) : Separable (piece :: others)

/-- What is neither a comma nor blank. -/
def isContent (c : Char) : Bool := c ≠ ',' && !isBlank c

section Scans

theorem Scan.eq_start_iff (scan : Scan) :
    scan = .start ↔ scan.quoting = .outside ∧ scan.depth = 0 := by
  cases scan
  simp [Scan.start]

theorem nothingOpen_iff (text : Text) : NothingOpen text ↔ Scan.start.after text = .start :=
  (Scan.eq_start_iff _).symm

theorem Scan.separates_comma (scan : Scan) :
    scan.separates ',' = false ↔ scan.quoting ≠ .outside ∨ 0 < scan.depth := by
  rw [Nat.pos_iff_ne_zero, ← not_and_or, ← Scan.eq_start_iff]
  simp [Scan.separates]

instance (text : Text) : Decidable (NothingOpen text) := inferInstanceAs (Decidable (_ ∧ _))

theorem splitAtCommas_whole_iff (scan : Scan) (text : Text) :
    splitAtCommas scan text = (text, []) ↔
      ∀ front mark rest, text = front ++ mark :: rest → (scan.after front).separates mark = false := by
  induction text generalizing scan with
  | nil => simp [splitAtCommas]
  | cons c tail ih =>
      rw [forall_position_cons]
      cases here : scan.separates c with
      | true =>
          rw [splitAtCommas_separator here]
          exact iff_of_false (by simp) fun joined => Bool.noConfusion (here.symm.trans joined.1)
      | false =>
          have later := ih (scan.next c)
          rw [Prod.ext_iff] at later
          rw [splitAtCommas_cons here, Prod.ext_iff, List.cons_inj_right, later]
          exact (and_iff_right here).symm

theorem commasInside_iff (text : Text) :
    CommasInside text ↔ splitAtCommas .start text = (text, []) := by
  rw [splitAtCommas_whole_iff]
  constructor
  · intro inside front mark rest same
    by_cases comma : mark = ','
    · subst comma
      exact (Scan.separates_comma _).mpr (inside front rest same)
    · simp [Scan.separates, comma]
  · intro joined front rest same
    exact (Scan.separates_comma _).mp (joined front ',' rest same)

instance (text : Text) : Decidable (CommasInside text) :=
  decidable_of_iff _ (commasInside_iff text).symm

end Scans

section Blanks

theorem Scan.next_blank {c : Char} (blank : isBlank c = true) (scan : Scan) :
    scan.next c = .start ↔ scan = .start := by
  have quote : c ≠ '"' := blank_ne blank rfl
  have escape : c ≠ '\\' := blank_ne blank rfl
  have opening : c ≠ '(' := blank_ne blank rfl
  have closing : c ≠ ')' := blank_ne blank rfl
  rw [Scan.eq_start_iff, Scan.eq_start_iff]
  cases scan with
  | mk quoting depth =>
      cases quoting <;> simp [Scan.next, Quoting.next, quote, escape, opening, closing]

theorem Scan.after_blanks {blanks : Text} (blank : ∀ c ∈ blanks, isBlank c = true) (scan : Scan) :
    scan.after blanks = .start ↔ scan = .start := by
  induction blanks generalizing scan with
  | nil => rfl
  | cons c rest ih =>
      have later := ih (fun d member => blank d (List.mem_cons_of_mem c member)) (scan.next c)
      exact later.trans (Scan.next_blank (blank c List.mem_cons_self) scan)

theorem Scan.after_append (scan : Scan) (first second : Text) :
    scan.after (first ++ second) = (scan.after first).after second := List.foldl_append

theorem Scan.start_after_blanks {blanks : Text} (blank : ∀ c ∈ blanks, isBlank c = true)
    (text : Text) : Scan.start.after (blanks ++ text) = Scan.start.after text := by
  rw [Scan.after_append, (Scan.after_blanks blank .start).mpr rfl]

variable {text : Text}

theorem CommasInside.of_trim (inside : CommasInside text) : CommasInside (trim text) := by
  obtain ⟨before, after, whole, blank, _⟩ := trim_within text
  intro front rest same
  rw [← Scan.start_after_blanks blank front]
  apply inside (before ++ front) (rest ++ after)
  rw [whole, same]
  simp

theorem NothingOpen.of_trim (closed : NothingOpen text) : NothingOpen (trim text) := by
  obtain ⟨before, after, whole, front, back⟩ := trim_within text
  rw [nothingOpen_iff] at closed ⊢
  rw [whole, List.append_assoc, Scan.start_after_blanks front, Scan.after_append] at closed
  exact (Scan.after_blanks back _).mp closed

theorem CommasInside.spaced (inside : CommasInside text) : CommasInside (' ' :: text) := by
  rw [commasInside_iff] at inside ⊢
  have space : Scan.next .start ' ' = .start := rfl
  rw [splitAtCommas_cons rfl, space, inside]

theorem NothingOpen.spaced (closed : NothingOpen text) : NothingOpen (' ' :: text) := closed

end Blanks

namespace Separable

variable {first : Text} {others pieces : List Text}

theorem inside (separable : Separable pieces) : ∀ piece ∈ pieces, CommasInside piece := by
  induction separable with
  | nil => simp
  | last piece inside => exact List.forall_mem_singleton.mpr inside
  | before piece others inside _ _ ih => exact List.forall_mem_cons.mpr ⟨inside, ih⟩

theorem closed (separable : Separable pieces) : ∀ piece ∈ pieces.dropLast, NothingOpen piece := by
  induction separable with
  | nil => simp
  | last piece inside => simp
  | before piece others _ closed _ ih =>
      cases others with
      | nil => simp
      | cons second rest => exact List.forall_mem_cons.mpr ⟨closed, ih⟩

theorem of_closed (each : ∀ piece ∈ pieces, CommasInside piece ∧ NothingOpen piece) :
    Separable pieces := by
  induction pieces with
  | nil => exact .nil
  | cons piece others ih =>
      obtain ⟨inside, closed⟩ := each piece List.mem_cons_self
      exact .before piece others inside closed
        (ih fun other member => each other (List.mem_cons_of_mem piece member))

theorem filter (keep : Text → Bool) (separable : Separable pieces) :
    Separable (pieces.filter keep) := by
  induction separable with
  | nil => exact .nil
  | last piece inside =>
      by_cases kept : keep piece = true
      · rw [List.filter_cons_of_pos kept]
        exact .last piece inside
      · rw [List.filter_cons_of_neg kept]
        exact .nil
  | before piece others inside closed _ ih =>
      by_cases kept : keep piece = true
      · rw [List.filter_cons_of_pos kept]
        exact .before piece _ inside closed ih
      · rw [List.filter_cons_of_neg kept]
        exact ih

theorem map {change : Text → Text} (inside : ∀ {text}, CommasInside text → CommasInside (change text))
    (closed : ∀ {text}, NothingOpen text → NothingOpen (change text)) (separable : Separable pieces) :
    Separable (pieces.map change) := by
  induction separable with
  | nil => exact .nil
  | last piece commas => exact .last _ (inside commas)
  | before piece others commas nothing _ ih => exact .before _ _ (inside commas) (closed nothing) ih

/-- The blank that stands behind every comma of a list. -/
theorem spaced (separable : Separable (first :: others)) :
    Separable (first :: others.map (' ' :: ·)) := by
  cases separable with
  | last _ inside => exact .last first inside
  | before _ _ inside closed later =>
      exact .before first _ inside closed (later.map CommasInside.spaced NothingOpen.spaced)

/-- The commas between the texts are found again, and no others. -/
theorem splitAtCommas (separable : Separable (first :: others)) :
    AttAssembly.splitAtCommas .start (joinWith [','] (first :: others)) = (first, others) := by
  induction others generalizing first with
  | nil =>
      have inside := separable.inside first List.mem_cons_self
      rw [joinWith, List.intercalate_singleton]
      exact (commasInside_iff first).mp inside
  | cons second rest ih =>
      cases separable with
      | before _ _ inside closed later =>
          have comma : Scan.start.separates ',' = true := rfl
          rw [joinWith_cons_cons, List.append_assoc,
            splitAtCommas_append ((commasInside_iff first).mp inside), (nothingOpen_iff first).mp closed,
            List.singleton_append, splitAtCommas_separator comma]
          have next : Scan.next .start ',' = .start := rfl
          rw [next, ih later, List.append_nil]

end Separable

section Cutting

-- The first part goes on from the scan as it is, and all others begin with nothing open.
theorem splitAtCommas_parts (scan : Scan) (text : Text) :
    splitAtCommas scan (splitAtCommas scan text).1 = ((splitAtCommas scan text).1, []) ∧
      ((splitAtCommas scan text).2 ≠ [] → scan.after (splitAtCommas scan text).1 = .start) ∧
      Separable (splitAtCommas scan text).2 := by
  induction text generalizing scan with
  | nil => exact ⟨rfl, by simp [splitAtCommas], .nil⟩
  | cons c tail ih =>
      obtain ⟨whole, closed, later⟩ := ih (scan.next c)
      cases here : scan.separates c with
      | true =>
          rw [splitAtCommas_separator here]
          simp only [Scan.separates, Bool.and_eq_true, decide_eq_true_eq] at here
          obtain ⟨rfl, rfl⟩ := here
          have inside := (commasInside_iff _).mpr whole
          refine ⟨rfl, fun _ => rfl, ?_⟩
          by_cases others : (splitAtCommas .start tail).2 = []
          · have alone := Separable.last _ inside
            rwa [← others] at alone
          · exact .before _ _ inside ((nothingOpen_iff _).mpr (closed others)) later
      | false =>
          rw [splitAtCommas_cons here]
          refine ⟨?_, closed, later⟩
          rw [splitAtCommas_cons here, whole]

theorem splitAtCommas_separable (text : Text) :
    Separable ((splitAtCommas .start text).1 :: (splitAtCommas .start text).2) := by
  obtain ⟨whole, closed, later⟩ := splitAtCommas_parts .start text
  have inside := (commasInside_iff _).mpr whole
  by_cases others : (splitAtCommas .start text).2 = []
  · rw [others]
    exact .last _ inside
  · exact .before _ _ inside ((nothingOpen_iff _).mpr (closed others)) later

/-- Cutting at commas loses nothing but the commas. -/
theorem splitAtCommas_joined (scan : Scan) (text : Text) :
    joinWith [','] ((splitAtCommas scan text).1 :: (splitAtCommas scan text).2) = text := by
  induction text generalizing scan with
  | nil => rfl
  | cons c rest ih =>
      cases separating : scan.separates c with
      | true =>
          have comma : c = ',' := by
            simp only [Scan.separates, Bool.and_eq_true, decide_eq_true_eq] at separating
            exact separating.1
          rw [splitAtCommas_separator separating, joinWith_cons_cons, ih, comma]
          rfl
      | false =>
          have grown (others : List Text) (piece : Text) :
              joinWith [','] ((c :: piece) :: others) = c :: joinWith [','] (piece :: others) := by
            cases others <;> simp [joinWith]
          rw [splitAtCommas_cons separating, grown, ih]

theorem joinWith_spaced (first : Text) (others : List Text) :
    joinWith ", " (first :: others) = joinWith [','] (first :: others.map (' ' :: ·)) := by
  induction others generalizing first with
  | nil => rfl
  | cons second rest ih =>
      rw [List.map_cons, joinWith_cons_cons, joinWith_cons_cons, ih]
      cases rest <;> simp [joinWith]

/-- A separable list is read from its texts, but for the blanks around them. -/
theorem splitPieces_separable {pieces : List Text} (separable : Separable pieces) :
    splitPieces (joinWith ", " pieces) = (pieces.map trim).filter (· ≠ []) := by
  cases pieces with
  | nil => rfl
  | cons first others =>
      have untouched : (others.map (' ' :: ·)).map trim = others.map trim := by
        rw [List.map_map]
        exact List.map_congr_left fun piece _ => trim_after_blank ' ' piece rfl
      rw [splitPieces, joinWith_spaced, separable.spaced.splitAtCommas]
      dsimp only
      rw [List.map_cons, List.map_cons, untouched]

theorem splitPieces_of_separable {pieces : List Text} (separable : Separable pieces)
    (each : ∀ piece ∈ pieces, piece ≠ [] ∧ Trimmed piece) :
    splitPieces (joinWith ", " pieces) = pieces := by
  have untouched : pieces.map trim = pieces := by
    refine (List.map_congr_left fun piece member => ?_).trans (List.map_id pieces)
    exact trim_eq_self (each piece member).2
  rw [splitPieces_separable separable, untouched]
  exact List.filter_eq_self.mpr fun piece member => decide_eq_true (each piece member).1

theorem splitPieces_joined (pieces : List Text) (each : ∀ piece ∈ pieces, IsPiece piece) :
    splitPieces (joinWith ", " pieces) = pieces := by
  apply splitPieces_of_separable
  · apply Separable.of_closed
    intro piece member
    have contained := (each piece member).contained
    exact ⟨(commasInside_iff piece).mpr contained.whole, (nothingOpen_iff piece).mpr contained.after⟩
  · exact fun piece member => ⟨(each piece member).nonempty, (each piece member).trimmed⟩

end Cutting

section Contents

theorem content_blanks {blanks : Text} (blank : ∀ c ∈ blanks, isBlank c = true) :
    blanks.filter isContent = [] := by
  apply List.filter_eq_nil_iff.mpr
  intro c member
  simp [isContent, blank c member]

theorem content_trim (text : Text) : (trim text).filter isContent = text.filter isContent := by
  obtain ⟨before, after, whole, front, back⟩ := trim_within text
  conv_rhs => rw [whole]
  rw [List.filter_append, List.filter_append, content_blanks front, content_blanks back,
    List.nil_append, List.append_nil]

theorem content_joined (parts : List Text) :
    (joinWith [','] parts).filter isContent = parts.flatten.filter isContent := by
  induction parts with
  | nil => rfl
  | cons first others ih =>
      cases others with
      | nil => simp [joinWith]
      | cons second rest =>
          have comma : [','].filter isContent = [] := rfl
          rw [joinWith_cons_cons, List.filter_append, List.filter_append, ih, comma, List.append_nil,
            ← List.filter_append, ← List.flatten_cons]

theorem content_trimmed (parts : List Text) :
    (parts.map trim).flatten.filter isContent = parts.flatten.filter isContent := by
  induction parts with
  | nil => rfl
  | cons first others ih =>
      rw [List.map_cons, List.flatten_cons, List.flatten_cons, List.filter_append, List.filter_append,
        content_trim, ih]

end Contents

/-- The pieces of an operand text are the texts between its commas outside parentheses and literals,
trimmed and without the blank ones. They have all of its contents, none but the last leaves anything open,
and with commas between them they are cut into the same pieces again. A list of closed pieces, however
it comes about, is what its texts with commas between them are cut into. -/
theorem pieces_between_commas :
    (∀ operands,
      (∃ parts, operands = joinWith [','] parts ∧ Separable parts ∧
        splitPieces operands = (parts.map trim).filter (· ≠ [])) ∧
      (∀ piece ∈ splitPieces operands, piece ≠ [] ∧ Trimmed piece ∧ CommasInside piece) ∧
      (splitPieces operands).flatten.filter isContent = operands.filter isContent ∧
      (∀ piece ∈ (splitPieces operands).dropLast, NothingOpen piece) ∧
      splitPieces (joinWith ", " (splitPieces operands)) = splitPieces operands) ∧
    ∀ pieces, (∀ piece ∈ pieces,
        piece ≠ [] ∧ Trimmed piece ∧ CommasInside piece ∧ NothingOpen piece) →
      splitPieces (joinWith ", " pieces) = pieces := by
  constructor
  · intro operands
    have separable := splitAtCommas_separable operands
    have joined := splitAtCommas_joined .start operands
    have cut : splitPieces operands = (((splitAtCommas .start operands).1 ::
        (splitAtCommas .start operands).2).map trim).filter (· ≠ []) := rfl
    generalize (splitAtCommas .start operands).1 :: (splitAtCommas .start operands).2 = parts
      at separable joined cut
    have pieces : Separable (splitPieces operands) :=
      cut ▸ (separable.map CommasInside.of_trim NothingOpen.of_trim).filter _
    have each : ∀ piece ∈ splitPieces operands, piece ≠ [] ∧ Trimmed piece :=
      fun piece member => (piece_trimmed operands piece member).symm
    refine ⟨⟨parts, joined.symm, separable, cut⟩, fun piece member => ?_, ?_, pieces.closed,
      splitPieces_of_separable pieces each⟩
    · exact ⟨(each piece member).1, (each piece member).2, pieces.inside piece member⟩
    · calc
        (splitPieces operands).flatten.filter isContent
          = (parts.map trim).flatten.filter isContent := by rw [cut, List.flatten_filter_ne_nil]
        _ = parts.flatten.filter isContent := content_trimmed parts
        _ = operands.filter isContent := by rw [← content_joined, joined]
  · intro pieces each
    apply splitPieces_of_separable
    · exact .of_closed fun piece member => (each piece member).2.2
    · exact fun piece member => ⟨(each piece member).1, (each piece member).2.1⟩

/-- An escaped quote in a literal with a comma, and a parenthesis that closes nothing; then a text with an
empty piece whose last literal is never closed. -/
theorem pieces_between_commas_open :
    let pieces : List Text := ["8(%ebp,%esi,4)", "\"a\\\", b\"", "x)"]
    let operands : Text := " a) ,, (b, \"c\\ "
    (∀ piece ∈ pieces, piece ≠ [] ∧ Trimmed piece ∧ CommasInside piece ∧ NothingOpen piece) ∧
      splitPieces (joinWith ", " pieces) = pieces ∧
      splitPieces operands = ["a)".toList, "(b, \"c\\".toList] ∧
      (∀ piece ∈ (splitPieces operands).dropLast, NothingOpen piece) ∧
      splitPieces (joinWith ", " (splitPieces operands)) = splitPieces operands := by
  intro pieces operands
  have decided : ∀ piece ∈ pieces,
      piece ≠ [] ∧ trim piece = piece ∧ CommasInside piece ∧ NothingOpen piece := by decide
  have each : ∀ piece ∈ pieces,
      piece ≠ [] ∧ Trimmed piece ∧ CommasInside piece ∧ NothingOpen piece := by
    intro piece member
    obtain ⟨written, trimmed, closed⟩ := decided piece member
    exact ⟨written, trimmed ▸ trimmed_trim piece, closed⟩
  obtain ⟨_, _, _, closed, again⟩ := pieces_between_commas.1 operands
  exact ⟨each, pieces_between_commas.2 pieces each, by decide, closed, again⟩

end AttAssembly
