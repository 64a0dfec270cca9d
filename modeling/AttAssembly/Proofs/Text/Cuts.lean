import Mathlib
import AttAssembly.Line.Reader

/-!
What cutting a text keeps. The parts of two texts with a separator between them are those of the first
followed by those of the second. Trimming, splitting off a comment, a label or a mnemonic, and
splitting at commas select code points of the text and never add one. A text that lies on one line
therefore stays on one line through all of them.
-/

namespace AttAssembly

def splitParts (separates : Char → Bool) (text : Text) : List Text :=
  (splitWhere separates text).1 :: (splitWhere separates text).2

section Parts

variable (separates : Char → Bool)

theorem splitParts_separator (c : Char) (rest : Text) (hit : separates c = true) :
    splitParts separates (c :: rest) = [] :: splitParts separates rest := by
  simp [splitParts, splitWhere, hit]

theorem splitParts_ordinary (c : Char) (rest : Text) (miss : separates c = false) :
    splitParts separates (c :: rest) =
      (c :: (splitWhere separates rest).1) :: (splitWhere separates rest).2 := by
  simp [splitParts, splitWhere, miss]

theorem part_avoids (text : Text) :
    ∀ part ∈ splitParts separates text, ∀ c ∈ part, separates c = false := by
  induction text with
  | nil => simp [splitParts, splitWhere]
  | cons c rest ih =>
      cases hit : separates c with
      | true => simpa [splitParts_separator separates c rest hit] using ih
      | false =>
          rw [splitParts_ordinary separates c rest hit]
          intro part member d inside
          rcases List.mem_cons.mp member with first | later
          · subst part
            rcases List.mem_cons.mp inside with same | kept
            · exact same ▸ hit
            · exact ih _ List.mem_cons_self d kept
          · exact ih part (List.mem_cons_of_mem _ later) d inside

/-- The first part ends where the text does or at a separator. -/
theorem first_part (text : Text) : ∃ after, text = (splitWhere separates text).1 ++ after ∧
    ∀ c ∈ after.head?, separates c = true := by
  induction text with
  | nil => exact ⟨[], rfl, nofun⟩
  | cons c rest ih =>
      cases hit : separates c with
      | true => exact ⟨c :: rest, by simp [splitWhere, hit], by simpa using hit⟩
      | false =>
          obtain ⟨after, whole, stop⟩ := ih
          exact ⟨after, by simpa [splitWhere, hit] using whole, stop⟩

/-- Every other part comes after a separator. -/
theorem later_part (text : Text) : ∀ part ∈ (splitWhere separates text).2,
    ∃ before mark after, text = before ++ mark :: (part ++ after) ∧ separates mark = true ∧
      ∀ c ∈ after.head?, separates c = true := by
  induction text with
  | nil => simp [splitWhere]
  | cons c rest ih =>
      intro part member
      have later (among : part ∈ (splitWhere separates rest).2) :
          ∃ before mark after, c :: rest = before ++ mark :: (part ++ after) ∧
            separates mark = true ∧ ∀ c ∈ after.head?, separates c = true := by
        obtain ⟨before, mark, after, whole, hit, stop⟩ := ih part among
        exact ⟨c :: before, mark, after, congrArg (c :: ·) whole, hit, stop⟩
      cases hit : separates c with
      | true =>
          rw [splitWhere, hit] at member
          rcases List.mem_cons.mp member with rfl | among
          · obtain ⟨after, whole, stop⟩ := first_part separates rest
            exact ⟨[], c, after, congrArg (c :: ·) whole, hit, stop⟩
          · exact later among
      | false =>
          rw [splitWhere, hit] at member
          exact later member

theorem mem_part {c : Char} {text : Text} (member : c ∈ text) :
    separates c = true ∨ ∃ part ∈ splitParts separates text, c ∈ part := by
  induction text with
  | nil => cases member
  | cons d rest ih =>
      cases hit : separates d with
      | true =>
          rw [splitParts_separator separates d rest hit]
          rcases List.mem_cons.mp member with rfl | later
          · exact .inl hit
          · exact (ih later).imp_right fun ⟨part, among, inside⟩ =>
              ⟨part, List.mem_cons_of_mem _ among, inside⟩
      | false =>
          rw [splitParts_ordinary separates d rest hit]
          rcases List.mem_cons.mp member with rfl | later
          · exact .inr ⟨_, List.mem_cons_self, List.mem_cons_self⟩
          · refine (ih later).imp_right fun ⟨part, among, inside⟩ => ?_
            rcases List.mem_cons.mp among with rfl | other
            · exact ⟨_, List.mem_cons_self, List.mem_cons_of_mem d inside⟩
            · exact ⟨part, List.mem_cons_of_mem _ other, inside⟩

theorem splitParts_append (first second : Text) (c : Char) (hit : separates c = true) :
    splitParts separates (first ++ c :: second) =
      splitParts separates first ++ splitParts separates second := by
  induction first with
  | nil => exact splitParts_separator separates c second hit
  | cons d rest ih =>
      rw [List.cons_append]
      cases break_ : separates d with
      | true =>
          rw [splitParts_separator separates d _ break_, splitParts_separator separates d _ break_,
            ih, List.cons_append]
      | false =>
          -- The first part of the rest grows by one code point on both sides.
          rw [splitParts_ordinary separates d _ break_, splitParts_ordinary separates d _ break_]
          obtain ⟨part, others⟩ := List.cons.inj ih
          rw [part, others]
          rfl

theorem splitParts_length (text : Text) :
    (splitParts separates text).length = 1 + text.countP separates := by
  induction text with
  | nil => rfl
  | cons c rest ih =>
      cases hit : separates c with
      | true =>
          rw [splitParts_separator separates c rest hit, List.length_cons, ih,
            List.countP_cons_of_pos hit]
          omega
      | false =>
          rw [splitParts_ordinary separates c rest hit, List.length_cons,
            List.countP_cons_of_neg (by simp [hit]), ← ih]
          rfl

theorem splitWhere_append (part rest : Text)
    (joined : ∀ c ∈ part, separates c = false) :
    splitWhere separates (part ++ rest) =
      (part ++ (splitWhere separates rest).1, (splitWhere separates rest).2) := by
  induction part with
  | nil => rfl
  | cons c tail ih =>
      have later := ih fun d member => joined d (List.mem_cons_of_mem c member)
      rw [List.cons_append, splitWhere, later, joined c List.mem_cons_self]
      rfl

theorem splitWhere_joined (text : Text) (joined : ∀ c ∈ text, separates c = false) :
    splitWhere separates text = (text, []) := by
  simpa [splitWhere] using splitWhere_append separates text [] joined

-- What follows without a separator lengthens the last part.
theorem splitParts_append_joined (text tail : Text)
    (joined : ∀ c ∈ tail, separates c = false) :
    ∃ front last, splitParts separates text = front ++ [last] ∧
      splitParts separates (text ++ tail) = front ++ [last ++ tail] := by
  induction text with
  | nil =>
      exact ⟨[], [], rfl, by rw [splitParts, List.nil_append, splitWhere_joined separates tail joined]; rfl⟩
  | cons c rest ih =>
      obtain ⟨front, last, alone, longer⟩ := ih
      rw [List.cons_append]
      cases hit : separates c with
      | true =>
          refine ⟨[] :: front, last, ?_, ?_⟩
          · rw [splitParts_separator separates c rest hit, alone, List.cons_append]
          · rw [splitParts_separator separates c _ hit, longer, List.cons_append]
      | false =>
          rw [splitParts_ordinary separates c rest hit, splitParts_ordinary separates c _ hit]
          cases front with
          | nil =>
              obtain ⟨part, others⟩ := List.cons.inj alone
              obtain ⟨grown, kept⟩ := List.cons.inj longer
              exact ⟨[], c :: last, by rw [part, others]; rfl, by rw [grown, kept]; rfl⟩
          | cons first more =>
              obtain ⟨part, others⟩ := List.cons.inj alone
              obtain ⟨grown, kept⟩ := List.cons.inj longer
              exact ⟨(c :: first) :: more, last, by rw [part, others]; rfl, by rw [grown, kept]; rfl⟩

end Parts

/-- A text is cut where the first code point stands that is not kept, at its end if need be. -/
theorem cut_exact {keep : Char → Bool} {first rest : Text} (kept : ∀ c ∈ first, keep c = true)
    (stop : ∀ c ∈ rest.head?, keep c = false) :
    (first ++ rest).takeWhile keep = first ∧ (first ++ rest).dropWhile keep = rest := by
  rw [List.takeWhile_append_of_pos kept, List.dropWhile_append_of_pos kept]
  cases rest with
  | nil => simp
  | cons c others => simp [stop c rfl]

theorem trimLeft_subset (text : Text) : trimLeft text ⊆ text :=
  (List.dropWhile_sublist _).subset

theorem trimRight_subset (text : Text) : trimRight text ⊆ text := by
  intro c member
  have kept : c ∈ text.reverse.dropWhile isBlank := List.mem_reverse.mp member
  exact List.mem_reverse.mp ((List.dropWhile_sublist _).subset kept)

theorem trim_subset (text : Text) : trim text ⊆ text :=
  List.Subset.trans (trimRight_subset _) (trimLeft_subset _)

theorem beforeComment_subset (state : Quoting) (text : Text) :
    beforeComment state text ⊆ text := by
  induction text generalizing state with
  | nil => simp [beforeComment]
  | cons c rest ih =>
      rw [beforeComment]
      split
      · exact List.nil_subset _
      · exact List.cons_subset_cons c (ih _)

theorem stripComment_subset (line : Text) : stripComment line ⊆ line :=
  List.Subset.trans (trim_subset _) (beforeComment_subset _ _)

theorem leadingName_subset (text : Text) : (leadingName text).2 ⊆ text := by
  cases text with
  | nil => simp [leadingName]
  | cons c rest =>
      simp only [leadingName]
      split
      · exact List.subset_cons_of_subset c (List.dropWhile_sublist _).subset
      · exact List.Subset.refl _

theorem onlyLine_subset (text body : Text) (found : onlyLine? text = some body) :
    body ⊆ text := by
  simp only [onlyLine?] at found
  split at found
  · cases found
    exact (List.takeWhile_sublist _).subset
  · cases found

theorem splitLabel_subset (line : Text) : (splitLabel line).2 ⊆ line := by
  rw [splitLabel]
  split
  · next c name rest leading =>
      split
      · next body found =>
          have afterName : ':' :: rest ⊆ line := by
            simpa [leading] using leadingName_subset line
          exact List.Subset.trans (trim_subset body) (List.Subset.trans
            (onlyLine_subset _ body found) (List.Subset.trans (trimLeft_subset rest)
              (List.Subset.trans (List.subset_cons_self ':' rest) afterName)))
      · exact List.Subset.refl _
  · exact List.Subset.refl _

theorem operandText_subset (statement : Text) : (splitMnemonic statement).2 ⊆ statement :=
  List.Subset.trans (trimLeft_subset _)
    (List.Subset.trans (List.dropWhile_sublist _).subset (trim_subset statement))

theorem comma_piece_subset (scan : Scan) (operands : Text) :
    ∀ piece ∈ (splitAtCommas scan operands).1 :: (splitAtCommas scan operands).2,
      piece ⊆ operands := by
  induction operands generalizing scan with
  | nil => simp [splitAtCommas]
  | cons c rest ih =>
      intro piece member
      have later := ih (scan.next c)
      simp only [splitAtCommas] at member
      split at member
      · rcases List.mem_cons.mp member with first | other
        · simp [first]
        · exact List.subset_cons_of_subset c (later piece other)
      · rcases List.mem_cons.mp member with first | other
        · subst piece
          exact List.cons_subset_cons c (later _ List.mem_cons_self)
        · exact List.subset_cons_of_subset c (later piece (List.mem_cons_of_mem _ other))

theorem piece_subset (operands : Text) : ∀ piece ∈ splitPieces operands, piece ⊆ operands := by
  intro piece member
  obtain ⟨cut, inside, same⟩ := List.mem_map.mp (List.mem_filter.mp member).1
  subst piece
  exact List.Subset.trans (trim_subset cut) (comma_piece_subset _ operands cut inside)

end AttAssembly
