import AttAssembly.CommandLine.Command
import AttAssembly.Proofs.Analysis.Lines

/-!
Line ends of a source that is read from a file. A file is read with every line end made a line feed,
a carriage return alone among them, while the analysis of a text ends a line only at a line feed.
The two see the same physical lines exactly when every carriage return is the first half of a line
end. Carriage returns after which only blanks follow make further lines, but none that has a record.
-/

namespace AttAssembly

/-- Every carriage return stands directly before a line feed. -/
def PairedReturns (text : Text) : Prop :=
  ∀ before after, text = before ++ '\r' :: after → after.head? = some '\n'

theorem pairedReturns_nil : PairedReturns [] := by simp [PairedReturns]

theorem pairedReturns_cons (c : Char) (rest : Text) :
    PairedReturns (c :: rest) ↔ (c = '\r' → rest.head? = some '\n') ∧ PairedReturns rest := by
  constructor
  · intro paired
    constructor
    · rintro rfl
      exact paired [] rest rfl
    · intro before after same
      exact paired (c :: before) after (by rw [same, List.cons_append])
  · rintro ⟨first, later⟩ before after same
    cases before with
    | nil =>
        obtain ⟨rfl, rfl⟩ := List.cons.inj same
        exact first rfl
    | cons d front => exact later front after (List.cons.inj same).2

section Unifying

theorem unifyLineEnds_pair (rest : Text) :
    unifyLineEnds ('\r' :: '\n' :: rest) = '\n' :: unifyLineEnds rest := by
  rw [unifyLineEnds]

theorem unifyLineEnds_lone (rest : Text) (lone : rest.head? ≠ some '\n') :
    unifyLineEnds ('\r' :: rest) = '\n' :: unifyLineEnds rest := by
  rw [unifyLineEnds]
  rintro later rfl
  exact lone rfl

theorem unifyLineEnds_other (c : Char) (rest : Text) (other : c ≠ '\r') :
    unifyLineEnds (c :: rest) = c :: unifyLineEnds rest := by
  rw [unifyLineEnds]
  · rintro later rfl
    exact absurd rfl other
  · rintro rfl
    exact absurd rfl other

/-- What stands at the front of a text, as far as its line ends are concerned. -/
theorem lineEnd_induction {motive : Text → Prop} (nil : motive [])
    (pair : ∀ rest, motive rest → motive ('\r' :: '\n' :: rest))
    (lone : ∀ rest, rest.head? ≠ some '\n' → motive rest → motive ('\r' :: rest))
    (other : ∀ c rest, c ≠ '\r' → motive rest → motive (c :: rest)) (text : Text) :
    motive text := by
  induction text using unifyLineEnds.induct with
  | case1 => exact nil
  | case2 rest ih => exact pair rest ih
  | case3 rest single ih =>
      refine lone rest ?_ ih
      intro feed
      obtain ⟨later, same⟩ := List.head?_eq_some_iff.mp feed
      exact single later same
  | case4 c rest _ single ih => exact other c rest single ih

theorem mem_unifyLineEnds (text : Text) :
    ∀ c ∈ unifyLineEnds text, c ≠ '\r' ∧ (c = '\n' ∨ c ∈ text) := by
  induction text using lineEnd_induction with
  | nil => simp [unifyLineEnds]
  | pair rest ih =>
      rw [unifyLineEnds_pair]
      intro c member
      rcases List.mem_cons.mp member with feed | later
      · simp [feed]
      · exact (ih c later).imp_right (.imp_right fun inside => by simp [inside])
  | lone rest single ih =>
      rw [unifyLineEnds_lone rest single]
      intro c member
      rcases List.mem_cons.mp member with feed | later
      · simp [feed]
      · exact (ih c later).imp_right (.imp_right (List.mem_cons_of_mem _))
  | other d rest different ih =>
      rw [unifyLineEnds_other d rest different]
      intro c member
      rcases List.mem_cons.mp member with same | later
      · simp [same, different]
      · exact (ih c later).imp_right (.imp_right (List.mem_cons_of_mem _))

theorem unifyLineEnds_append (first second : Text) (ended : first.getLast? ≠ some '\r') :
    unifyLineEnds (first ++ second) = unifyLineEnds first ++ unifyLineEnds second := by
  induction first using lineEnd_induction with
  | nil => rfl
  | pair rest ih =>
      have later : rest.getLast? ≠ some '\r' := by
        intro last
        rw [List.getLast?_cons_cons, List.getLast?_cons, last] at ended
        exact ended rfl
      rw [List.cons_append, List.cons_append, unifyLineEnds_pair, unifyLineEnds_pair, ih later,
        List.cons_append]
  | lone rest single ih =>
      -- Something follows the carriage return, and it is no line feed.
      obtain ⟨d, tail, rfl⟩ : ∃ d tail, rest = d :: tail := by
        cases rest with
        | nil => simp at ended
        | cons d tail => exact ⟨d, tail, rfl⟩
      rw [List.getLast?_cons_cons] at ended
      have followed : ((d :: tail) ++ second).head? ≠ some '\n' := by simpa using single
      rw [List.cons_append, unifyLineEnds_lone _ single, unifyLineEnds_lone _ followed, ih ended,
        List.cons_append]
  | other c rest different ih =>
      have later : rest.getLast? ≠ some '\r' := by
        intro last
        rw [List.getLast?_cons, last] at ended
        exact ended rfl
      rw [List.cons_append, unifyLineEnds_other _ _ different, unifyLineEnds_other _ _ different,
        ih later, List.cons_append]

end Unifying

section Lines

theorem dropReturn_cons (c : Char) (line : Text) (other : c ≠ '\r') :
    dropReturn (c :: line) = c :: dropReturn line := by
  cases line with
  | nil => simp [dropReturn, other]
  | cons d rest =>
      rw [dropReturn, dropReturn, List.getLast?_cons_cons]
      split <;> rfl

theorem physicalLines_feed (rest : Text) :
    physicalLines ('\n' :: rest) = [] :: physicalLines rest := rfl

theorem physicalLines_pair (rest : Text) :
    physicalLines ('\r' :: '\n' :: rest) = [] :: physicalLines rest := rfl

theorem physicalLines_ordinary (c : Char) (rest : Text) (feedless : c ≠ '\n') (other : c ≠ '\r') :
    ∃ line others, physicalLines rest = line :: others ∧
      physicalLines (c :: rest) = (c :: line) :: others := by
  have joined : splitWhere (· = '\n') (c :: rest) =
      (c :: (splitWhere (· = '\n') rest).1, (splitWhere (· = '\n') rest).2) := by
    simp [splitWhere, feedless]
  simp only [physicalLines, joined]
  rcases splitWhere (· = '\n') rest with ⟨line, others⟩
  cases others with
  | nil => exact ⟨line, [], rfl, rfl⟩
  | cons next later =>
      refine ⟨dropReturn line, endAtFeeds next later, rfl, ?_⟩
      rw [endAtFeeds, dropReturn_cons c line other]

theorem physicalLines_unified (text : Text) (paired : PairedReturns text) :
    physicalLines (unifyLineEnds text) = physicalLines text := by
  induction text using lineEnd_induction with
  | nil => rfl
  | pair rest ih =>
      have later := ((pairedReturns_cons _ _).mp ((pairedReturns_cons _ _).mp paired).2).2
      rw [unifyLineEnds_pair, physicalLines_feed, physicalLines_pair, ih later]
  | lone rest single ih => exact absurd (((pairedReturns_cons _ _).mp paired).1 rfl) single
  | other c rest different ih =>
      have same := ih ((pairedReturns_cons _ _).mp paired).2
      rw [unifyLineEnds_other c rest different]
      by_cases feed : c = '\n'
      · rw [feed, physicalLines_feed, physicalLines_feed, same]
      · obtain ⟨line, others, read, longer⟩ := physicalLines_ordinary c rest feed different
        obtain ⟨first, later, also, whole⟩ :=
          physicalLines_ordinary c (unifyLineEnds rest) feed different
        obtain ⟨rfl, rfl⟩ := List.cons.inj (also.symm.trans (same.trans read))
        rw [longer, whole]

-- A carriage return that stands alone is one line feed more.
theorem unified_feeds (text : Text) :
    text.count '\n' ≤ (unifyLineEnds text).count '\n' ∧
      ((unifyLineEnds text).count '\n' = text.count '\n' → PairedReturns text) := by
  induction text using lineEnd_induction with
  | nil => simp [unifyLineEnds, pairedReturns_nil]
  | pair rest ih =>
      have counted : ('\r' :: '\n' :: rest).count '\n' = rest.count '\n' + 1 := by simp
      rw [unifyLineEnds_pair, counted, List.count_cons_self]
      refine ⟨by omega, fun same => ?_⟩
      simp [pairedReturns_cons, ih.2 (by omega)]
  | lone rest single ih =>
      have counted : ('\r' :: rest).count '\n' = rest.count '\n' := by simp
      rw [unifyLineEnds_lone rest single, counted, List.count_cons_self]
      refine ⟨by omega, fun same => ?_⟩
      omega
  | other c rest different ih =>
      rw [unifyLineEnds_other c rest different, List.count_cons, List.count_cons]
      refine ⟨by omega, fun same => ?_⟩
      exact (pairedReturns_cons c rest).mpr ⟨fun equal => absurd equal different, ih.2 (by omega)⟩

theorem physicalLines_unified_iff (text : Text) :
    physicalLines (unifyLineEnds text) = physicalLines text ↔ PairedReturns text := by
  constructor
  · intro same
    have counted := congrArg List.length same
    rw [physicalLines_length, physicalLines_length] at counted
    exact (unified_feeds text).2 (by omega)
  · exact physicalLines_unified text

end Lines

theorem recordsOf_unified (text : Text) (paired : PairedReturns (trimRight text)) :
    recordsOf (unifyLineEnds text) = recordsOf text := by
  obtain ⟨blanks, whole, blank⟩ := trimRight_blanks text
  have ended : (trimRight text).getLast? ≠ some '\r' := by
    intro last
    exact absurd (trimRight_end text '\r' last) (by decide)
  have blankEnds : ∀ c ∈ unifyLineEnds blanks, isBlank c = true := by
    intro c member
    rcases (mem_unifyLineEnds blanks c member).2 with rfl | inside
    · rfl
    · exact blank c inside
  calc
    recordsOf (unifyLineEnds text)
      = recordsOf (unifyLineEnds (trimRight text) ++ unifyLineEnds blanks) := by
        rw [← unifyLineEnds_append _ _ ended, ← whole]
    _ = recordsOf (unifyLineEnds (trimRight text)) := recordsOf_append_blanks _ _ blankEnds
    _ = recordsOf (trimRight text) := by
        rw [recordsOf, physicalLines_unified _ paired, ← recordsOf]
    _ = recordsOf text := by
        rw [← recordsOf_append_blanks _ blanks blank, ← whole]

end AttAssembly
