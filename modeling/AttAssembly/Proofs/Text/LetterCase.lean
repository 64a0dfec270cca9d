import Mathlib
import AttAssembly.Text.LetterCase

/-!
Lower case. A text in lower case stays as it is when it is put into lower case again: no run of the
table leads to a letter that another run moves, and neither do the letters that are listed one by one.
No letter disappears, so only the empty text has the empty text for its lower case. What has a lower case
of ASCII letters is made of ASCII letters itself, but for the Kelvin sign.
-/

namespace AttAssembly

theorem mem_of_lookup {Key Value : Type} [BEq Key] [LawfulBEq Key] {table : List (Key × Value)}
    {key : Key} {value : Value} (found : table.lookup key = some value) : (key, value) ∈ table := by
  obtain ⟨before, after, same, _⟩ := List.lookup_eq_some_iff.mp found
  simp [same]

namespace LetterCase

/-- In lower case wherever it stands. The letter whose lower case depends on its place is not. -/
def Settled (c : Char) : Prop := c ≠ 'Σ' ∧ lowerLetter c = [c]

instance (c : Char) : Decidable (Settled c) := inferInstanceAs (Decidable (_ ∧ _))

section Runs

/-- The run moves none of the code points that follow each other by `stride` from `low` to `high`: they
    are out of its range, or they fall between those that it moves. -/
def Run.spares (run : Run) (low high stride : Nat) : Bool :=
  high.blt run.low || run.high.blt low ||
    (low.beq high || (stride % run.stride).beq 0) && Nat.blt 0 ((low - run.low) % run.stride)

theorem Run.move_spared {run : Run} {low high stride code : Nat}
    (spared : run.spares low high stride = true) (above : low ≤ code) (below : code ≤ high)
    (stepped : stride ∣ code - low) : run.move? code = none := by
  simp only [spares, Bool.or_eq_true, Bool.and_eq_true, Nat.blt_eq, Nat.beq_eq] at spared
  rw [move?, if_neg]
  rintro ⟨_, _, moved⟩
  rcases spared with (left | right) | ⟨steps, between⟩
  · omega
  · omega
  · -- Both steps are steps of the run, so all of them are as far from its own code points.
    have steady : run.stride ∣ code - low := by
      rcases steps with alone | divides
      · have same : code - low = 0 := by omega
        exact same ▸ dvd_zero _
      · exact dvd_trans (Nat.dvd_of_mod_eq_zero divides) stepped
    have first : run.stride ∣ low - run.low := by
      have whole := Nat.dvd_sub (Nat.dvd_of_mod_eq_zero moved) steady
      rcases Nat.le_total run.low low with later | earlier
      · rwa [show code - run.low - (code - low) = low - run.low by omega] at whole
      · exact (Nat.sub_eq_zero_of_le earlier) ▸ dvd_zero _
    rw [Nat.mod_eq_zero_of_dvd first] at between
    exact absurd between (lt_irrefl 0)

theorem Run.move_some {run : Run} {code moved : Nat} (found : run.move? code = some moved) :
    run.low ≤ code ∧ code ≤ run.high ∧ run.stride ∣ code - run.low ∧
      moved = (code + run.distance).toNat := by
  rw [move?] at found
  split at found
  · next inside =>
      cases found
      exact ⟨inside.1, inside.2.1, Nat.dvd_of_mod_eq_zero inside.2.2, rfl⟩
  · cases found

theorem Run.moved_spared {run other : Run} {code moved : Nat} (positive : 0 ≤ run.low + run.distance)
    (spared : other.spares (run.low + run.distance).toNat (run.high + run.distance).toNat run.stride =
      true)
    (found : run.move? code = some moved) : other.move? moved = none := by
  obtain ⟨above, below, stepped, rfl⟩ := move_some found
  refine move_spared spared (by omega) (by omega) ?_
  have steps : (code + run.distance).toNat - (run.low + run.distance).toNat = code - run.low := by
    omega
  exact steps ▸ stepped

/-- No run leads to a letter that is listed by itself. -/
theorem lowerRuns_unlisted : lowerRuns.all (fun run => lowerExpansions.all fun entry =>
    Run.spares ⟨entry.1, entry.1, 1, 0⟩ (run.low + run.distance).toNat
      (run.high + run.distance).toNat run.stride) = true := by
  decide +kernel

/-- One run leads into ASCII, of a single letter. -/
theorem lowerRuns_low : ∀ run ∈ lowerRuns,
    0x80 ≤ run.low + run.distance ∨ run.low = run.high ∧ run.low + run.distance = 0x6B := by
  decide +kernel

theorem settled_of_unmoved {c : Char} (high : 0x80 ≤ c.toNat)
    (unlisted : lowerExpansions.lookup c.toNat = none)
    (unmoved : lowerRuns.findSome? (·.move? c.toNat) = none) : Settled c := by
  constructor
  · rintro rfl
    exact absurd unmoved (by decide)
  · rw [lowerLetter, if_neg (by omega), change, unlisted, unmoved]

theorem settled_ascii (c : Char) (ascii : c.toNat < 0x80) : Settled c.toLower := by
  have each : ∀ code < 0x80, Settled (Char.ofNat code).toLower := by decide +kernel
  simpa using each c.toNat ascii

theorem settled_listed : ∀ entry ∈ lowerExpansions, ∀ code ∈ entry.2, Settled (Char.ofNat code) := by
  decide

/-- Where a run leads to, every run is at its end. -/
theorem lowerRuns_closed : lowerRuns.all (fun run => lowerRuns.all fun other =>
    other.spares (run.low + run.distance).toNat (run.high + run.distance).toNat run.stride) = true := by
  decide +kernel

theorem settled_moved {run : Run} (listed : run ∈ lowerRuns) {code moved : Nat}
    (found : run.move? code = some moved) : Settled (Char.ofNat moved) := by
  have closed := List.all_eq_true.mp (List.all_eq_true.mp lowerRuns_closed run listed)
  have apart := List.all_eq_true.mp (List.all_eq_true.mp lowerRuns_unlisted run listed)
  obtain ⟨above, below, _, same⟩ := Run.move_some found
  rcases lowerRuns_low run listed with high | ⟨alone, small⟩
  · by_cases valid : moved.isValidChar
    · have read : (Char.ofNat moved).toNat = moved := by rw [Char.toNat_ofNat, if_pos valid]
      apply settled_of_unmoved
      · omega
      · rw [read]
        refine List.lookup_eq_none_iff.mpr fun entry tabled => ?_
        have still := Run.moved_spared (by omega) (apart entry tabled) found
        refine bne_iff_ne.mpr fun equal => ?_
        rw [equal, Run.move?, if_pos ⟨le_rfl, le_rfl, Nat.mod_one _⟩] at still
        cases still
      · rw [read]
        exact List.findSome?_eq_none_iff.mpr fun other tabled =>
          Run.moved_spared (by omega) (closed other tabled) found
    · -- What is no code point is read as the code point zero.
      have zero : Char.ofNat moved = Char.ofNat 0 := by
        rw [Char.ofNat, dif_neg valid]
        rfl
      exact zero ▸ settled_ascii (Char.ofNat 0) (by decide)
  · have letter : moved = 0x6B := by omega
    exact letter ▸ settled_ascii 'k' (by decide)

theorem settled_lowered (c : Char) : ∀ d ∈ lowerLetter c, Settled d := by
  intro d member
  rw [lowerLetter] at member
  split at member
  · next ascii => exact List.mem_singleton.mp member ▸ settled_ascii c ascii
  · next foreign =>
      rw [change] at member
      split at member
      · next codes found =>
          obtain ⟨code, inside, rfl⟩ := List.mem_map.mp member
          exact settled_listed _ (mem_of_lookup found) code inside
      · next unlisted =>
          split at member
          · next code found =>
              obtain ⟨run, listed, moved⟩ := List.exists_of_findSome?_eq_some found
              exact List.mem_singleton.mp member ▸ settled_moved listed moved
          · next unmoved =>
              exact List.mem_singleton.mp member ▸ settled_of_unmoved (by omega) unlisted unmoved

end Runs

end LetterCase

section Texts

open LetterCase

theorem settled_lowerFrom (afterLetter : Bool) (text : Text) :
    ∀ c ∈ lowerFrom afterLetter text, Settled c := by
  induction text generalizing afterLetter with
  | nil => simp [lowerFrom]
  | cons c rest ih =>
      intro d member
      rw [lowerFrom] at member
      rcases List.mem_append.mp member with here | later
      · split at here
        · rw [List.mem_singleton.mp here]
          split <;> decide
        · exact settled_lowered c d here
      · exact ih _ d later

theorem lowerFrom_settled (afterLetter : Bool) (text : Text) (settled : ∀ c ∈ text, Settled c) :
    lowerFrom afterLetter text = text := by
  induction text generalizing afterLetter with
  | nil => rfl
  | cons c rest ih =>
      obtain ⟨other, same⟩ := settled c List.mem_cons_self
      rw [lowerFrom, if_neg other, same,
        ih _ fun d member => settled d (List.mem_cons_of_mem c member)]
      rfl

/-- Lower case is reached at once. -/
theorem lower_lower (text : Text) : lower (lower text) = lower text :=
  lowerFrom_settled false _ (settled_lowerFrom false text)

theorem lowerLetter_given (c : Char) : lowerLetter c ≠ [] := by
  have listed : ∀ entry ∈ lowerExpansions, entry.2 ≠ [] := by decide
  rw [lowerLetter]
  split
  · exact List.cons_ne_nil _ _
  · rw [change]
    split
    · next codes found =>
        simpa using listed _ (mem_of_lookup found)
    · split <;> exact List.cons_ne_nil _ _

theorem lower_eq_nil_iff (text : Text) : lower text = [] ↔ text = [] := by
  cases text with
  | nil => exact iff_of_true rfl rfl
  | cons c rest =>
      refine iff_of_false ?_ (List.cons_ne_nil c rest)
      rw [lower, lowerFrom]
      split
      · exact List.cons_ne_nil _ _
      · exact fun nothing => lowerLetter_given c (List.append_eq_nil_iff.mp nothing).1

end Texts

section Letters
open LetterCase

theorem high_noLetter {c : Char} (foreign : 0x80 ≤ c.toNat) : c.isLower = false := by
  simp only [Char.isLower, UInt32.le_iff_toNat_le, Bool.and_eq_false_iff, decide_eq_false_iff_not]
  right
  simp
  omega

theorem high_noCapital {c : Char} (foreign : 0x80 ≤ c.toNat) : c.isUpper = false := by
  simp only [Char.isUpper, UInt32.le_iff_toNat_le, decide_eq_false_iff_not]
  simp
  omega

/-- Outside ASCII only the Kelvin sign has a lower case that is made of ASCII letters. -/
theorem lowerLetter_foreign (c : Char) (foreign : 0x80 ≤ c.toNat) :
    ∃ d ∈ lowerLetter c, d = 'k' ∨ d.isLower = false := by
  have listed : ∀ entry ∈ lowerExpansions, ∃ code ∈ entry.2, (Char.ofNat code).isLower = false := by
    decide
  rw [lowerLetter, if_neg (by omega), change]
  split
  · next codes found =>
      obtain ⟨code, inside, high⟩ := listed _ (mem_of_lookup found)
      exact ⟨_, List.mem_map_of_mem inside, .inr high⟩
  · split
    · next code found =>
        refine ⟨_, List.mem_singleton_self _, ?_⟩
        obtain ⟨run, tabled, moved⟩ := List.exists_of_findSome?_eq_some found
        obtain ⟨above, below, _, same⟩ := Run.move_some moved
        rcases lowerRuns_low run tabled with high | ⟨alone, small⟩
        · right
          by_cases valid : code.isValidChar
          · exact high_noLetter (by rw [Char.toNat_ofNat, if_pos valid]; omega)
          · rw [Char.ofNat, dif_neg valid]
            rfl
        · have letter : code = 0x6B := by omega
          exact .inl (by rw [letter])
    · exact ⟨c, List.mem_singleton_self c, .inr (high_noLetter foreign)⟩

theorem letters_of_lowerFrom {afterLetter : Bool} {text : Text}
    (each : ∀ d ∈ lowerFrom afterLetter text, d ≠ 'k' ∧ d.isLower = true) :
    ∀ c ∈ text, c.isAlpha = true := by
  induction text generalizing afterLetter with
  | nil => simp
  | cons c rest ih =>
      rw [lowerFrom, List.forall_mem_append] at each
      obtain ⟨here, later⟩ := each
      refine List.forall_mem_cons.mpr ⟨?_, ih later⟩
      by_cases sigma : c = 'Σ'
      · rw [if_pos sigma] at here
        split at here <;> exact absurd (here _ List.mem_cons_self).2 (by decide)
      · rw [if_neg sigma] at here
        by_cases ascii : c.toNat < 0x80
        · rw [lowerLetter, if_pos ascii] at here
          exact Char.isLower_toLower_eq_isAlpha c ▸ (here _ List.mem_cons_self).2
        · obtain ⟨d, member, kelvin | other⟩ := lowerLetter_foreign c (by omega)
          · exact absurd kelvin (here d member).1
          · rw [(here d member).2] at other
            cases other

end Letters

end AttAssembly
