import AttAssembly.Proofs.Text.LetterCase

/-!
Upper case where names in capitals are compared. Of all letters outside ASCII only the long s and the
dotless i have one ASCII capital for their upper case, and those with several capitals make pairs that
few names have. So a text has such a name for its upper case exactly if it spells the name in letters of
either case, with these two letters in the places of S and I.
-/

namespace AttAssembly

open LetterCase

/-- The ASCII letter that a code point is taken for in a name. -/
def plainLetter (c : Char) : Char := if c = 'ſ' then 's' else if c = 'ı' then 'i' else c

/-- The capital that a code point is read as. -/
def readCapital (c : Char) : Char := (plainLetter c).toUpper

/-- No letter has a part of the name for its upper case, unless it is one capital. -/
def Unligated (name : Text) : Prop :=
  ∀ entry ∈ upperExpansions, ¬ entry.2.map Char.ofNat <:+: name

section Letters

variable {c d : Char}

theorem readCapital_plain (long : c ≠ 'ſ') (dotless : c ≠ 'ı') : readCapital c = c.toUpper := by
  rw [readCapital, plainLetter, if_neg long, if_neg dotless]

/-- Two runs lead into ASCII, of a single letter each. -/
theorem upperRuns_low : upperRuns.all (fun run => decide (0x80 ≤ run.low + run.distance ∨
    run = ⟨0x17F, 0x17F, 1, -300⟩ ∨ run = ⟨0x131, 0x131, 1, -232⟩)) = true := by
  decide

theorem upperLetter_foreign (foreign : 0x80 ≤ c.toNat) (long : c ≠ 'ſ') (dotless : c ≠ 'ı') :
    (∃ d, upperLetter c = [d] ∧ d.isUpper = false) ∨
      ∃ entry ∈ upperExpansions, upperLetter c = entry.2.map Char.ofNat := by
  rw [upperLetter, if_neg (by omega), change]
  split
  · next codes found => exact .inr ⟨_, mem_of_lookup found, rfl⟩
  · left
    split
    · next code found =>
        refine ⟨_, rfl, ?_⟩
        obtain ⟨run, tabled, moved⟩ := List.exists_of_findSome?_eq_some found
        obtain ⟨above, below, _, same⟩ := Run.move_some moved
        have other {code : Nat} {mark : Char} (apart : c ≠ mark) (here : mark.toNat = code)
            (low : code ≤ c.toNat) (high : c.toNat ≤ code) : False :=
          apart (Char.toNat_inj.mp (by omega))
        rcases of_decide_eq_true (List.all_eq_true.mp upperRuns_low run tabled) with high | rfl | rfl
        · by_cases valid : code.isValidChar
          · exact high_noCapital (by rw [Char.toNat_ofNat, if_pos valid]; omega)
          · rw [Char.ofNat, dif_neg valid]
            rfl
        · exact (other long rfl above below).elim
        · exact (other dotless rfl above below).elim
    · exact ⟨c, rfl, high_noCapital foreign⟩

theorem upperLetter_long : upperLetter 'ſ' = [readCapital 'ſ'] := by decide

theorem upperLetter_dotless : upperLetter 'ı' = [readCapital 'ı'] := by decide

theorem upperLetter_ascii (ascii : c.toNat < 0x80) : upperLetter c = [readCapital c] := by
  have other {mark : Char} (foreign : 0x80 ≤ mark.toNat) : c ≠ mark := by
    rintro rfl
    omega
  rw [upperLetter, if_pos ascii, readCapital_plain (other (by decide)) (other (by decide))]

/-- What is read as a capital has this capital for its upper case. -/
theorem upperLetter_capital (capital : (readCapital c).isUpper = true) :
    upperLetter c = [readCapital c] := by
  by_cases long : c = 'ſ'
  · exact long ▸ upperLetter_long
  by_cases dotless : c = 'ı'
  · exact dotless ▸ upperLetter_dotless
  refine upperLetter_ascii (Nat.lt_of_not_le fun foreign => ?_)
  rw [readCapital_plain long dotless, Char.isUpper_toUpper_eq_isAlpha, Char.isAlpha,
    high_noCapital foreign, high_noLetter foreign] at capital
  cases capital

end Letters

section Names

variable {name : Text}

/-- Of the letters with several capitals for their upper case one has SS, all others an F or a T. -/
theorem expansions_capital : upperExpansions.all (fun entry => decide (entry.2 = [0x53, 0x53]) ||
    (entry.2.map Char.ofNat).any fun d => !d.isUpper || d = 'F' || d = 'T') = true := by
  decide

theorem unligated_of_distinct (capitals : ∀ d ∈ name, d.isUpper = true) (distinct : name.Nodup)
    (others : 'F' ∉ name ∧ 'T' ∉ name) : Unligated name := by
  intro entry tabled inside
  have checked := List.all_eq_true.mp expansions_capital entry tabled
  rw [Bool.or_eq_true, decide_eq_true_eq, List.any_eq_true] at checked
  rcases checked with double | ⟨d, among, foreign⟩
  · have twice := distinct.sublist inside.sublist
    rw [double] at twice
    exact absurd twice (by decide)
  · have member : d ∈ name := inside.subset among
    have other (mark : Char) (absent : mark ∉ name) : d ≠ mark := fun same => absent (same ▸ member)
    simp [capitals d member, other 'F' others.1, other 'T' others.2] at foreign

/-- What a name in capitals begins with is one capital, and the code point is read as it. -/
theorem upperLetter_front {c : Char} {rest : Text}
    (capitals : ∀ d ∈ upperLetter c ++ rest, d.isUpper = true)
    (unligated : Unligated (upperLetter c ++ rest)) : upperLetter c = [readCapital c] := by
  by_cases long : c = 'ſ'
  · exact long ▸ upperLetter_long
  by_cases dotless : c = 'ı'
  · exact dotless ▸ upperLetter_dotless
  refine upperLetter_ascii (Nat.lt_of_not_le fun foreign => ?_)
  rcases upperLetter_foreign foreign long dotless with ⟨d, same, other⟩ | ⟨entry, tabled, same⟩
  · have capital := capitals d (by simp [same])
    rw [other] at capital
    cases capital
  · exact unligated entry tabled (same ▸ (List.prefix_append _ _).isInfix)

/-- Reading letter by letter is the same as upper case where such a name is asked for. -/
theorem upper_eq_iff (capitals : ∀ d ∈ name, d.isUpper = true) (unligated : Unligated name)
    (word : Text) : upper word = name ↔ word.map readCapital = name := by
  induction word generalizing name with
  | nil => exact Iff.rfl
  | cons c rest ih =>
      have front : upper (c :: rest) = upperLetter c ++ upper rest := List.flatMap_cons
      have later {first tail : Text} (capitals : ∀ d ∈ first ++ tail, d.isUpper = true)
          (unligated : Unligated (first ++ tail)) : upper rest = tail ↔ rest.map readCapital = tail :=
        ih (fun d member => capitals d (List.mem_append_right first member)) fun entry tabled inside =>
          unligated entry tabled (inside.trans (List.suffix_append _ _).isInfix)
      rw [front, List.map_cons]
      constructor
      · rintro rfl
        rw [(later capitals unligated).mp rfl, upperLetter_front capitals unligated,
          List.singleton_append]
      · rintro rfl
        rw [upperLetter_capital (capitals _ List.mem_cons_self), List.singleton_append,
          (@later [readCapital c] _ capitals unligated).mpr rfl]

end Names

end AttAssembly
