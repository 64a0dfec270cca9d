import AttAssembly.Proofs.Lexeme.Numerals
import AttAssembly.Proofs.Text.Layout

/-!
Layouts through the lexer. No blank is a digit or a part of a name, so a number or a name is read from
both layouts of a text or from neither. A comment, a label, a mnemonic and a separating comma begin
and end at code points that are not blank, so both layouts are cut at the same places, and what is cut
off are layouts of each other again.
-/

namespace AttAssembly

section Solid

/-- No blank has a number from `low` to `high`. -/
def Apart (low high : Nat) : Prop := ∀ range ∈ blankRanges, range.2 < low ∨ high < range.1

instance (low high : Nat) : Decidable (Apart low high) := inferInstanceAs (Decidable (∀ _ ∈ _, _))

theorem Apart.solid {low high : Nat} {c : Char} (apart : Apart low high) (above : low ≤ c.toNat)
    (below : c.toNat ≤ high) : isBlank c = false := by
  refine List.any_eq_false.mpr fun range listed => ?_
  have outside := apart range listed
  simp only [Bool.and_eq_true, decide_eq_true_eq]
  omega

/-- No blank is read as a digit. -/
def SolidDigits (digit? : Char → Option Nat) : Prop :=
  ∀ c d, digit? c = some d → isBlank c = false

theorem decimal_solid : SolidDigits digitValue? := by
  intro c d read
  have tens : ∀ start ∈ zeroDigits, Apart start (start + 9) := by decide +kernel
  obtain ⟨start, found, _⟩ := Option.map_eq_some_iff.mp read
  have listed := List.mem_of_find?_eq_some found
  have inside := List.find?_some found
  simp only [Bool.and_eq_true, decide_eq_true_eq] at inside
  exact (tens start listed).solid inside.1 (by omega)

theorem hexadecimal_solid : SolidDigits hexDigitValue? := by
  intro c d read
  have between {low high : Char} (inside : low ≤ c ∧ c ≤ high) (visible : 0x20 < low.toNat)
      (ascii : high.toNat < 0x7F) : isBlank c = false :=
    visible_not_blank c (lt_of_lt_of_le visible inside.1) (lt_of_le_of_lt inside.2 ascii)
  rw [hexDigitValue?] at read
  split at read
  · next digit => exact between digit (by decide) (by decide)
  · split at read
    · next small => exact between small (by decide) (by decide)
    · split at read
      · next capital => exact between capital (by decide) (by decide)
      · cases read

end Solid

section Numbers

variable {base : Nat} {digit? : Char → Option Nat}

theorem numeral_blank (solid : SolidDigits digit?) (text : Text) (hasBlank : HasBlank text) :
    numeral? base digit? text = none := by
  refine Option.eq_none_iff_forall_ne_some.mpr fun n read => ?_
  obtain ⟨c, member, blank⟩ := hasBlank
  obtain ⟨d, digit⟩ := Option.isSome_iff_exists.mp ((numeral_digits read).2 c member)
  rw [solid c d digit] at blank
  cases blank

theorem numeralPart_solid {c : Char} (part : isNumeralPart c = true) : isBlank c = false := by
  simp only [isNumeralPart, Bool.or_eq_true, decide_eq_true_eq, Option.isSome_iff_exists] at part
  rcases part with ((⟨d, read⟩ | ⟨d, read⟩) | rfl) | rfl
  · exact decimal_solid c d read
  · exact hexadecimal_solid c d read
  · rfl
  · rfl

theorem magnitude_blank (digits : Text) (hasBlank : HasBlank digits) : magnitude? digits = none := by
  refine Option.eq_none_iff_forall_ne_some.mpr fun n read => ?_
  obtain ⟨c, member, blank⟩ := hasBlank
  rw [numeralPart_solid ((magnitude_characters read).2 c member)] at blank
  cases blank

theorem literal_blank (text : Text) (hasBlank : HasBlank text) : literal? text = none := by
  rw [literal?.eq_def]
  split
  · next digits =>
      rw [magnitude_blank digits ((hasBlank_after_solid rfl).mp hasBlank)]
      rfl
  · rw [magnitude_blank _ hasBlank]
    rfl

theorem Relaid.excess {one other : Text} (relaid : Relaid one other) :
    excessDigits? (AttAssembly.trim one) = excessDigits? (AttAssembly.trim other) :=
  relaid.agree fun text hasBlank => excess_of_unread (literal_blank text hasBlank)

theorem Relaid.number {one other : Text} (relaid : Relaid one other) :
    number? one = number? other := by
  rw [number?, number?, relaid.excess, relaid.agree literal_blank]

end Numbers

section Names

theorem blank_noPart {c : Char} (blank : isBlank c = true) : isNamePart c = false := by
  by_contra part
  rw [namePart_not_blank c (by simpa using part)] at blank
  cases blank

theorem blank_noStart {c : Char} (blank : isBlank c = true) : isNameStart c = false := by
  by_contra start
  have part := isNameStart_part c (by simpa using start)
  rw [blank_noPart blank] at part
  cases part

theorem name_blank (text : Text) (hasBlank : HasBlank text) : isName text = false := by
  by_contra named
  obtain ⟨c, member, blank⟩ := hasBlank
  have part := isName_parts text (by simpa using named) c member
  rw [blank_noPart blank] at part
  cases part

namespace Relaid

variable {one other : Text}

theorem isLabelName (relaid : Relaid one other) :
    AttAssembly.isLabelName (AttAssembly.trim one) =
      AttAssembly.isLabelName (AttAssembly.trim other) := by
  rw [isLabelName_trimmed _ (trimmed_trim one), isLabelName_trimmed _ (trimmed_trim other)]
  exact relaid.agree name_blank

theorem leadingName (relaid : Relaid one other) :
    (AttAssembly.leadingName one).1 = (AttAssembly.leadingName other).1 ∧
      Relaid (AttAssembly.leadingName one).2 (AttAssembly.leadingName other).2 := by
  cases relaid with
  | nil => exact ⟨rfl, .nil⟩
  | mark c solid plain rest =>
      obtain ⟨parts, after⟩ := rest.cut_before isNamePart fun d blank => blank_noPart blank
      rw [AttAssembly.leadingName, AttAssembly.leadingName]
      split
      · exact ⟨congrArg (c :: ·) parts, after⟩
      · exact ⟨rfl, .mark c solid plain rest⟩
  | gap here there rest =>
      have whole := gap here there rest
      obtain ⟨c, tail, rfl, blank⟩ := here.head
      obtain ⟨d, others, rfl, also⟩ := there.head
      rw [leadingName_none _ (by rintro e ⟨⟩; exact blank_noStart blank),
        leadingName_none _ (by rintro e ⟨⟩; exact blank_noStart also)]
      exact ⟨rfl, whole⟩

end Relaid

end Names

section Cuts

theorem IsGap.contained {gap : Text} (isGap : IsGap gap) : SelfContained gap :=
  selfContained_of_quiet gap fun c member => blank_quiet c (isGap.blank c member)

namespace Relaid

variable {one other : Text}

theorem beforeComment (relaid : Relaid one other) :
    Relaid (AttAssembly.beforeComment .outside one) (AttAssembly.beforeComment .outside other) := by
  induction relaid with
  | nil => exact .nil
  | mark c solid plain rest ih =>
      have stays : Quoting.next .outside c = .outside := by simp [Quoting.next, plain]
      rw [AttAssembly.beforeComment, AttAssembly.beforeComment, stays]
      split
      · exact .nil
      · exact .mark c solid plain ih
  | gap here there rest ih =>
      rw [here.contained.beforeComment_append, there.contained.beforeComment_append]
      exact .gap here there ih

theorem stripComment (relaid : Relaid one other) :
    RelaidFromMark (AttAssembly.stripComment one) (AttAssembly.stripComment other) :=
  relaid.beforeComment.trim_fromMark

theorem beginsWithLabel {name rest : Text} (named : isName name = true)
    (relaid : Relaid (name ++ ':' :: rest) other) :
    ∃ more, other = name ++ ':' :: more ∧ Relaid rest more := by
  have solid : ∀ c ∈ name, isBlank c = false :=
    fun c member => namePart_not_blank c (isName_parts name named c member)
  obtain ⟨after, rfl, colon⟩ := relaid.of_word solid
  obtain ⟨more, rfl, behind⟩ := colon.of_mark rfl
  exact ⟨more, rfl, behind⟩

theorem splitLabel (relaid : Relaid one other) :
    (AttAssembly.splitLabel one).1 = (AttAssembly.splitLabel other).1 ∧
      Relaid (AttAssembly.splitLabel one).2 (AttAssembly.splitLabel other).2 := by
  by_cases labelled : BeginsWithLabel one
  · obtain ⟨name, rest, named, rfl⟩ := labelled
    obtain ⟨more, rfl, behind⟩ := relaid.beginsWithLabel named
    rw [splitLabel_colon name rest named behind.oneLine,
      splitLabel_colon name more named behind.symm.oneLine]
    exact ⟨rfl, behind.trim⟩
  · have unlabelled : ¬ BeginsWithLabel other := by
      rintro ⟨name, rest, named, rfl⟩
      obtain ⟨more, rfl, _⟩ := relaid.symm.beginsWithLabel named
      exact labelled ⟨name, more, named, rfl⟩
    rw [splitLabel_plain one labelled, splitLabel_plain other unlabelled]
    exact ⟨rfl, relaid⟩

theorem splitMnemonic (relaid : Relaid one other) :
    (AttAssembly.splitMnemonic one).1 = (AttAssembly.splitMnemonic other).1 ∧
      Relaid (AttAssembly.splitMnemonic one).2 (AttAssembly.splitMnemonic other).2 := by
  obtain ⟨word, after⟩ := relaid.trim.cut_before (!isBlank ·) fun c blank => by simp [blank]
  exact ⟨congrArg lower word, after.trimLeft⟩

theorem collapseBlanks (relaid : Relaid one other) :
    AttAssembly.collapseBlanks one = AttAssembly.collapseBlanks other :=
  congrArg (joinWith [' ']) relaid.words

theorem splitAtCommas (relaid : Relaid one other) (depth : Nat) :
    List.Forall₂ Relaid
      ((AttAssembly.splitAtCommas ⟨.outside, depth⟩ one).1 ::
        (AttAssembly.splitAtCommas ⟨.outside, depth⟩ one).2)
      ((AttAssembly.splitAtCommas ⟨.outside, depth⟩ other).1 ::
        (AttAssembly.splitAtCommas ⟨.outside, depth⟩ other).2) := by
  induction relaid generalizing depth with
  | nil => exact .cons .nil .nil
  | mark c solid plain rest ih =>
      -- Without double quotes only the depth can change.
      obtain ⟨deeper, next⟩ : ∃ deeper, Scan.next ⟨.outside, depth⟩ c = ⟨.outside, deeper⟩ :=
        ⟨(Scan.next ⟨.outside, depth⟩ c).depth, by simp [Scan.next, Quoting.next, plain]⟩
      have later := ih deeper
      cases separating : Scan.separates ⟨.outside, depth⟩ c with
      | true =>
          rw [splitAtCommas_separator separating, splitAtCommas_separator separating, next]
          exact .cons .nil later
      | false =>
          rw [splitAtCommas_cons separating, splitAtCommas_cons separating, next]
          obtain ⟨first, others⟩ := List.forall₂_cons.mp later
          exact .cons (.mark c solid plain first) others
  | gap here there rest ih =>
      have passes {gap : Text} (isGap : IsGap gap) :
          Scan.Passes ⟨.outside, depth⟩ gap ⟨.outside, depth⟩ :=
        passes_quiet depth gap fun c member => .inl (blank_quiet c (isGap.blank c member))
      rw [splitAtCommas_append (passes here).whole, splitAtCommas_append (passes there).whole,
        (passes here).after, (passes there).after]
      obtain ⟨first, others⟩ := List.forall₂_cons.mp (ih depth)
      exact .cons (.gap here there first) others

theorem splitPieces (relaid : Relaid one other) :
    List.Forall₂ RelaidFromMark (AttAssembly.splitPieces one) (AttAssembly.splitPieces other) := by
  have trimmed := forall₂_trim (relaid.splitAtCommas 0)
  refine List.rel_filter (fun first second fromMark => ?_) trimmed
  simpa using not_congr fromMark.relaid.eq_nil_iff

end Relaid

end Cuts

end AttAssembly
