import AttAssembly.Proofs.Text.Cuts
import AttAssembly.Proofs.Text.Trimming

/-!
Layout of a text: where its blanks are. Two texts are laid out anew when they have the same code points
that are not blank, in the same order, and blanks between the same two of them, no matter which and
how many. Texts on one line with the same words are such texts, as far as what is between their words
is concerned. Layouts are kept by reversing, trimming and cutting, and a part without blanks is the
same in both.
-/

namespace AttAssembly

/-- A run of blanks on a line. -/
structure IsGap (gap : Text) : Prop where
  given : gap ≠ []
  blank : ∀ c ∈ gap, isBlank c = true
  oneLine : '\n' ∉ gap

/-- The text and another layout of it. Both lie on one line and hold no double quote. -/
inductive Relaid : Text → Text → Prop
  | nil : Relaid [] []
  | mark (c : Char) (solid : isBlank c = false) (plain : c ≠ '"') {one other : Text}
      (rest : Relaid one other) : Relaid (c :: one) (c :: other)
  | gap {first second one other : Text} (here : IsGap first) (there : IsGap second)
      (rest : Relaid one other) : Relaid (first ++ one) (second ++ other)

/-- Layouts that do not begin with blanks. -/
inductive RelaidFromMark : Text → Text → Prop
  | nil : RelaidFromMark [] []
  | mark (c : Char) (solid : isBlank c = false) (plain : c ≠ '"') {one other : Text}
      (rest : Relaid one other) : RelaidFromMark (c :: one) (c :: other)

def HasBlank (text : Text) : Prop := ∃ c ∈ text, isBlank c = true

theorem hasBlank_after_solid {c : Char} {rest : Text} (solid : isBlank c = false) :
    HasBlank (c :: rest) ↔ HasBlank rest := by
  simp [HasBlank, solid]

theorem IsGap.head {gap : Text} (isGap : IsGap gap) :
    ∃ c rest, gap = c :: rest ∧ isBlank c = true := by
  cases gap with
  | nil => exact absurd rfl isGap.given
  | cons c rest => exact ⟨c, rest, rfl, isGap.blank c List.mem_cons_self⟩

theorem IsGap.reverse {gap : Text} (isGap : IsGap gap) : IsGap gap.reverse where
  given := by simpa using isGap.given
  blank := fun c member => isGap.blank c (List.mem_reverse.mp member)
  oneLine := fun feed => isGap.oneLine (List.mem_reverse.mp feed)

theorem map_eq_of_forall₂ {Item Value : Type} {related : Item → Item → Prop}
    {items others : List Item} {value : Item → Value} (each : List.Forall₂ related items others)
    (same : ∀ one other, related one other → value one = value other) :
    items.map value = others.map value := by
  rw [← List.forall₂_eq_eq_eq, List.forall₂_map_left_iff, List.forall₂_map_right_iff]
  exact each.imp same

namespace Relaid

variable {one other first second : Text}

theorem symm (relaid : Relaid one other) : Relaid other one := by
  induction relaid with
  | nil => exact .nil
  | mark c solid plain rest ih => exact .mark c solid plain ih
  | gap here there rest ih => exact .gap there here ih

theorem append (relaid : Relaid one other) (more : Relaid first second) :
    Relaid (one ++ first) (other ++ second) := by
  induction relaid with
  | nil => exact more
  | mark c solid plain rest ih => exact .mark c solid plain ih
  | gap here there rest ih =>
      rw [List.append_assoc, List.append_assoc]
      exact .gap here there ih

theorem reverse (relaid : Relaid one other) : Relaid one.reverse other.reverse := by
  induction relaid with
  | nil => exact .nil
  | mark c solid plain rest ih =>
      rw [List.reverse_cons, List.reverse_cons]
      exact ih.append (.mark c solid plain .nil)
  | gap here there rest ih =>
      have turned := gap here.reverse there.reverse .nil
      rw [List.append_nil, List.append_nil] at turned
      rw [List.reverse_append, List.reverse_append]
      exact ih.append turned

theorem word {text : Text} (solid : ∀ c ∈ text, isBlank c = false) (plain : '"' ∉ text)
    (rest : Relaid one other) : Relaid (text ++ one) (text ++ other) := by
  induction text with
  | nil => exact rest
  | cons c tail ih =>
      apply mark c (solid c List.mem_cons_self)
      · rintro rfl
        exact plain List.mem_cons_self
      · exact ih (fun d member => solid d (List.mem_cons_of_mem c member))
          fun quote => plain (List.mem_cons_of_mem c quote)

theorem oneLine (relaid : Relaid one other) : '\n' ∉ one := by
  induction relaid with
  | nil => simp
  | mark c solid plain rest ih =>
      have ordinary : '\n' ≠ c := by
        rintro rfl
        exact absurd solid (by decide)
      simp [ordinary, ih]
  | gap here there rest ih => simp [here.oneLine, ih]

theorem unquoted (relaid : Relaid one other) : '"' ∉ one := by
  induction relaid with
  | nil => simp
  | mark c solid plain rest ih => simp [plain.symm, ih]
  | @gap first second one other here there rest ih =>
      have visible : '"' ∉ first := fun quote => blank_ne (here.blank '"' quote) rfl rfl
      simp [visible, ih]

theorem mem_of_mem {c : Char} (relaid : Relaid one other) (solid : isBlank c = false)
    (member : c ∈ one) : c ∈ other := by
  induction relaid with
  | nil => exact member
  | mark d _ _ rest ih =>
      rcases List.mem_cons.mp member with rfl | later
      · exact List.mem_cons_self
      · exact List.mem_cons_of_mem d (ih later)
  | gap here there rest ih =>
      rcases List.mem_append.mp member with blank | later
      · exact absurd rfl (blank_ne (here.blank c blank) solid)
      · exact List.mem_append_right _ (ih later)

theorem eq_nil_iff (relaid : Relaid one other) : one = [] ↔ other = [] := by
  cases relaid with
  | nil => simp
  | mark c solid plain rest => simp
  | gap here there rest => simp [here.given, there.given]

/-- Layouts that differ have blanks, both of them. -/
theorem eq_or_blank (relaid : Relaid one other) : one = other ∨ HasBlank one ∧ HasBlank other := by
  induction relaid with
  | nil => exact .inl rfl
  | mark c solid plain rest ih =>
      rcases ih with rfl | ⟨⟨d, here, blank⟩, e, there, also⟩
      · exact .inl rfl
      · exact .inr ⟨⟨d, List.mem_cons_of_mem c here, blank⟩, e, List.mem_cons_of_mem c there, also⟩
  | gap here there rest ih =>
      obtain ⟨c, tail, rfl, blank⟩ := here.head
      obtain ⟨d, others, rfl, also⟩ := there.head
      exact .inr ⟨⟨c, List.mem_cons_self, blank⟩, d, List.mem_cons_self, also⟩

theorem fromMark (relaid : Relaid one other) (front : ∀ c ∈ one.head?, isBlank c = false) :
    RelaidFromMark one other := by
  cases relaid with
  | nil => exact .nil
  | mark c solid plain rest => exact .mark c solid plain rest
  | gap here there rest =>
      obtain ⟨c, tail, rfl, blank⟩ := here.head
      exact absurd rfl (blank_ne blank (front c rfl))

theorem of_mark {c : Char} (solid : isBlank c = false) (relaid : Relaid (c :: one) other) :
    ∃ rest, other = c :: rest ∧ Relaid one rest := by
  generalize written : c :: one = whole at relaid
  cases relaid with
  | nil => cases written
  | mark d also plain rest =>
      obtain ⟨rfl, rfl⟩ := List.cons.inj written
      exact ⟨_, rfl, rest⟩
  | gap here there rest =>
      obtain ⟨d, tail, rfl, blank⟩ := here.head
      obtain ⟨rfl, _⟩ := List.cons.inj written
      exact absurd rfl (blank_ne blank solid)

theorem of_word {text : Text} (solid : ∀ c ∈ text, isBlank c = false)
    (relaid : Relaid (text ++ one) other) : ∃ rest, other = text ++ rest ∧ Relaid one rest := by
  induction text generalizing other with
  | nil => exact ⟨other, rfl, relaid⟩
  | cons c tail ih =>
      obtain ⟨more, rfl, after⟩ := of_mark (solid c List.mem_cons_self) relaid
      obtain ⟨rest, rfl, last⟩ := ih (fun d member => solid d (List.mem_cons_of_mem c member)) after
      exact ⟨rest, rfl, last⟩

section Trimming

theorem trimLeft (relaid : Relaid one other) :
    Relaid (AttAssembly.trimLeft one) (AttAssembly.trimLeft other) := by
  induction relaid with
  | nil => exact .nil
  | mark c solid plain rest ih =>
      rw [trimLeft_eq_self _ (by rintro d ⟨⟩; exact solid),
        trimLeft_eq_self _ (by rintro d ⟨⟩; exact solid)]
      exact .mark c solid plain rest
  | gap here there rest ih =>
      rw [AttAssembly.trimLeft, AttAssembly.trimLeft, List.dropWhile_append_of_pos here.blank,
        List.dropWhile_append_of_pos there.blank]
      exact ih

theorem trim (relaid : Relaid one other) :
    Relaid (AttAssembly.trim one) (AttAssembly.trim other) := by
  rw [AttAssembly.trim, AttAssembly.trim, trimRight_eq, trimRight_eq]
  exact relaid.trimLeft.reverse.trimLeft.reverse

theorem trim_fromMark (relaid : Relaid one other) :
    RelaidFromMark (AttAssembly.trim one) (AttAssembly.trim other) :=
  relaid.trim.fromMark (trimmed_trim one).1

theorem forall₂_trim {parts others : List Text} (each : List.Forall₂ Relaid parts others) :
    List.Forall₂ RelaidFromMark (parts.map AttAssembly.trim) (others.map AttAssembly.trim) := by
  rw [List.forall₂_map_left_iff, List.forall₂_map_right_iff]
  exact each.imp fun _ _ part => part.trim_fromMark

/-- What is looked up after trimming, and is the same for all texts with blanks left inside, does not
    depend on the layout. -/
theorem agree {α : Type} {find : Text → α} {refused : α}
    (refuses : ∀ text, HasBlank text → find text = refused) (relaid : Relaid one other) :
    find (AttAssembly.trim one) = find (AttAssembly.trim other) := by
  rcases relaid.trim.eq_or_blank with same | ⟨here, there⟩
  · rw [same]
  · rw [refuses _ here, refuses _ there]

end Trimming

section Cutting

/-- A cut that blanks do not stop. -/
theorem cut_through (keep : Char → Bool) (through : ∀ c, isBlank c = true → keep c = true)
    (relaid : Relaid one other) :
    Relaid (one.takeWhile keep) (other.takeWhile keep) ∧
      RelaidFromMark (one.dropWhile keep) (other.dropWhile keep) := by
  induction relaid with
  | nil => exact ⟨.nil, .nil⟩
  | mark c solid plain rest ih =>
      by_cases kept : keep c = true
      · simp only [List.takeWhile_cons_of_pos kept, List.dropWhile_cons_of_pos kept]
        exact ⟨.mark c solid plain ih.1, ih.2⟩
      · simp only [List.takeWhile_cons_of_neg kept, List.dropWhile_cons_of_neg kept]
        exact ⟨.nil, .mark c solid plain rest⟩
  | gap here there rest ih =>
      have here_ := fun c member => through c (here.blank c member)
      have there_ := fun c member => through c (there.blank c member)
      rw [List.takeWhile_append_of_pos here_, List.takeWhile_append_of_pos there_,
        List.dropWhile_append_of_pos here_, List.dropWhile_append_of_pos there_]
      exact ⟨.gap here there ih.1, ih.2⟩

/-- A cut at the first blank or before it. -/
theorem cut_before (keep : Char → Bool) (stops : ∀ c, isBlank c = true → keep c = false)
    (relaid : Relaid one other) :
    one.takeWhile keep = other.takeWhile keep ∧
      Relaid (one.dropWhile keep) (other.dropWhile keep) := by
  induction relaid with
  | nil => exact ⟨rfl, .nil⟩
  | mark c solid plain rest ih =>
      by_cases kept : keep c = true
      · simp only [List.takeWhile_cons_of_pos kept, List.dropWhile_cons_of_pos kept]
        exact ⟨congrArg (c :: ·) ih.1, ih.2⟩
      · simp only [List.takeWhile_cons_of_neg kept, List.dropWhile_cons_of_neg kept]
        exact ⟨trivial, .mark c solid plain rest⟩
  | gap here there rest ih =>
      have whole := gap here there rest
      obtain ⟨c, tail, rfl, blank⟩ := here.head
      obtain ⟨d, others, rfl, also⟩ := there.head
      rw [List.cons_append, List.cons_append] at whole ⊢
      rw [List.takeWhile_cons_of_neg (by simp [stops c blank]),
        List.takeWhile_cons_of_neg (by simp [stops d also]),
        List.dropWhile_cons_of_neg (by simp [stops c blank]),
        List.dropWhile_cons_of_neg (by simp [stops d also])]
      exact ⟨rfl, whole⟩

theorem splitParts (separates : Char → Bool)
    (joins : ∀ c, isBlank c = true → separates c = false) (relaid : Relaid one other) :
    List.Forall₂ Relaid (AttAssembly.splitParts separates one)
      (AttAssembly.splitParts separates other) := by
  induction relaid with
  | nil => exact .cons .nil .nil
  | mark c solid plain rest ih =>
      cases hit : separates c with
      | true =>
          rw [splitParts_separator _ c _ hit, splitParts_separator _ c _ hit]
          exact .cons .nil ih
      | false =>
          rw [splitParts_ordinary _ c _ hit, splitParts_ordinary _ c _ hit]
          obtain ⟨first, others⟩ := List.forall₂_cons.mp ih
          exact .cons (.mark c solid plain first) others
  | gap here there rest ih =>
      rw [AttAssembly.splitParts, AttAssembly.splitParts,
        splitWhere_append separates _ _ fun c member => joins c (here.blank c member),
        splitWhere_append separates _ _ fun c member => joins c (there.blank c member)]
      obtain ⟨first, others⟩ := List.forall₂_cons.mp ih
      exact .cons (.gap here there first) others

end Cutting

end Relaid

namespace RelaidFromMark

variable {one other : Text}

theorem relaid (fromMark : RelaidFromMark one other) : Relaid one other := by
  cases fromMark with
  | nil => exact .nil
  | mark c solid plain rest => exact .mark c solid plain rest

theorem tail (fromMark : RelaidFromMark one other) : Relaid one.tail other.tail := by
  cases fromMark with
  | nil => exact .nil
  | mark c solid plain rest => exact rest

theorem head? (fromMark : RelaidFromMark one other) : one.head? = other.head? := by
  cases fromMark <;> rfl

end RelaidFromMark

section Words

theorem words_eq (text : Text) :
    words text = ((splitWhere isBlank text).1 :: (splitWhere isBlank text).2).filter (· ≠ []) := rfl

theorem words_append_blank (front rest : Text) (c : Char) (blank : isBlank c = true) :
    words (front ++ c :: rest) = words front ++ words rest := by
  have parts := splitParts_append isBlank front rest c blank
  exact (congrArg (List.filter (· ≠ [])) parts).trans (List.filter_append ..)

theorem words_after_blanks (gap rest : Text) (blank : ∀ c ∈ gap, isBlank c = true) :
    words (gap ++ rest) = words rest := by
  induction gap with
  | nil => rfl
  | cons c tail ih =>
      have here := words_append_blank [] (tail ++ rest) c (blank c List.mem_cons_self)
      rw [List.cons_append]
      exact here.trans (ih fun d member => blank d (List.mem_cons_of_mem c member))

theorem words_solid (word : Text) (solid : ∀ c ∈ word, isBlank c = false) (written : word ≠ []) :
    words word = [word] := by
  rw [words_eq, splitWhere_joined isBlank word solid]
  simp [written]

theorem words_blank (text : Text) (blank : ∀ c ∈ text, isBlank c = true) : words text = [] := by
  have nothing := words_after_blanks text [] blank
  rwa [List.append_nil] at nothing

theorem words_trim (text : Text) : words (trim text) = words text := by
  obtain ⟨before, after, whole, front, back⟩ := trim_within text
  have ended (kept : Text) : words (kept ++ after) = words kept := by
    cases after with
    | nil => rw [List.append_nil]
    | cons c rest =>
        rw [words_append_blank kept rest c (back c List.mem_cons_self),
          words_blank rest fun d member => back d (List.mem_cons_of_mem c member), List.append_nil]
  conv_rhs => rw [whole, ended, words_after_blanks before _ front]

theorem word_solid {text : Text} : ∀ word ∈ words text,
    word ≠ [] ∧ ∀ c ∈ word, isBlank c = false := by
  intro word member
  obtain ⟨part, written⟩ := List.mem_filter.mp member
  exact ⟨of_decide_eq_true written, part_avoids isBlank text word part⟩

theorem mem_words {text : Text} {c : Char} (member : c ∈ text) :
    isBlank c = true ∨ ∃ word ∈ words text, c ∈ word := by
  refine (mem_part isBlank member).imp_right fun ⟨part, among, inside⟩ => ⟨part, ?_, inside⟩
  exact List.mem_filter.mpr ⟨among, decide_eq_true (List.ne_nil_of_mem inside)⟩

theorem words_spaced (parts : List Text)
    (each : ∀ part ∈ parts, part ≠ [] ∧ ∀ c ∈ part, isBlank c = false) :
    words (joinWith [' '] parts) = parts := by
  induction parts with
  | nil => rfl
  | cons first others ih =>
      obtain ⟨written, solid⟩ := each first List.mem_cons_self
      have later := ih fun part member => each part (List.mem_cons_of_mem first member)
      cases others with
      | nil =>
          rw [joinWith, List.intercalate_singleton]
          exact words_solid first solid written
      | cons second rest =>
          have spaced : joinWith [' '] (first :: second :: rest) =
              first ++ ' ' :: joinWith [' '] (second :: rest) := by simp [joinWith]
          rw [spaced, words_append_blank _ _ ' ' rfl, words_solid first solid written, later,
            List.singleton_append]

theorem words_collapseBlanks (text : Text) : words (collapseBlanks text) = words text :=
  words_spaced (words text) word_solid

theorem words_eq_nil_iff (text : Text) : words text = [] ↔ ∀ c ∈ text, isBlank c = true := by
  refine ⟨fun nothing c member => ?_, words_blank text⟩
  refine (mem_words member).resolve_right ?_
  simp [nothing]

/-- The text taken apart at its first word. -/
structure LeadingWord (text gap word rest : Text) : Prop where
  whole : text = gap ++ (word ++ rest)
  blank : ∀ c ∈ gap, isBlank c = true
  solid : ∀ c ∈ word, isBlank c = false
  written : word ≠ []
  stop : ∀ c ∈ rest.head?, isBlank c = true

theorem LeadingWord.words {text gap word rest : Text} (leads : LeadingWord text gap word rest) :
    AttAssembly.words text = word :: AttAssembly.words rest := by
  have first := words_solid word leads.solid leads.written
  rw [leads.whole, words_after_blanks gap _ leads.blank]
  cases rest with
  | nil =>
      rw [List.append_nil, first]
      rfl
  | cons c tail =>
      have blank : isBlank c = true := leads.stop c rfl
      have later := words_after_blanks [c] tail (List.forall_mem_singleton.mpr blank)
      rw [List.singleton_append] at later
      rw [words_append_blank word tail c blank, first, later, List.singleton_append]

theorem LeadingWord.trim {text gap word rest : Text} (leads : LeadingWord text gap word rest) :
    AttAssembly.trim text = word ++ trimRight rest := by
  rw [leads.whole, trim_after_blanks gap _ leads.blank,
    (trimmed_of_solid leads.solid).trim_append leads.written]

theorem LeadingWord.isGap {text gap word rest : Text} (leads : LeadingWord text gap word rest)
    (front : ∀ c ∈ text.head?, isBlank c = true) (oneLine : '\n' ∉ text) : IsGap gap := by
  rw [leads.whole] at front oneLine
  refine ⟨?_, leads.blank, fun feed => oneLine (List.mem_append_left _ feed)⟩
  rintro rfl
  obtain ⟨c, tail, rfl⟩ := List.exists_cons_of_ne_nil leads.written
  exact blank_ne (front c rfl) (leads.solid c List.mem_cons_self) rfl

theorem blank_or_leadingWord (text : Text) :
    (∀ c ∈ text, isBlank c = true) ∨ ∃ gap word rest, LeadingWord text gap word rest := by
  by_cases nothing : trim text = []
  · exact .inl ((trim_eq_nil_iff text).mp nothing)
  · have behind : trimLeft text ≠ [] := by
      intro gone
      rw [trim, gone] at nothing
      exact nothing rfl
    refine .inr ⟨text.takeWhile isBlank, (trimLeft text).takeWhile (!isBlank ·),
      (trimLeft text).dropWhile (!isBlank ·), ?_, ?_, ?_, ?_, ?_⟩
    · rw [List.takeWhile_append_dropWhile, trimLeft, List.takeWhile_append_dropWhile]
    · exact fun c member => List.mem_takeWhile_imp member
    · exact fun c member => by simpa using List.mem_takeWhile_imp member
    · obtain ⟨c, tail, starts⟩ := List.exists_cons_of_ne_nil behind
      have solid := trimLeft_front text c (by rw [starts]; rfl)
      simp [starts, solid]
    · intro c first
      have stopped := List.head?_dropWhile_not (!isBlank ·) (trimLeft text)
      rw [Option.mem_def.mp first] at stopped
      simpa using stopped

theorem leadingWord_of_trimmed {text : Text} (trimmed : Trimmed text) (written : text ≠ []) :
    ∃ gap word rest, LeadingWord text gap word rest := by
  refine (blank_or_leadingWord text).resolve_left fun blank => written ?_
  rw [← trim_eq_self trimmed, (trim_eq_nil_iff text).mpr blank]

theorem Relaid.words {one other : Text} (relaid : Relaid one other) :
    AttAssembly.words one = AttAssembly.words other := by
  -- The first part of a text may go on with what stands before it, so it is compared by itself.
  have parts : (splitWhere isBlank one).1 = (splitWhere isBlank other).1 ∧
      (splitWhere isBlank one).2.filter (· ≠ []) = (splitWhere isBlank other).2.filter (· ≠ []) := by
    induction relaid with
    | nil => exact ⟨rfl, rfl⟩
    | mark c solid plain rest ih =>
        rw [splitWhere, splitWhere, solid]
        exact ⟨congrArg (c :: ·) ih.1, ih.2⟩
    | @gap first second one other here there rest ih =>
        have same : AttAssembly.words one = AttAssembly.words other := by
          rw [words_eq, words_eq, List.filter_cons, List.filter_cons, ih.1, ih.2]
        have broken {gap text : Text} (isGap : IsGap gap) :
            (splitWhere isBlank (gap ++ text)).1 = [] ∧
              (splitWhere isBlank (gap ++ text)).2.filter (· ≠ []) = AttAssembly.words text := by
          obtain ⟨c, tail, rfl, blank⟩ := isGap.head
          have later := words_after_blanks tail text fun d member =>
            isGap.blank d (List.mem_cons_of_mem c member)
          rw [← later, List.cons_append, splitWhere, blank]
          exact ⟨rfl, rfl⟩
        rw [(broken here).1, (broken there).1, (broken here).2, (broken there).2, same]
        exact ⟨rfl, rfl⟩
  rw [words_eq, words_eq, List.filter_cons, List.filter_cons, parts.1, parts.2]

theorem isGap_append_space (text : Text) (blank : ∀ c ∈ text, isBlank c = true)
    (oneLine : '\n' ∉ text) : IsGap (text ++ [' ']) := by
  constructor
  · simp
  · exact List.forall_mem_append.mpr ⟨blank, List.forall_mem_singleton.mpr rfl⟩
  · simp [oneLine]

/-- Texts with the same words are layouts of each other once both begin and end with blanks. -/
theorem relaid_of_words (one other : Text) (same : words one = words other)
    (whole : '\n' ∉ one) (still : '\n' ∉ other) (unquoted : '"' ∉ one)
    (front : ∀ c ∈ one.head?, isBlank c = true) (also : ∀ c ∈ other.head?, isBlank c = true) :
    Relaid (one ++ [' ']) (other ++ [' ']) := by
  -- The induction is on the words; what follows the first word begins with a blank again.
  generalize listed : words one = list at same
  induction list generalizing one other with
  | nil =>
      rcases blank_or_leadingWord one with blank | ⟨_, _, _, leads⟩
      · rcases blank_or_leadingWord other with blankAlso | ⟨_, _, _, leads⟩
        · have here := isGap_append_space one blank whole
          have there := isGap_append_space other blankAlso still
          simpa only [List.append_nil] using Relaid.gap here there .nil
        · cases same.trans leads.words
      · cases listed.symm.trans leads.words
  | cons word list ih =>
      rcases blank_or_leadingWord one with blank | ⟨gap, first, rest, leads⟩
      · cases listed.symm.trans (words_blank one blank)
      · rcases blank_or_leadingWord other with blank | ⟨gap', first', rest', leads'⟩
        · cases same.trans (words_blank other blank)
        · obtain ⟨rfl, rfl⟩ := List.cons.inj (listed.symm.trans leads.words)
          obtain ⟨rfl, later⟩ := List.cons.inj (same.trans leads'.words)
          have here := leads.isGap front whole
          have there := leads'.isGap also still
          rw [leads.whole] at whole unquoted ⊢
          rw [leads'.whole] at still ⊢
          simp only [List.mem_append, not_or] at whole still unquoted
          have tail := ih rest rest' whole.2.2 still.2.2 unquoted.2.2 leads.stop leads'.stop rfl later
          simp only [List.append_assoc]
          exact .gap here there (.word leads.solid unquoted.2.1 tail)

end Words

end AttAssembly
