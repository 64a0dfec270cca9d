import Mathlib
import AttAssembly.Text.Blank

/-!
Trimmed texts: those without a blank at either end. Trimming makes every text trimmed and leaves
trimmed texts as they are. Two trimmed texts stay trimmed with anything between them, so a line that
is put together from trimmed parts is trimmed as a whole.
-/

namespace AttAssembly

def Trimmed (text : Text) : Prop :=
  (∀ c ∈ text.head?, isBlank c = false) ∧ ∀ c ∈ text.getLast?, isBlank c = false

theorem blank_ne {c mark : Char} (blank : isBlank c = true) (visible : isBlank mark = false) :
    c ≠ mark := by
  rintro rfl
  rw [visible] at blank
  cases blank

theorem trimLeft_eq_self (text : Text) (front : ∀ c ∈ text.head?, isBlank c = false) :
    trimLeft text = text := by
  cases text with
  | nil => rfl
  | cons c rest => simp [trimLeft, front c rfl]

theorem trimRight_eq (text : Text) : trimRight text = (trimLeft text.reverse).reverse := rfl

theorem trim_eq_self {text : Text} (trimmed : Trimmed text) : trim text = text := by
  have back : trimLeft text.reverse = text.reverse :=
    trimLeft_eq_self _ (by simpa using trimmed.2)
  rw [trim, trimLeft_eq_self text trimmed.1, trimRight_eq, back, List.reverse_reverse]

theorem trimLeft_front (text : Text) : ∀ c ∈ (trimLeft text).head?, isBlank c = false := by
  intro c first
  have stopped := List.head?_dropWhile_not isBlank text
  rwa [← trimLeft, Option.mem_def.mp first] at stopped

theorem trimRight_prefix (text : Text) : trimRight text <+: text := by
  have suffix : trimLeft text.reverse <:+ text.reverse := List.dropWhile_suffix _
  simpa [trimRight_eq] using List.reverse_prefix.mpr suffix

theorem trimRight_blanks (text : Text) :
    ∃ blanks, text = trimRight text ++ blanks ∧ ∀ c ∈ blanks, isBlank c = true := by
  refine ⟨(text.reverse.takeWhile isBlank).reverse, ?_, ?_⟩
  · rw [trimRight, ← List.reverse_append, List.takeWhile_append_dropWhile, List.reverse_reverse]
  · intro c member
    exact List.mem_takeWhile_imp (List.mem_reverse.mp member)

theorem trimRight_end (text : Text) : ∀ c ∈ (trimRight text).getLast?, isBlank c = false := by
  intro c last
  rw [trimRight_eq, List.getLast?_reverse] at last
  exact trimLeft_front _ c last

theorem trimRight_head (text : Text) : ∀ c ∈ (trimRight text).head?, c ∈ text.head? := by
  intro c first
  obtain ⟨blanks, whole⟩ := trimRight_prefix text
  rw [Option.mem_def, ← whole, List.head?_append, Option.mem_def.mp first, Option.some_or]

theorem trimmed_trim (text : Text) : Trimmed (trim text) :=
  ⟨fun c first => trimLeft_front text c (trimRight_head _ c first), trimRight_end (trimLeft text)⟩

theorem trim_trim (text : Text) : trim (trim text) = trim text := trim_eq_self (trimmed_trim text)

theorem trim_after_blank (c : Char) (text : Text) (blank : isBlank c = true) :
    trim (c :: text) = trim text := by
  rw [trim, trim, trimLeft, List.dropWhile_cons_of_pos blank, ← trimLeft]

theorem trim_append_blanks (text blanks : Text) (blank : ∀ c ∈ blanks, isBlank c = true) :
    trim (text ++ blanks) = trim text := by
  have back (kept : Text) : trimRight (kept ++ blanks) = trimRight kept := by
    rw [trimRight, List.reverse_append,
      List.dropWhile_append_of_pos fun c member => blank c (List.mem_reverse.mp member), trimRight]
  rw [trim, trim, trimLeft, List.dropWhile_append]
  split
  · next dropped =>
      -- Nothing but blanks is left of the whole.
      have nothing : text.dropWhile isBlank = [] := by simpa using dropped
      rw [List.dropWhile_eq_nil_iff.mpr blank, trimLeft, nothing]
  · exact back _

theorem trim_trimRight (text : Text) : trim (trimRight text) = trim text := by
  obtain ⟨blanks, whole, blank⟩ := trimRight_blanks text
  calc
    trim (trimRight text) = trim (trimRight text ++ blanks) := (trim_append_blanks _ _ blank).symm
    _ = trim text := by rw [← whole]

theorem trim_after_blanks (blanks text : Text) (blank : ∀ c ∈ blanks, isBlank c = true) :
    trim (blanks ++ text) = trim text := by
  rw [trim, trim, trimLeft, List.dropWhile_append_of_pos blank, ← trimLeft]

-- Trimming from the right ends at the last code point that is not blank.
theorem trimRight_after_solid (front rest : Text) (c : Char) (solid : isBlank c = false) :
    trimRight (front ++ c :: rest) = front ++ c :: trimRight rest := by
  have stops : (c :: front.reverse).dropWhile isBlank = c :: front.reverse :=
    List.dropWhile_cons_of_neg (by simp [solid])
  have reversed : (front ++ c :: rest).reverse = rest.reverse ++ c :: front.reverse := by simp
  rw [trimRight, trimRight, reversed, List.dropWhile_append]
  split
  · next dropped =>
      have nothing : rest.reverse.dropWhile isBlank = [] := by simpa using dropped
      rw [stops, nothing]
      simp
  · simp

/-- Trimming takes blanks off both ends and nothing else. -/
theorem trim_within (text : Text) :
    ∃ before after, text = before ++ trim text ++ after ∧
      (∀ c ∈ before, isBlank c = true) ∧ ∀ c ∈ after, isBlank c = true := by
  obtain ⟨after, back, blank⟩ := trimRight_blanks (trimLeft text)
  refine ⟨text.takeWhile isBlank, after, ?_, fun c => List.mem_takeWhile_imp, blank⟩
  rw [List.append_assoc, trim, ← back, trimLeft, List.takeWhile_append_dropWhile]

theorem count_trim {c : Char} (solid : isBlank c = false) (text : Text) :
    (trim text).count c = text.count c := by
  obtain ⟨before, after, whole, front, back⟩ := trim_within text
  have absent {blanks : Text} (blank : ∀ d ∈ blanks, isBlank d = true) : blanks.count c = 0 :=
    List.count_eq_zero_of_not_mem fun member => blank_ne (blank c member) solid rfl
  conv_rhs => rw [whole, List.count_append, List.count_append, absent front, absent back]
  omega

theorem trim_eq_nil_iff (text : Text) : trim text = [] ↔ ∀ c ∈ text, isBlank c = true := by
  constructor
  · intro nothing
    induction text with
    | nil => simp
    | cons c rest ih =>
        by_cases blank : isBlank c = true
        · rw [trim_after_blank c rest blank] at nothing
          simpa [blank] using ih nothing
        · -- A code point that is not blank is never trimmed away.
          have front : trimLeft (c :: rest) = c :: rest :=
            trimLeft_eq_self _ (by simpa using blank)
          rw [trim, front, trimRight, List.reverse_eq_nil_iff, List.dropWhile_eq_nil_iff] at nothing
          exact absurd (nothing c (by simp)) blank
  · intro blank
    exact trim_append_blanks [] text blank

theorem trimmed_of_solid {text : Text} (solid : ∀ c ∈ text, isBlank c = false) : Trimmed text :=
  ⟨fun c first => solid c (List.mem_of_head? first),
    fun c last => solid c (List.mem_of_getLast? last)⟩

theorem Trimmed.around {first last : Text} (one : Trimmed first) (other : Trimmed last)
    (between : Text) (some_ : first ≠ []) (more : last ≠ []) :
    Trimmed (first ++ between ++ last) := by
  constructor
  · intro c front
    cases first with
    | nil => exact absurd rfl some_
    | cons d rest => exact one.1 c front
  · intro c back
    rw [List.getLast?_append, List.getLast?_eq_some_getLast more] at back
    exact other.2 c (List.getLast?_eq_some_getLast more ▸ back)

theorem Trimmed.trim_append {first : Text} (trimmed : Trimmed first) (some_ : first ≠ [])
    (rest : Text) : trim (first ++ rest) = first ++ trimRight rest := by
  have front : trimLeft (first ++ rest) = first ++ rest := by
    apply trimLeft_eq_self
    obtain ⟨c, tail, rfl⟩ := List.exists_cons_of_ne_nil some_
    exact trimmed.1
  obtain ⟨body, last, rfl⟩ := (List.eq_nil_or_concat' first).resolve_left some_
  rw [trim, front, List.append_assoc, List.append_assoc]
  exact trimRight_after_solid body rest last (trimmed.2 last (by simp))

-- The two ends are trimmed apart from each other, so their order makes no difference.
theorem trimLeft_trimRight (text : Text) : trimLeft (trimRight text) = trim text := by
  have back : ∀ c ∈ (trimLeft (trimRight text)).getLast?, isBlank c = false := by
    intro c last
    obtain ⟨dropped, whole⟩ := List.dropWhile_suffix isBlank (l := trimRight text)
    refine trimRight_end text c ?_
    rw [Option.mem_def] at last ⊢
    rw [← whole, List.getLast?_append, ← trimLeft, last, Option.some_or]
  have trimmed : Trimmed (trimLeft (trimRight text)) := ⟨trimLeft_front _, back⟩
  have same : trim (trimLeft (trimRight text)) = trim (trimRight text) := by
    rw [trim, trimLeft_eq_self _ trimmed.1, trim]
  rw [← trim_trimRight, ← same, trim_eq_self trimmed]

/-- Printable ASCII other than the space. -/
theorem visible_not_blank (c : Char) (low : 0x20 < c.toNat) (high : c.toNat < 0x7F) :
    isBlank c = false := by
  simp [isBlank, blankRanges]
  omega

end AttAssembly
