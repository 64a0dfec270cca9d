import AttAssembly.Proofs.Lexeme.Numerals
import AttAssembly.Proofs.Operand.Forms

/-!
Symbolic expressions as operands of directives. Terms joined by signs come apart again at the signs,
and the blanks around these are trimmed away, so an expression is read exactly when all its terms are.
Names and the dot are, and so are decimal numbers and those marked by `0x`; a number with any other
mark is not.
-/

namespace AttAssembly

namespace Operand

/-- A number with a mark that no term has: a capital `X`, or a letter for binary digits. -/
def isOddlyMarked : Text → Bool
  | '0' :: mark :: _ => mark = 'X' || mark = 'b' || mark = 'B'
  | _ => false

section Lexemes

theorem isDottedName_name {name : Text} (named : isName name = true) : isDottedName name = true := by
  obtain ⟨c, rest, same, start, parts⟩ := (isName_iff name).mp named
  subst same
  rw [isDottedName, start, Bool.true_and, List.all_eq_true]
  intro d member
  simp [isDottedPart, parts d member]

theorem isTerm_name {name : Text} (named : isName name = true) : isTerm name = true := by
  rw [isTerm.eq_def]
  split
  · cases named
  · cases named
  · cases named
  · rw [isDottedName_name named, Bool.true_or]

variable {literal : Text} {n : Nat}

theorem isTerm_decimal (read : numeral? 10 digitValue? literal = some n) :
    isTerm literal = true := by
  have digits := (numeral_digits read).2
  rw [isTerm.eq_def]
  split
  · cases digits '.' List.mem_cons_self
  · cases digits '@' List.mem_cons_self
  · cases digits 'x' (by simp)
  · simp [read]

theorem isTerm_foreign {mark : Char} {rest : Text} (hexadecimal : mark ≠ 'x')
    (noDigit : digitValue? mark = none) : isTerm ('0' :: mark :: rest) = false := by
  rw [isTerm.eq_def]
  split
  · next same => cases same
  · next same => cases same
  · next same => exact absurd (List.cons.inj (List.cons.inj same).2).1 hexadecimal
  · have zero : digitValue? '0' = some 0 := by decide
    have noName : isDottedName ('0' :: mark :: rest) = false := rfl
    rw [noName]
    simp [numeral?, numeralFrom, zero, noDigit]

theorem isTerm_literal (read : magnitude? literal = some n) :
    isTerm literal = !isOddlyMarked literal := by
  cases magnitude_magnitudeAs read with
  | hexadecimal marked numeral =>
      rcases marked with rfl | rfl
      · simp [isTerm, isOddlyMarked, numeral]
      · rw [isTerm_foreign (by decide) (by decide)]
        rfl
  | binary marked =>
      rcases marked with rfl | rfl <;>
        · rw [isTerm_foreign (by decide) (by decide)]
          rfl
  | decimal unmarked numeral =>
      rw [isTerm_decimal numeral, isOddlyMarked.eq_def]
      split
      · next mark rest =>
          obtain ⟨noHexadecimal, noBinary⟩ := unmarked mark rest rfl
          rw [not_or] at noHexadecimal noBinary
          simp [noHexadecimal, noBinary]
      · rfl

end Lexemes

/-- A term of a symbolic expression as it is meant to be written. -/
inductive Term where
  | symbol (name : Text) (named : isName name = true)
  | here
  | dotted (name : Text) (named : isName name = true)
  | kind (name : Text) (named : isName name = true)
  /-- A number without a sign. -/
  | number (literal : Text) (trimmed : Trimmed literal) (unsigned : literal.head? ≠ some '-')
      (read : (literal? literal).isSome = true)

namespace Term

def text : Term → Text
  | symbol name _ => name
  | here => "."
  | dotted name _ => '.' :: name
  | kind name _ => '@' :: name
  | number literal _ _ _ => literal

/-- Not a number with a mark that terms do not have. -/
def isKnown : Term → Bool
  | number literal _ _ _ => !isOddlyMarked literal
  | _ => true

theorem number_magnitude {literal : Text} (unsigned : literal.head? ≠ some '-')
    (read : (literal? literal).isSome = true) : ∃ n, magnitude? literal = some n := by
  rw [literal?.eq_def] at read
  split at read
  · exact absurd rfl unsigned
  · exact Option.isSome_iff_exists.mp (by simpa using read)

/-- The code points that terms are made of. -/
def isPart (c : Char) : Bool := isDottedPart c || c = '@' || isNumeralPart c

theorem text_parts (term : Term) : ∀ c ∈ term.text, isPart c = true := by
  have names {name : Text} (named : isName name = true) : ∀ c ∈ name, isPart c = true := by
    intro c member
    simp [isPart, isDottedPart, isName_parts name named c member]
  cases term with
  | symbol name named => exact names named
  | here => exact List.forall_mem_singleton.mpr (by decide)
  | dotted name named => exact List.forall_mem_cons.mpr ⟨by decide, names named⟩
  | kind name named => exact List.forall_mem_cons.mpr ⟨by decide, names named⟩
  | number literal trimmed unsigned read =>
      obtain ⟨n, magnitude⟩ := number_magnitude unsigned read
      intro c member
      simp [isPart, (magnitude_characters magnitude).2 c member]

theorem sign_noPart {c : Char} (sign : isSign c = true) : isPart c = false := by
  simp only [isSign, Bool.or_eq_true, decide_eq_true_eq] at sign
  rcases sign with rfl | rfl <;> decide

theorem text_unsigned (term : Term) : ∀ c ∈ term.text, isSign c = false := by
  intro c member
  cases sign : isSign c with
  | false => rfl
  | true => exact absurd (term.text_parts c member) (by simp [sign_noPart sign])

theorem text_nonempty (term : Term) : term.text ≠ [] := by
  cases term with
  | symbol name named =>
      rintro nothing
      rw [show name = [] from nothing] at named
      cases named
  | number literal trimmed unsigned read =>
      obtain ⟨n, magnitude⟩ := number_magnitude unsigned read
      exact (magnitude_characters magnitude).1
  | here => exact List.cons_ne_nil _ _
  | dotted name named => exact List.cons_ne_nil _ _
  | kind name named => exact List.cons_ne_nil _ _

theorem text_trimmed (term : Term) : Trimmed term.text := by
  have after {mark : Char} {name : Text} (solid : isBlank mark = false) (named : isName name = true) :
      Trimmed (mark :: name) :=
    trimmed_of_solid (List.forall_mem_cons.mpr ⟨solid, fun c member =>
      namePart_not_blank c (isName_parts name named c member)⟩)
  cases term with
  | symbol name named => exact isName_trimmed name named
  | here => exact trimmed_of_solid (List.forall_mem_singleton.mpr rfl)
  | dotted name named => exact after rfl named
  | kind name named => exact after rfl named
  | number literal trimmed unsigned read => exact trimmed

theorem isTerm_text (term : Term) : isTerm term.text = term.isKnown := by
  cases term with
  | symbol name named => exact isTerm_name named
  | here => rfl
  | dotted name named => simp [text, isTerm, isKnown, isDottedName_name named]
  | kind name named => simp [text, isTerm, isKnown, isDottedName_name named]
  | number literal trimmed unsigned read =>
      obtain ⟨n, magnitude⟩ := number_magnitude unsigned read
      exact isTerm_literal magnitude

end Term

/-- A term with the sign in front of it, and the blanks around the sign. -/
structure Link where
  before : Text
  sign : Char
  after : Text
  term : Term
  gaps : ∀ c ∈ before ++ after, isBlank c = true
  signed : isSign sign = true

namespace Link

def text (link : Link) : Text := link.before ++ link.sign :: (link.after ++ link.term.text)

end Link

/-- Two terms or more, joined by signs. -/
structure Expression where
  first : Term
  second : Link
  others : List Link

namespace Expression

variable (expression : Expression)

def links : List Link := expression.second :: expression.others

def terms : List Term := expression.first :: expression.links.map (·.term)

def text : Text := expression.first.text ++ expression.links.flatMap Link.text

/-- The blanks around the terms are trimmed off, whatever part they come to stand in. -/
theorem linked_terms (links : List Link) (front : Text) (unsigned : ∀ c ∈ front, isSign c = false) :
    ((splitParts isSign (front ++ links.flatMap Link.text)).all fun part => isTerm (trim part)) =
      (isTerm (trim front) && links.all fun link => link.term.isKnown) := by
  induction links generalizing front with
  | nil => simp [splitParts, splitWhere_joined isSign front unsigned]
  | cons link rest ih =>
      have regrouped : front ++ (link :: rest).flatMap Link.text =
          (front ++ link.before) ++
            link.sign :: (link.after ++ link.term.text ++ rest.flatMap Link.text) := by
        simp [Link.text]
      have plain : ∀ c ∈ front ++ link.before, isSign c = false := by
        intro c member
        rcases List.mem_append.mp member with inside | gap
        · exact unsigned c inside
        · exact blank_noSign (link.gaps c (List.mem_append_left _ gap))
      have next : ∀ c ∈ link.after ++ link.term.text, isSign c = false := by
        intro c member
        rcases List.mem_append.mp member with gap | inside
        · exact blank_noSign (link.gaps c (List.mem_append_right _ gap))
        · exact link.term.text_unsigned c inside
      rw [regrouped, splitParts_append isSign _ _ _ link.signed, List.all_append, ih _ next,
        trim_after_blanks _ _ fun c gap => link.gaps c (List.mem_append_right _ gap),
        trim_eq_self link.term.text_trimmed, Term.isTerm_text, List.all_cons]
      congr 1
      rw [splitParts, splitWhere_joined isSign _ plain, List.all_cons, List.all_nil, Bool.and_true,
        trim_append_blanks _ _ fun c gap => link.gaps c (List.mem_append_left _ gap)]

theorem isExpression_text :
    isExpression expression.text = expression.terms.all (·.isKnown) := by
  rw [isExpression_terms, text, linked_terms _ _ expression.first.text_unsigned,
    trim_eq_self expression.first.text_trimmed, Term.isTerm_text, terms, List.all_cons, List.all_map]
  rfl

theorem linked_trimmed (links : List Link) (front : Text) (trimmed : Trimmed front)
    (given : front ≠ []) : Trimmed (front ++ links.flatMap Link.text) := by
  induction links generalizing front with
  | nil => simpa using trimmed
  | cons link rest ih =>
      have regrouped : front ++ (link :: rest).flatMap Link.text =
          front ++ (link.before ++ link.sign :: link.after) ++ link.term.text ++
            rest.flatMap Link.text := by
        simp [Link.text]
      rw [regrouped]
      refine ih _ (trimmed.around link.term.text_trimmed _ given link.term.text_nonempty) ?_
      simp [given]

theorem text_trimmed : Trimmed expression.text :=
  linked_trimmed _ _ expression.first.text_trimmed expression.first.text_nonempty

/-- An expression begins like a term, with neither a quote nor a sign. -/
theorem text_head {c : Char} (foreign : Term.isPart c = false) : expression.text.head? ≠ some c := by
  intro first
  rw [text, List.head?_append_of_ne_nil _ expression.first.text_nonempty] at first
  rw [expression.first.text_parts c (List.mem_of_head? first)] at foreign
  cases foreign

theorem text_not_number : literal? expression.text = none := by
  have sign : expression.second.sign ∈ expression.text := by
    simp [text, links, Link.text]
  refine literal_interrupted (expression.text_head (by decide)) sign ?_
  exact (Bool.or_eq_false_iff.mp (Term.sign_noPart expression.second.signed)).2

end Expression

end Operand

open Operand

/-- A directive takes an expression as a whole if all its numbers are decimal or marked by `0x`, and
refuses it if one of them has another mark. -/
theorem expression_reading (expression : Expression) :
    readDirective expression.text =
      if expression.terms.all (·.isKnown) then .ok ⟨expression.text, .symbolic, .direct⟩
      else .error (.invalidDirectiveOperand expression.text) := by
  have whole := trim_eq_self expression.text_trimmed
  have noString : stringContent? (trim expression.text) = none :=
    whole.symm ▸ stringContent_unopened (expression.text_head (by decide))
  have noNumber : literal? (trim expression.text) = none := whole.symm ▸ expression.text_not_number
  rw [readDirective_expression noString noNumber, whole, expression.isExpression_text]

/-- A binary number is a number by itself, but no term. -/
theorem binary_term_refused :
    ∃ expression : Expression, expression.text = "fin-0b10" ∧
      readDirective expression.text = .error (.invalidDirectiveOperand "fin-0b10") := by
  have trimmed : Trimmed ("0b10" : Text) := ⟨by rintro c ⟨⟩; rfl, by rintro c ⟨⟩; rfl⟩
  let number : Term := .number "0b10" trimmed (by simp) rfl
  let link : Link := ⟨[], '-', [], number, by simp, rfl⟩
  exact ⟨⟨.symbol "fin" rfl, link, []⟩, rfl, rfl⟩

end AttAssembly
