import AttAssembly.Proofs.Lexeme.Layout
import AttAssembly.Proofs.Operand.Forms

/-!
Layouts through the readers of operands. Both layouts of a token are read, to operands of the same form
and mode, or neither is; an error shows the token and may be another one. Each reader cuts a token at
code points that are not blank, trims what it has cut off, and looks up registers, names and numbers,
which have no blanks inside.
-/

namespace AttAssembly

/-- Both are read, as related results, or neither is. -/
inductive BothRead {Result : Type} (related : Result → Result → Prop) :
    Except OperandError Result → Except OperandError Result → Prop
  | accepted {one other : Result} (alike : related one other) :
      BothRead related (.ok one) (.ok other)
  | refused (error again : OperandError) : BothRead related (.error error) (.error again)

namespace BothRead

variable {Result Next : Type} {related : Next → Next → Prop}

theorem bind {first second : Except OperandError Result}
    {one other : Result → Except OperandError Next} (same : BothRead Eq first second)
    (after : ∀ result, BothRead related (one result) (other result)) :
    BothRead related (first >>= one) (second >>= other) := by
  cases same with
  | accepted alike => exact alike ▸ after _
  | refused error again => exact .refused error again

theorem same (result : Result) : BothRead Eq (.ok result) (.ok result) := .accepted rfl

end BothRead

section Registers

open LetterCase in
/-- No blank is a letter with another case. -/
theorem upperLetter_blank {c : Char} (blank : isBlank c = true) : upperLetter c = [c] := by
  have runs : ∀ run ∈ upperRuns, Apart run.low run.high := by decide +kernel
  have expansions : ∀ entry ∈ upperExpansions, Apart entry.1 entry.1 := by decide +kernel
  have outside {low high : Nat} (apart : Apart low high) : ¬ (low ≤ c.toNat ∧ c.toNat ≤ high) := by
    rintro ⟨above, below⟩
    rw [apart.solid above below] at blank
    cases blank
  rw [upperLetter]
  split
  · have capital : ¬ c.isLower = true := by
      intro small
      have part : isNamePart c = true := by
        simp [isNamePart, Char.isAlphanum, Char.isAlpha, small]
      rw [blank_noPart blank] at part
      cases part
    rw [Char.toUpper_eq_of_not_isLower capital]
  · have unexpanded : upperExpansions.lookup c.toNat = none := by
      refine List.lookup_eq_none_iff.mpr fun entry listed => ?_
      have other := outside (expansions entry listed)
      simp only [bne_iff_ne]
      omega
    have unmoved : upperRuns.findSome? (·.move? c.toNat) = none := by
      refine List.findSome?_eq_none_iff.mpr fun run listed => ?_
      rw [Run.move?, if_neg fun inside => outside (runs run listed) ⟨inside.1, inside.2.1⟩]
    rw [change, unexpanded, unmoved]

theorem register_blank (name : Text) (hasBlank : HasBlank name) :
    Register.ofName? (upper name) = none := by
  refine Option.eq_none_iff_forall_ne_some.mpr fun register read => ?_
  obtain ⟨c, member, blank⟩ := hasBlank
  have capital := Register.read_capitals read c member c (by simp [upperLetter_blank blank])
  have solid : isBlank c = false :=
    namePart_not_blank c (by simp [isNamePart, Char.isAlphanum, Char.isAlpha, capital])
  rw [solid] at blank
  cases blank

/-- The register that a text without blanks around it names. -/
def registerNamed? : Text → Option Register
  | '%' :: name => Register.ofName? (upper name)
  | name => Register.ofName? (upper name)

theorem register_named (token : Text) : Register.read? token = registerNamed? (trim token) := rfl

theorem registerNamed_blank (text : Text) (hasBlank : HasBlank text) :
    registerNamed? text = none := by
  rw [registerNamed?.eq_def]
  split
  · exact register_blank _ ((hasBlank_after_solid rfl).mp hasBlank)
  · exact register_blank text hasBlank

end Registers

section Displacements

variable {token : Text} {symbol : Option Text}

/-- What follows the name of a displacement, blanks around it removed. -/
def displacementAfter (token : Text) (symbol : Option Text) :
    Text → Except OperandError (Option Text × Option Int)
  | [] => .ok (symbol, none)
  | '+' :: digits => Operand.signedDisplacement token symbol 1 digits
  | '-' :: digits => Operand.signedDisplacement token symbol (-1) digits
  | digits =>
      if symbol.isSome then .error (.invalidDisplacement token)
      else Operand.signedDisplacement token none 1 digits

theorem readDisplacement_oneLine (token : Text) (oneLine : '\n' ∉ trim token) :
    Operand.readDisplacement token =
      displacementAfter token
        (if (leadingName (trim token)).1 = [] then none else some (leadingName (trim token)).1)
        (trim (leadingName (trim token)).2) := by
  rw [Operand.readDisplacement, if_neg oneLine]
  rfl

theorem displacementAfter_unsigned {c : Char} {digits : Text} (plus : c ≠ '+') (minus : c ≠ '-') :
    displacementAfter token symbol (c :: digits) =
      if symbol.isSome then .error (.invalidDisplacement token)
      else Operand.signedDisplacement token none 1 (c :: digits) := by
  rw [displacementAfter.eq_def]
  split
  · next empty => cases empty
  · next same => exact absurd (List.cons.inj same).1 plus
  · next same => exact absurd (List.cons.inj same).1 minus
  · rfl

end Displacements

section Components

theorem readComponent_unmarked {error : Text → OperandError} {c : Char} {rest : Text}
    (unmarked : c ≠ '%') : Operand.readComponent error (c :: rest) = .error (error (c :: rest)) := by
  rw [Operand.readComponent.eq_def]
  split
  · next empty => cases empty
  · next same => exact absurd (List.cons.inj same).1 unmarked
  · rfl

theorem readComponents_parts (token inside : Text) :
    Operand.readComponents token inside =
      if 3 < ((splitParts (· = ',') inside).map trim).length then
        .error (.tooManyComponents token)
      else do
        let place := ((splitParts (· = ',') inside).map trim).getD
        let base ← Operand.readComponent .invalidBase (place 0 [])
        let index ← Operand.readComponent .invalidIndex (place 1 [])
        let scale ← Operand.readScaleComponent (place 2 [])
        return (base, index, scale) := rfl

theorem forall₂_getD {Item : Type} {related : Item → Item → Prop} {items others : List Item}
    {fallback : Item} (each : List.Forall₂ related items others)
    (missing : related fallback fallback) (index : Nat) :
    related (items.getD index fallback) (others.getD index fallback) := by
  induction each generalizing index with
  | nil => exact missing
  | cons first rest ih =>
      cases index with
      | zero => exact first
      | succ index => exact ih index

end Components

namespace Relaid

variable {one other : Text}

theorem register (relaid : Relaid one other) : Register.read? one = Register.read? other := by
  rw [register_named, register_named]
  exact relaid.agree registerNamed_blank

theorem readRegisterName (relaid : Relaid one other) :
    BothRead Eq (Operand.readRegisterName one) (Operand.readRegisterName other) := by
  rw [Operand.readRegisterName, Operand.readRegisterName, relaid.register]
  split
  · exact .same _
  · exact .refused _ _

theorem readNumber (relaid : Relaid one other) (invalid again : OperandError) :
    BothRead Eq (Operand.readNumber invalid one) (Operand.readNumber again other) := by
  rw [Operand.readNumber, Operand.readNumber, relaid.excess, relaid.number]
  split
  · exact .refused _ _
  · split
    · exact .same _
    · exact .refused _ _

theorem signedDisplacement (relaid : Relaid one other) (token again : Text) (symbol : Option Text)
    (sign : Int) :
    BothRead Eq (Operand.signedDisplacement token symbol sign one)
      (Operand.signedDisplacement again symbol sign other) :=
  (relaid.readNumber _ _).bind fun _ => .same _

theorem displacementAfter (fromMark : RelaidFromMark one other) (token again : Text)
    (symbol : Option Text) :
    BothRead Eq (AttAssembly.displacementAfter token symbol one)
      (AttAssembly.displacementAfter again symbol other) := by
  cases fromMark with
  | nil => exact .same _
  | mark c solid plain rest =>
      by_cases plus : c = '+'
      · subst c
        exact rest.signedDisplacement token again symbol 1
      · by_cases minus : c = '-'
        · subst c
          exact rest.signedDisplacement token again symbol (-1)
        · rw [displacementAfter_unsigned plus minus, displacementAfter_unsigned plus minus]
          split
          · exact .refused _ _
          · exact (mark c solid plain rest).signedDisplacement token again none 1

theorem readDisplacement (relaid : Relaid one other) :
    BothRead Eq (Operand.readDisplacement one) (Operand.readDisplacement other) := by
  obtain ⟨names, after⟩ := relaid.trim.leadingName
  rw [readDisplacement_oneLine one relaid.trim.oneLine,
    readDisplacement_oneLine other relaid.trim.symm.oneLine, names]
  exact displacementAfter after.trim_fromMark one other _

theorem readScale (relaid : Relaid one other) :
    BothRead Eq (Operand.readScale one) (Operand.readScale other) := by
  refine (relaid.readNumber _ _).bind fun value => ?_
  split
  · exact .same _
  · exact .refused _ _

theorem readScaleComponent (relaid : Relaid one other) :
    BothRead Eq (Operand.readScaleComponent one) (Operand.readScaleComponent other) := by
  by_cases missing : one = []
  · rw [missing, relaid.eq_nil_iff.mp missing]
    exact .same _
  · have given : other ≠ [] := fun nothing => missing (relaid.eq_nil_iff.mpr nothing)
    obtain ⟨c, rest, rfl⟩ := List.exists_cons_of_ne_nil missing
    obtain ⟨d, others, rfl⟩ := List.exists_cons_of_ne_nil given
    exact relaid.readScale.bind fun scale => .same (some scale)

end Relaid

theorem RelaidFromMark.readComponent {one other : Text} (fromMark : RelaidFromMark one other)
    (error : Text → OperandError) :
    BothRead Eq (Operand.readComponent error one) (Operand.readComponent error other) := by
  cases fromMark with
  | nil => exact .same none
  | mark c solid plain rest =>
      by_cases marked : c = '%'
      · subst c
        have same := (Relaid.mark '%' solid plain rest).register
        rw [Operand.readComponent, Operand.readComponent, same]
        split
        · exact .same _
        · exact .refused _ _
      · rw [readComponent_unmarked marked, readComponent_unmarked marked]
        exact .refused _ _

namespace Relaid

variable {one other : Text}

theorem readComponents (relaid : Relaid one other) (token again : Text) :
    BothRead Eq (Operand.readComponents token one) (Operand.readComponents again other) := by
  have commas (c : Char) (blank : isBlank c = true) : decide (c = ',') = false :=
    decide_eq_false (blank_ne blank rfl)
  have components := forall₂_trim (relaid.splitParts (· = ',') commas)
  have place (index : Nat) := forall₂_getD components .nil index
  rw [readComponents_parts, readComponents_parts, components.length_eq]
  split
  · exact .refused _ _
  · exact ((place 0).readComponent _).bind fun base => ((place 1).readComponent _).bind fun index =>
      (place 2).relaid.readScaleComponent.bind fun scale => .same _

theorem balanced (relaid : Relaid one other) : Operand.balanced one = Operand.balanced other := by
  have deep (depth : Nat) : Operand.balancedFrom depth one = Operand.balancedFrom depth other := by
    induction relaid generalizing depth with
    | nil => rfl
    | @mark c solid plain one other rest ih =>
        by_cases opens : c = '('
        · subst c
          exact ih (depth + 1)
        · by_cases closes : c = ')'
          · subst c
            cases depth with
            | zero => rfl
            | succ outer => exact ih outer
          · have ordinary : ∀ d ∈ [c], d ≠ '(' ∧ d ≠ ')' := by simp [opens, closes]
            have skipped (text : Text) := Operand.balancedFrom_plain depth [c] text ordinary
            exact (skipped one).trans ((ih depth).trans (skipped other).symm)
    | gap here there rest ih =>
        have ordinary {gap : Text} (isGap : IsGap gap) : ∀ d ∈ gap, d ≠ '(' ∧ d ≠ ')' :=
          fun d member => ⟨blank_ne (isGap.blank d member) rfl, blank_ne (isGap.blank d member) rfl⟩
        rw [Operand.balancedFrom_plain depth _ _ (ordinary here),
          Operand.balancedFrom_plain depth _ _ (ordinary there), ih depth]
  exact deep 0

theorem splitAtLastClose (relaid : Relaid one other) :
    Relaid (Operand.splitAtLastClose one).1 (Operand.splitAtLastClose other).1 ∧
      Relaid (Operand.splitAtLastClose one).2 (Operand.splitAtLastClose other).2 := by
  have through (c : Char) (blank : isBlank c = true) : decide (c ≠ ')') = true :=
    decide_eq_true (blank_ne blank rfl)
  obtain ⟨kept, cut⟩ := relaid.reverse.cut_through (· ≠ ')') through
  exact ⟨cut.tail.reverse, kept.reverse⟩

theorem readReference (relaid : Relaid one other) (token again : Text) (indirect : Bool) :
    BothRead Eq (Operand.readReference token one indirect)
      (Operand.readReference again other indirect) := by
  have through (c : Char) (blank : isBlank c = true) : decide (c ≠ '(') = true :=
    decide_eq_true (blank_ne blank rfl)
  obtain ⟨front, group⟩ := relaid.cut_through (· ≠ '(') through
  rw [Operand.readReference, Operand.readReference]
  generalize one.dropWhile _ = opened at group
  generalize other.dropWhile _ = reopened at group
  cases group with
  | nil => exact relaid.readDisplacement.bind fun parts => .same _
  | mark c solid plain rest =>
      obtain ⟨inside, after⟩ := rest.splitAtLastClose
      have nested : '(' ∈ (Operand.splitAtLastClose _).1 ↔ '(' ∈ (Operand.splitAtLastClose _).1 :=
        ⟨inside.mem_of_mem rfl, inside.symm.mem_of_mem rfl⟩
      simp only [ne_eq, after.trim.eq_nil_iff]
      split
      · exact .refused _ _
      · refine front.readDisplacement.bind fun parts => ?_
        simp only [nested]
        split
        · exact .refused _ _
        · exact (inside.readComponents token again).bind fun components => .same _

end Relaid

theorem RelaidFromMark.splitStar {one other : Text} (fromMark : RelaidFromMark one other) :
    (Operand.splitStar one).1 = (Operand.splitStar other).1 ∧
      RelaidFromMark (Operand.splitStar one).2 (Operand.splitStar other).2 := by
  cases fromMark with
  | nil => exact ⟨rfl, .nil⟩
  | mark c solid plain rest =>
      by_cases star : c = '*'
      · subst c
        exact ⟨rfl, rest.trim_fromMark⟩
      · rw [Operand.splitStar_unstarred _ (by simp [star]),
          Operand.splitStar_unstarred _ (by simp [star])]
        exact ⟨rfl, .mark c solid plain rest⟩

namespace Operand

/-- Operands of the same form and mode. -/
structure SameForm (one other : Operand) : Prop where
  form : one.form = other.form
  mode : one.mode = other.mode

variable {one other : Text}

theorem readMemory_relaid (relaid : Relaid one other) :
    BothRead SameForm (readMemory one) (readMemory other) := by
  obtain ⟨star, body⟩ := relaid.trim_fromMark.splitStar
  simp only [readMemory]
  rw [star, body.relaid.balanced, body.head?]
  split
  · exact .refused _ _
  · split
    · exact body.relaid.readRegisterName.bind fun base => .accepted ⟨rfl, rfl⟩
    · exact (body.relaid.readReference one other _).bind fun reference => .accepted ⟨rfl, rfl⟩

theorem readImmediate_relaid (relaid : Relaid one other) (trimmed : Trimmed ('$' :: one))
    (also : Trimmed ('$' :: other)) :
    BothRead SameForm (readImmediate ('$' :: one)) (readImmediate ('$' :: other)) := by
  rw [readImmediate, readImmediate, trim_eq_self trimmed, trim_eq_self also]
  simp only [relaid.isLabelName]
  split
  · next named =>
      -- A symbol has no blanks inside, so both layouts have the same.
      rcases relaid.trim.eq_or_blank with same | ⟨_, there⟩
      · exact .accepted ⟨by rw [same], rfl⟩
      · rw [isLabelName_trimmed _ (trimmed_trim other), name_blank _ there] at named
        cases named
  · refine (relaid.trim.readNumber _ _).bind fun value => ?_
    split
    · exact .accepted ⟨rfl, rfl⟩
    · exact .refused _ _

theorem readRegister_relaid (relaid : Relaid one other) (trimmed : Trimmed ('%' :: one))
    (also : Trimmed ('%' :: other)) :
    BothRead SameForm (readRegister ('%' :: one)) (readRegister ('%' :: other)) := by
  have named := (Relaid.mark '%' rfl (by decide) relaid).readRegisterName
  rw [readRegister, readRegister, trim_eq_self trimmed, trim_eq_self also]
  exact named.bind fun register => .accepted ⟨rfl, rfl⟩

theorem read_relaid (relaid : Relaid one other) : BothRead SameForm (read one) (read other) := by
  have fromMark := relaid.trim_fromMark
  have trimmed := trimmed_trim one
  have also := trimmed_trim other
  by_cases dollar : (trim one).head? = some '$'
  · obtain ⟨rest, starts⟩ := List.head?_eq_some_iff.mp dollar
    obtain ⟨more, again, after⟩ := Relaid.of_mark rfl (starts ▸ fromMark.relaid)
    rw [read_dollar starts, read_dollar again]
    exact readImmediate_relaid after (starts ▸ trimmed) (again ▸ also)
  · by_cases percent : (trim one).head? = some '%'
    · obtain ⟨rest, starts⟩ := List.head?_eq_some_iff.mp percent
      obtain ⟨more, again, after⟩ := Relaid.of_mark rfl (starts ▸ fromMark.relaid)
      rw [read_percent starts, read_percent again]
      exact readRegister_relaid after (starts ▸ trimmed) (again ▸ also)
    · rw [read_unmarked one dollar percent,
        read_unmarked other (fromMark.head? ▸ dollar) (fromMark.head? ▸ percent)]
      exact readMemory_relaid fromMark.relaid

section Directives

theorem dottedName_blank (text : Text) (hasBlank : HasBlank text) : isDottedName text = false := by
  obtain ⟨c, member, blank⟩ := hasBlank
  have noPart : isDottedPart c = false := by
    have noDot : c ≠ '.' := blank_ne blank rfl
    simp [isDottedPart, blank_noPart blank, noDot]
  cases text with
  | nil => rfl
  | cons d rest =>
      rw [isDottedName, Bool.and_eq_false_iff]
      rcases List.mem_cons.mp member with rfl | later
      · exact .inl (blank_noStart blank)
      · exact .inr (List.all_eq_false.mpr ⟨c, later, by simp [noPart]⟩)

theorem term_blank (text : Text) (hasBlank : HasBlank text) : isTerm text = false := by
  rw [isTerm.eq_def]
  split
  · next name =>
      have inside : HasBlank name := (hasBlank_after_solid rfl).mp hasBlank
      have given : name ≠ [] := by
        rintro rfl
        simp [HasBlank] at inside
      simp [dottedName_blank name inside, given]
  · next name => exact dottedName_blank name ((hasBlank_after_solid rfl).mp hasBlank)
  · next digits =>
      have inside : HasBlank digits :=
        (hasBlank_after_solid rfl).mp ((hasBlank_after_solid rfl).mp hasBlank)
      rw [numeral_blank hexadecimal_solid digits inside]
      rfl
  · rw [dottedName_blank text hasBlank, numeral_blank decimal_solid text hasBlank]
    rfl

theorem isExpression_relaid (relaid : Relaid one other) :
    isExpression one = isExpression other := by
  have terms := relaid.splitParts isSign fun c blank => blank_noSign blank
  have flags := map_eq_of_forall₂ terms fun _ _ term => term.agree term_blank
  rw [isExpression_terms, isExpression_terms]
  simpa only [List.all_map, Function.id_comp] using congrArg (List.all · id) flags

theorem stringContent_unquoted (text : Text) (unquoted : '"' ∉ text) :
    stringContent? text = none :=
  stringContent_unopened fun opened => unquoted (List.mem_of_head? opened)

theorem readDirective_relaid (relaid : Relaid one other) :
    BothRead SameForm (readDirective one) (readDirective other) := by
  have fresh := relaid.trim
  simp only [readDirective]
  rw [stringContent_unquoted _ fresh.unquoted, stringContent_unquoted _ fresh.symm.unquoted,
    relaid.excess, fresh.number, isExpression_relaid fresh]
  dsimp only
  split
  · exact .refused _ _
  · exact .accepted ⟨rfl, rfl⟩
  · split
    · exact .accepted ⟨rfl, rfl⟩
    · exact .refused _ _

end Directives

end Operand

end AttAssembly
