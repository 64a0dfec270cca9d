import AttAssembly.Proofs.Operand.Parentheses
import AttAssembly.Proofs.Text.Capitals

/-!
The names of registers. A token names a register if it spells the name letter by letter, blanks around it
and one percent sign aside; letter case does not matter, and the long s and the dotless i stand for the
letters that they are read as. An operand that is a register is spelled so after its percent sign, and so
are the base and the index of a memory reference, between what separates the components of the reference.
-/

namespace AttAssembly

/-- What a token holds besides blanks around it and one percent sign. -/
def bareName (token : Text) : Text :=
  match trim token with
  | '%' :: name => name
  | name => name

/-- What can stand beside a component of a memory reference. -/
def isDelimiter (c : Char) : Bool := isBlank c || c = '*' || c = '(' || c = ',' || c = ')'

/-- The part is in the text, up to a delimiter or the end of the text on both sides. -/
def Delimited (part text : Text) : Prop :=
  ∃ before after, text = before ++ part ++ after ∧ (∀ c ∈ before.getLast?, isDelimiter c = true) ∧
    ∀ c ∈ after.head?, isDelimiter c = true

/-- The name of the register stands in the text by itself, after a percent sign and in any spelling. -/
def Register.NamedIn (register : Register) (text : Text) : Prop :=
  ∃ name, Delimited ('%' :: name) text ∧ name.map readCapital = register.name

section Delimiters

theorem blank_delimits {c : Char} (blank : isBlank c = true) : isDelimiter c = true := by
  simp [isDelimiter, blank]

theorem Delimited.refl (text : Text) : Delimited text text := ⟨[], [], by simp, nofun, nofun⟩

theorem Delimited.trans {part middle text : Text} (inner : Delimited part middle)
    (outer : Delimited middle text) : Delimited part text := by
  obtain ⟨before, after, rfl, left, right⟩ := inner
  obtain ⟨front, back, rfl, first, last⟩ := outer
  refine ⟨front ++ before, after ++ back, by simp, ?_, ?_⟩
  · intro c ends
    rw [List.getLast?_append] at ends
    exact (Option.or_eq_some_iff.mp ends).elim (left c) fun ends => first c ends.2
  · intro c starts
    rw [List.head?_append] at starts
    exact (Option.or_eq_some_iff.mp starts).elim (right c) fun starts => last c starts.2

theorem delimited_trim (text : Text) : Delimited (trim text) text := by
  obtain ⟨before, after, whole, front, back⟩ := trim_within text
  exact ⟨before, after, whole, fun c last => blank_delimits (front c (List.mem_of_getLast? last)),
    fun c first => blank_delimits (back c (List.mem_of_head? first))⟩

theorem delimited_behind {before text : Text} {mark : Char} (delimits : isDelimiter mark = true) :
    Delimited text (before ++ mark :: text) := by
  refine ⟨before ++ [mark], [], by simp, fun c last => ?_, nofun⟩
  rw [List.getLast?_concat] at last
  exact Option.mem_some.mp last ▸ delimits

theorem delimited_part (text : Text) : ∀ part ∈ splitParts (· = ',') text, Delimited part text := by
  have comma {c : Char} (separates : decide (c = ',') = true) : isDelimiter c = true := by
    simp_all [isDelimiter]
  intro part member
  rcases List.mem_cons.mp member with rfl | among
  · obtain ⟨after, whole, stop⟩ := first_part (· = ',') text
    exact ⟨[], after, whole, nofun, fun c first => comma (stop c first)⟩
  · obtain ⟨before, mark, after, whole, separates, stop⟩ := later_part (· = ',') text part among
    have inner : Delimited part (part ++ after) :=
      ⟨[], after, rfl, nofun, fun c first => comma (stop c first)⟩
    exact whole ▸ inner.trans (delimited_behind (comma separates))

end Delimiters

theorem bareName_percent {token name : Text} (percent : trim token = '%' :: name) :
    bareName token = name := by
  simp only [bareName, percent]

theorem bareName_cases (token : Text) :
    trim token = bareName token ∨ trim token = '%' :: bareName token := by
  rw [bareName]
  split
  · next name percent => exact .inr percent
  · exact .inl rfl

theorem bareName_unmarked {token : Text} (unmarked : (trim token).head? ≠ some '%') :
    bareName token = trim token := by
  refine (bareName_cases token).elim Eq.symm fun percent => absurd ?_ unmarked
  rw [percent]
  rfl

/-- Only blanks and percent signs are left out. -/
theorem mem_bareName {token : Text} {c : Char} (solid : isBlank c = false) (other : c ≠ '%') :
    c ∈ bareName token ↔ c ∈ token := by
  obtain ⟨before, after, whole, front, back⟩ := trim_within token
  have inside : c ∈ trim token ↔ c ∈ bareName token := by
    rcases bareName_cases token with same | same <;> simp [same, other]
  have outside {blanks : Text} (blank : ∀ d ∈ blanks, isBlank d = true) : c ∉ blanks :=
    fun member => blank_ne (blank c member) solid rfl
  conv_rhs => rw [whole]
  simp [inside, outside front, outside back]

namespace Register

theorem ofName_iff (name : Text) (register : Register) :
    ofName? name = some register ↔ name = register.name := by
  constructor
  · intro found
    have same := List.find?_some found
    exact (of_decide_eq_true same).symm
  · rintro rfl
    exact register.ofName_name

theorem name_capitals (register : Register) : ∀ d ∈ register.name, d.isUpper = true := by
  have each : ∀ register ∈ all, register.name.all Char.isUpper = true := by decide
  exact List.all_eq_true.mp (each register register.mem_all)

theorem name_unligated (register : Register) : Unligated register.name := by
  have each : ∀ register ∈ all,
      register.name.Nodup ∧ 'F' ∉ register.name ∧ 'T' ∉ register.name := by decide
  obtain ⟨distinct, others⟩ := each register register.mem_all
  exact unligated_of_distinct register.name_capitals distinct others

theorem read_iff (token : Text) (register : Register) :
    read? token = some register ↔ (bareName token).map readCapital = register.name := by
  have read : read? token = ofName? (upper (bareName token)) := by
    rw [read?]
    split
    · next name percent => rw [bareName_percent percent]
    · next unmarked =>
        rw [bareName_unmarked fun first => ?_]
        obtain ⟨rest, same⟩ := List.head?_eq_some_iff.mp first
        exact unmarked rest same
  rw [read, ofName_iff, upper_eq_iff register.name_capitals register.name_unligated]

/-- In ASCII letters, of either case, the name is the register's own. -/
theorem read_ascii_iff (token : Text) (register : Register) :
    (bareName token).map Char.toUpper = register.name ↔
      read? token = some register ∧ 'ſ' ∉ token ∧ 'ı' ∉ token := by
  rw [read_iff, ← @mem_bareName token 'ſ' rfl (by decide), ← @mem_bareName token 'ı' rfl (by decide)]
  have plain (long : 'ſ' ∉ bareName token) (dotless : 'ı' ∉ bareName token) :
      (bareName token).map readCapital = (bareName token).map Char.toUpper :=
    List.map_congr_left fun c member => readCapital_plain (fun same => long (same ▸ member))
      fun same => dotless (same ▸ member)
  constructor
  · intro spelled
    have letters : ∀ c ∈ bareName token, c.isAlpha = true := by
      intro c member
      rw [← Char.isUpper_toUpper_eq_isAlpha]
      exact register.name_capitals _ (spelled ▸ List.mem_map_of_mem member)
    have long : 'ſ' ∉ bareName token := fun member => absurd (letters _ member) (by decide)
    have dotless : 'ı' ∉ bareName token := fun member => absurd (letters _ member) (by decide)
    exact ⟨(plain long dotless).trans spelled, long, dotless⟩
  · rintro ⟨spelled, long, dotless⟩
    exact (plain long dotless).symm.trans spelled

end Register

theorem Register.NamedIn.mono {register : Register} {text whole : Text}
    (named : register.NamedIn text) (inside : Delimited text whole) : register.NamedIn whole := by
  obtain ⟨name, among, spelled⟩ := named
  exact ⟨name, among.trans inside, spelled⟩

theorem named_of_component {component : Text} {register : Register} (trimmed : Trimmed component)
    (percent : component.head? = some '%')
    (spelled : (bareName component).map readCapital = register.name) : register.NamedIn component := by
  obtain ⟨name, same⟩ := List.head?_eq_some_iff.mp percent
  rw [bareName_percent ((trim_eq_self trimmed).trans same)] at spelled
  exact ⟨name, same ▸ .refl component, spelled⟩

namespace Operand

theorem readRegisterName_iff (token : Text) (register : Register) :
    readRegisterName token = .ok register ↔ (bareName token).map readCapital = register.name := by
  rw [← Register.read_iff, readRegisterName]
  cases Register.read? token <;> simp

theorem readRegister_iff (token : Text) (operand : Operand) :
    readRegister token = .ok operand ↔ ∃ name register, trim token = '%' :: name ∧
      name.map readCapital = register.name ∧
        operand = ⟨'%' :: name, .register register, .register⟩ := by
  rw [readRegister_ok_iff]
  refine exists_congr fun name => exists_congr fun register => and_congr_right fun percent => ?_
  have bare : bareName ('%' :: name) = name := bareName_percent (percent ▸ trim_trim token)
  rw [readRegisterName_iff, bare]

theorem readImmediate_form {token : Text} {operand : Operand}
    (read : readImmediate token = .ok operand) : ∃ value, operand.form = .immediate value := by
  cases readImmediate_iff.mp read <;> exact ⟨_, rfl⟩

/-- An operand is a register only after a percent sign. -/
theorem read_register {token : Text} {operand : Operand} {register : Register}
    (found : Operand.read token = .ok operand) (form : operand.form = .register register) :
    ∃ name, operand.text = '%' :: name ∧ name.map readCapital = register.name := by
  simp only [Operand.read] at found
  split at found
  · obtain ⟨value, immediate⟩ := readImmediate_form found
    rw [form] at immediate
    cases immediate
  · obtain ⟨name, other, _, spelled, rfl⟩ := (readRegister_iff _ _).mp found
    cases form
    exact ⟨name, rfl, spelled⟩
  · have memory := readMemory_isMemory found
    rw [isMemory, form] at memory
    cases memory

theorem readComponent_iff (error : Text → OperandError) (component : Text) (register : Register) :
    readComponent error component = .ok (some register) ↔
      component.head? = some '%' ∧ (bareName component).map readCapital = register.name := by
  rw [← Register.read_iff, readComponent.eq_def]
  split
  · simp
  · next name =>
      cases Register.read? ('%' :: name) <;> simp
  · next other =>
      refine iff_of_false (by simp) ?_
      rintro ⟨first, _⟩
      obtain ⟨rest, same⟩ := List.head?_eq_some_iff.mp first
      exact other rest same

section Memory

variable {token : Text} {register : Register}

/-- The registers between the parentheses stand there after percent signs. -/
theorem readComponents_named {inside : Text} {base index : Option Register} {scale : Option Scale}
    (read : readComponents token inside = .ok (base, index, scale)) :
    (∀ register ∈ base, register.NamedIn inside) ∧ ∀ register ∈ index, register.NamedIn inside := by
  have component {error : Text → OperandError} {position : Nat} {found : Option Register}
      (read : readComponent error (((splitParts (· = ',') inside).map trim).getD position []) =
        .ok found) : ∀ register ∈ found, register.NamedIn inside := by
    rintro register ⟨⟩
    obtain ⟨percent, spelled⟩ := (readComponent_iff _ _ _).mp read
    rw [List.getD_eq_getElem?_getD] at percent spelled
    cases at_ : ((splitParts (· = ',') inside).map trim)[position]? with
    | none => simp [at_] at percent
    | some component =>
        rw [at_, Option.getD_some] at percent spelled
        obtain ⟨part, among, rfl⟩ := List.mem_map.mp (List.mem_of_getElem? at_)
        exact (named_of_component (trimmed_trim part) percent spelled).mono
          ((delimited_trim part).trans (delimited_part inside part among))
  simp only [readComponents] at read
  split at read
  · cases read
  · obtain ⟨_, first, rest⟩ := (bind_ok_iff _ _ _).mp read
    obtain ⟨_, second, rest⟩ := (bind_ok_iff _ _ _).mp rest
    obtain ⟨_, _, same⟩ := (bind_ok_iff _ _ _).mp rest
    cases same
    exact ⟨component first, component second⟩

/-- What is named before the last closing parenthesis is delimited by it. -/
theorem grouped_named {text : Text} (named : register.NamedIn (splitAtLastClose text).1) :
    register.NamedIn text := by
  rcases splitAtLastClose_cases text with unclosed | closed
  · obtain ⟨name, ⟨before, after, nothing, _⟩, _⟩ := named
    simp [unclosed] at nothing
  · exact named.mono ⟨[], _, closed, nofun, fun c first => Option.mem_some.mp first ▸ rfl⟩

theorem readReference_named {body : Text} {indirect : Bool} {reference : MemoryReference}
    {mode : AddressingMode} (read : readReference token body indirect = .ok (reference, mode)) :
    (∀ register ∈ reference.base, register.NamedIn body) ∧
      ∀ register ∈ reference.index, register.NamedIn body := by
  cases readReference_iff.mp read with
  | bare => simp
  | @grouped opening rest _ _ _ _ _ group _ _ _ inside =>
      have within : Delimited rest body := by
        have stopped := List.head?_dropWhile_not (· ≠ '(') body
        rw [group] at stopped
        have opens : opening = '(' := by simpa using stopped
        rw [← List.takeWhile_append_dropWhile (p := (· ≠ '(')) (l := body), group, opens]
        exact delimited_behind rfl
      obtain ⟨first, second⟩ := readComponents_named inside
      exact ⟨fun register found => (grouped_named (first register found)).mono within,
        fun register found => (grouped_named (second register found)).mono within⟩

theorem delimited_splitStar (text : Text) : Delimited (splitStar text).2 text := by
  rw [splitStar.eq_def]
  split
  · next rest => exact (delimited_trim rest).trans (@delimited_behind [] rest '*' rfl)
  · exact .refl _

theorem splitStar_trimmed {text : Text} (trimmed : Trimmed text) : Trimmed (splitStar text).2 := by
  rw [splitStar.eq_def]
  split
  · exact trimmed_trim _
  · exact trimmed

/-- So do the registers of a memory reference, also the one that a jump goes through. -/
theorem readMemory_named {operand : Operand} {reference : MemoryReference}
    (read : readMemory token = .ok operand) (memory : operand.form = .memory reference) :
    (∀ register ∈ reference.base, register.NamedIn token) ∧
      ∀ register ∈ reference.index, register.NamedIn token := by
  have within : Delimited (splitStar (trim token)).2 token :=
    (delimited_splitStar _).trans (delimited_trim token)
  cases readMemory_iff.mp read with
  | @jump base _ _ percent found =>
      cases memory
      have named := named_of_component (splitStar_trimmed (trimmed_trim token)) percent
        ((readRegisterName_iff _ base).mp found)
      refine ⟨?_, by simp⟩
      rintro register ⟨⟩
      exact named.mono within
  | reference _ _ referred =>
      cases memory
      obtain ⟨base, index⟩ := readReference_named referred
      exact ⟨fun register found => (base register found).mono within,
        fun register found => (index register found).mono within⟩

end Memory

end Operand

end AttAssembly
