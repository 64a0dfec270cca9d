import AttAssembly.Proofs.Operand.Sources

/-!
Operands as they are written. A rendering is put together from the components that are present, each
in its own place, and the reader finds every component again: the star and the group of parentheses
are looked for first, then the symbol and the signed number in front of the group, then the three
places between its commas. Which components are there is all that the mode depends on.
-/

namespace AttAssembly

abbrev LabelName := {name : Text // isName name = true}

/-- A register after its percent sign, the letters of its name in either case. -/
structure WrittenRegister where
  register : Register
  spelling : Text
  spelled : spelling.map Char.toUpper = register.name

namespace WrittenRegister

def text (written : WrittenRegister) : Text := '%' :: written.spelling

theorem letters (written : WrittenRegister) : ∀ c ∈ written.spelling, c.isAlpha = true := by
  have capitals : ∀ register ∈ Register.all, register.name.all Char.isUpper = true := by decide
  intro c member
  have capital : c.toUpper ∈ written.register.name := written.spelled ▸ List.mem_map_of_mem member
  rw [← Char.isUpper_toUpper_eq_isAlpha]
  exact List.all_eq_true.mp (capitals _ written.register.mem_all) _ capital

theorem nameParts (written : WrittenRegister) : ∀ c ∈ written.spelling, isNamePart c = true :=
  fun c member => by simp [isNamePart, Char.isAlphanum, written.letters c member]

theorem text_solid (written : WrittenRegister) :
    ∀ c ∈ written.text, isBlank c = false := by
  intro c member
  rcases List.mem_cons.mp member with rfl | letter
  · rfl
  · exact namePart_not_blank c (written.nameParts c letter)

theorem read_text (written : WrittenRegister) :
    Register.read? written.text = some written.register := by
  have solid : Trimmed written.text := trimmed_of_solid written.text_solid
  have ascii : ∀ c ∈ written.spelling, c.toNat < 0x80 := fun c member =>
    lt_trans (isNamePart_range c (written.nameParts c member)).2 (by decide)
  rw [Register.read?, trim_eq_self solid]
  change Register.ofName? (upper written.spelling) = _
  rw [upper_ascii _ ascii, written.spelled, Register.ofName_name]

end WrittenRegister

theorem toDigits_characters (n : Nat) : ∀ c ∈ Nat.toDigits 10 n, isNamePart c = true := by
  intro c member
  obtain ⟨d, below, same⟩ := mem_toDigits (by decide) n c member
  have each : ∀ d < 10, isNamePart d.digitChar = true := by decide
  exact same ▸ each d below

/-- How many digits a number has, if they are too many. -/
def decimalExcess? (value : Int) : Option Nat := (WrittenInteger.ofInt .decimal value).excess?

theorem readNumber_toDigits (invalid : OperandError) (n : Nat) :
    Operand.readNumber invalid (Nat.toDigits 10 n) =
      Operand.unlessExcess (decimalExcess? n) (n : Int) :=
  (WrittenInteger.ofInt .decimal n).readNumber_text invalid

/-- A number with its sign always written. -/
def signed : Int → Text
  | .ofNat n => '+' :: Nat.toDigits 10 n
  | .negSucc n => '-' :: Nat.toDigits 10 (n + 1)

/-- A memory operand, component by component. -/
structure WrittenReference where
  indirect : Bool
  symbol : Option LabelName
  displacement : Option Int
  base : Option WrittenRegister
  index : Option WrittenRegister
  scale : Option Scale

section Characters

/-- The code points in front of a group. -/
def isFrontPart (c : Char) : Bool := isNamePart c || c = '+' || c = '-'

/-- The code points inside a group. -/
def isGroupPart (c : Char) : Bool := isNamePart c || c = '%' || c = ','

/-- The code points of all operands. -/
def isOperandPart (c : Char) : Bool :=
  isFrontPart c || isGroupPart c || c = '$' || c = '*' || c = '(' || c = ')'

variable (c : Char)

theorem frontPart_quiet (part : isFrontPart c = true) : isQuiet c = true := by
  simp only [isFrontPart, Bool.or_eq_true, decide_eq_true_eq] at part
  rcases part with (name | rfl) | rfl
  · exact namePart_quiet c name
  · rfl
  · rfl

theorem groupPart_quiet (part : isGroupPart c = true) : isQuiet c = true ∨ c = ',' := by
  simp only [isGroupPart, Bool.or_eq_true, decide_eq_true_eq] at part
  rcases part with (name | rfl) | rfl
  · exact .inl (namePart_quiet c name)
  · exact .inl rfl
  · exact .inr rfl

theorem operandPart_solid (part : isOperandPart c = true) : isBlank c = false := by
  simp only [isOperandPart, isFrontPart, isGroupPart, Bool.or_eq_true, decide_eq_true_eq,
    or_assoc] at part
  rcases part with name | rfl | rfl | name | rfl | rfl | rfl | rfl | rfl | rfl
  · exact namePart_not_blank c name
  · rfl
  · rfl
  · exact namePart_not_blank c name
  all_goals rfl

theorem frontPart_operandPart (part : isFrontPart c = true) : isOperandPart c = true := by
  simp [isOperandPart, part]

theorem groupPart_operandPart (part : isGroupPart c = true) : isOperandPart c = true := by
  simp [isOperandPart, part]

theorem namePart_operandPart (part : isNamePart c = true) : isOperandPart c = true := by
  simp [isOperandPart, isFrontPart, part]

end Characters

namespace WrittenReference

def reference (written : WrittenReference) : MemoryReference where
  symbol := written.symbol.map (·.val)
  displacement := written.displacement
  base := written.base.map (·.register)
  index := written.index.map (·.register)
  scale := written.scale
  indirect := written.indirect

/-- How many digits the displacement has, if they are too many. -/
def excess? (written : WrittenReference) : Option Nat := written.displacement.bind decimalExcess?

/-- What stands in front of the group: the symbol and the signed number. -/
def front (written : WrittenReference) : Text :=
  (written.symbol.elim [] (·.val)) ++ written.displacement.elim [] signed

def grouped (written : WrittenReference) : Bool :=
  written.base.isSome || written.index.isSome || written.scale.isSome

def registerText (written : Option WrittenRegister) : Text := written.elim [] (·.text)

def scaleText (scale : Option Scale) : Text := scale.elim [] fun scale => Nat.toDigits 10 scale.factor

/-- The three places between the parentheses. -/
def inside (written : WrittenReference) : Text :=
  registerText written.base ++ ',' :: (registerText written.index ++ ',' :: scaleText written.scale)

def group (written : WrittenReference) : Text :=
  if written.grouped then '(' :: (written.inside ++ [')']) else []

def body (written : WrittenReference) : Text := written.front ++ written.group

def star (indirect : Bool) : Text := if indirect then "*" else ""

def text (written : WrittenReference) : Text := star written.indirect ++ written.body

section Characters

theorem signed_characters (value : Int) : ∀ c ∈ signed value, isFrontPart c = true := by
  intro c member
  cases value with
  | ofNat n =>
      rcases List.mem_cons.mp member with rfl | digit
      · rfl
      · simp [isFrontPart, toDigits_characters n c digit]
  | negSucc n =>
      rcases List.mem_cons.mp member with rfl | digit
      · rfl
      · simp [isFrontPart, toDigits_characters (n + 1) c digit]

theorem front_characters (written : WrittenReference) :
    ∀ c ∈ written.front, isFrontPart c = true := by
  intro c member
  rcases List.mem_append.mp member with symbol | displacement
  · cases name : written.symbol with
    | none => simp [name] at symbol
    | some label =>
        rw [name] at symbol
        simp [isFrontPart, isName_parts label.val label.property c symbol]
  · cases number : written.displacement with
    | none => simp [number] at displacement
    | some value =>
        rw [number] at displacement
        exact signed_characters value c displacement

theorem registerText_characters (written : Option WrittenRegister) :
    ∀ c ∈ registerText written, isNamePart c = true ∨ c = '%' := by
  intro c member
  cases written with
  | none => simp [registerText] at member
  | some register =>
      rcases List.mem_cons.mp member with percent | letter
      · exact .inr percent
      · exact .inl (register.nameParts c letter)

theorem scaleText_characters (scale : Option Scale) :
    ∀ c ∈ scaleText scale, isNamePart c = true := by
  cases scale with
  | none => simp [scaleText]
  | some scale => exact fun c member => toDigits_characters scale.factor c member

theorem inside_characters (written : WrittenReference) :
    ∀ c ∈ written.inside, isGroupPart c = true := by
  have register (place : Option WrittenRegister) :
      ∀ c ∈ registerText place, isGroupPart c = true := by
    intro c member
    rcases registerText_characters place c member with part | rfl
    · simp [isGroupPart, part]
    · rfl
  have scale : ∀ c ∈ scaleText written.scale, isGroupPart c = true := fun c member => by
    simp [isGroupPart, scaleText_characters _ c member]
  exact List.forall_mem_append.mpr ⟨register written.base, List.forall_mem_cons.mpr
    ⟨rfl, List.forall_mem_append.mpr ⟨register written.index, List.forall_mem_cons.mpr ⟨rfl, scale⟩⟩⟩⟩

theorem star_characters (indirect : Bool) : ∀ c ∈ star indirect, c = '*' := by
  cases indirect with
  | true => exact fun c member => List.mem_singleton.mp member
  | false => exact fun c member => absurd member List.not_mem_nil

end Characters

theorem frontPart_other (mark : Char) (noPart : isFrontPart mark = false)
    (written : WrittenReference) : mark ∉ written.front := by
  intro inside
  simp [front_characters written mark inside] at noPart

theorem groupPart_other (mark : Char) (noPart : isGroupPart mark = false)
    (written : WrittenReference) : mark ∉ written.inside := by
  intro within
  simp [inside_characters written mark within] at noPart

section Displacement

theorem front_solid (written : WrittenReference) : ∀ c ∈ written.front, isBlank c = false :=
  fun c member => operandPart_solid c (frontPart_operandPart c (front_characters written c member))

theorem signed_head (displacement : Option Int) :
    ∀ c ∈ (displacement.elim [] signed).head?, c = '+' ∨ c = '-' := by
  intro c first
  cases displacement with
  | none => cases first
  | some value =>
      cases value with
      | ofNat n => exact .inl (Option.some.inj first).symm
      | negSucc n => exact .inr (Option.some.inj first).symm

theorem leadingName_front (written : WrittenReference) :
    leadingName written.front =
      (written.symbol.elim [] (·.val), written.displacement.elim [] signed) := by
  -- A sign is no part of a name, so the name ends where the number begins.
  have sign := signed_head written.displacement
  rw [front]
  cases written.symbol with
  | none =>
      refine leadingName_none _ fun c first => ?_
      rcases sign c first with rfl | rfl <;> rfl
  | some label =>
      refine leadingName_append label.val _ label.property fun c first => ?_
      rcases sign c first with rfl | rfl <;> rfl

theorem signedDisplacement_digits (token : Text) (symbol : Option Text) (sign : Int) (n : Nat) :
    Operand.signedDisplacement token symbol sign (Nat.toDigits 10 n) =
      Operand.unlessExcess (decimalExcess? n) (symbol, some (sign * n)) := by
  rw [Operand.signedDisplacement, readNumber_toDigits]
  cases decimalExcess? n <;> rfl

theorem readDisplacement_front (written : WrittenReference) :
    Operand.readDisplacement written.front =
      Operand.unlessExcess written.excess? (written.reference.symbol, written.displacement) := by
  have feed : '\n' ∉ written.front := frontPart_other '\n' rfl written
  have symbol : (if written.symbol.elim [] (·.val) = [] then none
      else some (written.symbol.elim [] (·.val))) = written.reference.symbol := by
    rw [reference]
    cases written.symbol with
    | none => rfl
    | some label =>
        -- Absent and empty are the same to the reader, but a name is never empty.
        have nonempty : label.val ≠ [] := by
          intro empty
          have named := label.property
          rw [empty] at named
          cases named
        simp [nonempty]
  have trimmed : Trimmed (written.displacement.elim [] signed) := by
    refine trimmed_of_solid ?_
    cases written.displacement with
    | none => simp
    | some value => exact fun c member =>
        operandPart_solid c (frontPart_operandPart c (signed_characters value c member))
  simp only [Operand.readDisplacement, trim_eq_self (trimmed_of_solid (front_solid written)), feed,
    if_false, leadingName_front, symbol, trim_eq_self trimmed, excess?]
  cases written.displacement with
  | none => rfl
  | some value =>
      cases value with
      | ofNat n =>
          refine (signedDisplacement_digits _ _ 1 n).trans ?_
          rw [one_mul]
          rfl
      | negSucc n =>
          refine (signedDisplacement_digits _ _ (-1) (n + 1)).trans ?_
          rw [neg_one_mul]
          rfl

end Displacement

section Group

theorem splitWhere_inside (written : WrittenReference) :
    splitWhere (· = ',') written.inside =
      (registerText written.base, [registerText written.index, scaleText written.scale]) := by
  have register (place : Option WrittenRegister) :
      ∀ c ∈ registerText place, decide (c = ',') = false := by
    intro c member
    rcases registerText_characters place c member with part | rfl
    · refine decide_eq_false ?_
      rintro rfl
      cases part
    · rfl
  have scale : ∀ c ∈ scaleText written.scale, decide (c = ',') = false := by
    intro c member
    refine decide_eq_false ?_
    rintro rfl
    cases scaleText_characters _ _ member
  rw [inside, splitWhere_append _ _ _ (register written.base), splitWhere,
    splitWhere_append _ _ _ (register written.index), splitWhere, splitWhere_joined _ _ scale]
  simp

theorem registerText_trimmed (written : Option WrittenRegister) :
    trim (registerText written) = registerText written := by
  refine trim_eq_self (trimmed_of_solid fun c member => ?_)
  rcases registerText_characters written c member with part | rfl
  · exact namePart_not_blank c part
  · rfl

theorem scaleText_trimmed (scale : Option Scale) : trim (scaleText scale) = scaleText scale :=
  trim_eq_self (trimmed_of_solid fun c member =>
    namePart_not_blank c (scaleText_characters scale c member))

theorem readComponent_registerText (error : Text → OperandError)
    (written : Option WrittenRegister) :
    Operand.readComponent error (registerText written) = .ok (written.map (·.register)) := by
  cases written with
  | none => rfl
  | some register =>
      change Operand.readComponent error ('%' :: register.spelling) = _
      have read : Register.read? ('%' :: register.spelling) = some register.register :=
        register.read_text
      simp [Operand.readComponent, read]

theorem readScaleComponent_scaleText (scale : Option Scale) :
    Operand.readScaleComponent (scaleText scale) = .ok scale := by
  cases scale with
  | none => rfl
  | some scale => cases scale <;> rfl

theorem readComponents_inside (token : Text) (written : WrittenReference) :
    Operand.readComponents token written.inside =
      .ok (written.reference.base, written.reference.index, written.scale) := by
  simp only [Operand.readComponents, splitWhere_inside, List.map_cons, List.map_nil,
    registerText_trimmed, scaleText_trimmed]
  change (do
    let base ← Operand.readComponent .invalidBase (registerText written.base)
    let index ← Operand.readComponent .invalidIndex (registerText written.index)
    let scale ← Operand.readScaleComponent (scaleText written.scale)
    return (base, index, scale)) = _
  rw [readComponent_registerText, readComponent_registerText, readScaleComponent_scaleText]
  rfl

theorem splitAtLastClose_closed (inside : Text) :
    Operand.splitAtLastClose (inside ++ [')']) = (inside, []) := by
  simp [Operand.splitAtLastClose]

end Group

section References

theorem front_plain (written : WrittenReference) : ∀ c ∈ written.front, c ≠ '(' ∧ c ≠ ')' :=
  fun _ member => ⟨ne_of_mem_of_not_mem member (frontPart_other '(' rfl written),
    ne_of_mem_of_not_mem member (frontPart_other ')' rfl written)⟩

theorem inside_plain (written : WrittenReference) : ∀ c ∈ written.inside, c ≠ '(' ∧ c ≠ ')' :=
  fun _ member => ⟨ne_of_mem_of_not_mem member (groupPart_other '(' rfl written),
    ne_of_mem_of_not_mem member (groupPart_other ')' rfl written)⟩

theorem body_balanced (written : WrittenReference) : Operand.balanced written.body = true := by
  rw [Operand.balanced, body, Operand.balancedFrom_plain 0 _ _ (front_plain written), group]
  split
  · rw [Operand.balancedFrom, Operand.balancedFrom_plain 1 _ _ (inside_plain written)]
    rfl
  · rfl

theorem front_ungrouped (written : WrittenReference) :
    ∀ c ∈ written.front, decide (c ≠ '(') = true :=
  fun c member => decide_eq_true (front_plain written c member).1

theorem readReference_grouped (token : Text) (written : WrittenReference)
    (grouped : written.grouped = true) :
    Operand.readReference token written.body written.indirect =
      Operand.unlessExcess written.excess? (written.reference, written.reference.mode) := by
  have body : written.body = written.front ++ '(' :: (written.inside ++ [')']) := by
    rw [body, group, if_pos grouped]
  have opening : ∀ c ∈ ('(' :: (written.inside ++ [')'])).head?, decide (c ≠ '(') = false := by
    rintro c ⟨⟩
    rfl
  obtain ⟨before, after⟩ := cut_exact (front_ungrouped written) opening
  rw [← body] at before after
  have nested : '(' ∉ written.inside := groupPart_other '(' rfl written
  rw [Operand.readReference, after, before]
  simp only [splitAtLastClose_closed, readDisplacement_front, readComponents_inside]
  simp only [nested, if_false]
  cases written.excess? <;> rfl

theorem readReference_ungrouped (token : Text) (written : WrittenReference)
    (ungrouped : written.grouped = false) :
    Operand.readReference token written.body written.indirect =
      Operand.unlessExcess written.excess? (written.reference, written.reference.mode) := by
  have body : written.body = written.front := by simp [body, group, ungrouped]
  have before : written.body.dropWhile (· ≠ '(') = [] := by
    rw [body]
    exact List.dropWhile_eq_nil_iff.mpr (front_ungrouped written)
  obtain ⟨⟨base, index⟩, scale⟩ :
      (written.base = none ∧ written.index = none) ∧ written.scale = none := by
    simpa [grouped] using ungrouped
  have reference : written.reference =
      ⟨written.reference.symbol, written.displacement, none, none, none, written.indirect⟩ := by
    simp [reference, base, index, scale]
  rw [Operand.readReference, before, body]
  simp only [readDisplacement_front]
  rw [reference]
  cases written.excess? with
  | some count => rfl
  | none => cases written.reference.symbol <;> cases written.displacement <;> rfl

theorem readReference_body (token : Text) (written : WrittenReference) :
    Operand.readReference token written.body written.indirect =
      Operand.unlessExcess written.excess? (written.reference, written.reference.mode) := by
  cases grouped : written.grouped with
  | true => exact readReference_grouped token written grouped
  | false => exact readReference_ungrouped token written grouped

/-- A reference begins with its symbol, a sign or the group. -/
theorem body_head (written : WrittenReference) :
    ∀ c ∈ written.body.head?, isFrontPart c = true ∨ c = '(' := by
  intro c first
  cases front : written.front with
  | nil =>
      rw [body, front, List.nil_append, group] at first
      split at first
      · exact .inr (Option.some.inj first).symm
      · cases first
  | cons d rest =>
      rw [body, front] at first
      have same : d = c := Option.some.inj first
      have inside : c ∈ written.front := by simp [front, same]
      exact .inl (front_characters written c inside)

theorem body_characters (written : WrittenReference) :
    ∀ c ∈ written.body, isOperandPart c = true := by
  have front := fun c member => frontPart_operandPart c (front_characters written c member)
  have inside := fun c member => groupPart_operandPart c (inside_characters written c member)
  refine List.forall_mem_append.mpr ⟨front, ?_⟩
  rw [group]
  split
  · exact List.forall_mem_cons.mpr ⟨rfl, List.forall_mem_append.mpr ⟨inside, by simp [isOperandPart]⟩⟩
  · simp

theorem text_characters (written : WrittenReference) :
    ∀ c ∈ written.text, isOperandPart c = true :=
  List.forall_mem_append.mpr
    ⟨fun c member => star_characters _ c member ▸ rfl, body_characters written⟩

theorem body_trimmed (written : WrittenReference) : Trimmed written.body :=
  trimmed_of_solid fun c member => operandPart_solid c (body_characters written c member)

theorem text_trimmed (written : WrittenReference) : Trimmed written.text :=
  trimmed_of_solid fun c member => operandPart_solid c (text_characters written c member)

theorem splitStar_text (written : WrittenReference) :
    Operand.splitStar written.text = (written.indirect, written.body) := by
  rw [text]
  cases written.indirect with
  | true =>
      change (true, trim written.body) = _
      rw [trim_eq_self (body_trimmed written)]
  | false =>
      apply Operand.splitStar_unstarred
      intro starred
      rcases body_head written '*' starred with part | opening
      · cases part
      · cases opening

theorem text_head (written : WrittenReference) :
    ∀ c ∈ written.text.head?, isFrontPart c = true ∨ c = '(' ∨ c = '*' := by
  intro c first
  cases indirect : written.indirect with
  | true =>
      rw [text, star, indirect] at first
      exact .inr (.inr (Option.some.inj first).symm)
  | false =>
      rw [text, star, indirect] at first
      exact (body_head written c first).imp_right .inl

theorem readMemory_text (written : WrittenReference) :
    Operand.readMemory written.text = Operand.unlessExcess written.excess?
      ⟨written.text, .memory written.reference, written.reference.mode⟩ := by
  -- After a star a percent sign would make the operand a jump through a register.
  have through : (written.indirect && decide (written.body.head? = some '%')) = false := by
    have first : written.body.head? ≠ some '%' := by
      intro percent
      rcases body_head written '%' percent with part | opening
      · cases part
      · cases opening
    simp [first]
  simp only [Operand.readMemory, trim_eq_self (text_trimmed written), splitStar_text,
    body_balanced, through, readReference_body]
  cases written.excess? <;> rfl

theorem text_contained (written : WrittenReference) : SelfContained written.text := by
  have lead : ∀ c ∈ star written.indirect ++ written.front, isQuiet c = true :=
    List.forall_mem_append.mpr ⟨fun c member => star_characters _ c member ▸ rfl,
      fun c member => frontPart_quiet c (front_characters written c member)⟩
  rw [text, body, ← List.append_assoc, group]
  split
  · rw [← List.cons_append, ← List.append_assoc]
    exact selfContained_group _ _ lead fun c member =>
      groupPart_quiet c (inside_characters written c member)
  · rw [List.append_nil]
    exact selfContained_of_quiet _ lead

end References

end WrittenReference

inductive WrittenOperand where
  | number (value : Int) (range : InRange value)
  | symbol (name : LabelName)
  | register (written : WrittenRegister)
  | memory (written : WrittenReference)

namespace WrittenOperand

def text : WrittenOperand → Text
  | number value _ => '$' :: decimal value
  | symbol name => '$' :: name.val
  | register written => written.text
  | memory written => written.text

def form : WrittenOperand → OperandForm
  | number value _ => .immediate (.number value)
  | symbol name => .immediate (.symbol name.val)
  | register written => .register written.register
  | memory written => .memory written.reference

/-- How many digits of the rendering are too many to be read. Immediates have few digits. -/
def excess? : WrittenOperand → Option Nat
  | memory written => written.excess?
  | _ => none

def isRead (written : WrittenOperand) : Bool := written.excess?.isNone

/-- The operand that a rendering stands for. -/
def operand (written : WrittenOperand) : Operand := ⟨written.text, written.form, written.form.mode⟩

section Immediates

theorem decimal_characters (value : Int) : ∀ c ∈ decimal value, isFrontPart c = true := by
  have digits (n : Nat) : ∀ c ∈ Nat.toDigits 10 n, isFrontPart c = true :=
    fun c member => by simp [isFrontPart, toDigits_characters n c member]
  intro c member
  cases value with
  | ofNat n => exact digits n c member
  | negSucc n =>
      rcases List.mem_cons.mp member with rfl | digit
      · rfl
      · exact digits (n + 1) c digit

theorem writable_of_inRange {value : Int} (range : InRange value) : writable value = true := by
  have words : 2 ^ 32 < writingBound := by decide +kernel
  have small : value.natAbs ≤ 2 ^ 32 := by
    obtain ⟨low, high⟩ := range
    omega
  exact decide_eq_true (lt_of_le_of_lt small words)

theorem read_number (value : Int) (range : InRange value) :
    Operand.read ('$' :: decimal value) =
      .ok ⟨'$' :: decimal value, .immediate (.number value), .immediate⟩ := by
  have solid : ∀ c ∈ '$' :: decimal value, isBlank c = false :=
    List.forall_mem_cons.mpr ⟨rfl, fun c member =>
      operandPart_solid c (frontPart_operandPart c (decimal_characters value c member))⟩
  rw [Operand.read_dollar (trim_eq_self (trimmed_of_solid solid)), ← WrittenInteger.ofInt_decimal,
    WrittenInteger.readImmediate_text _ (by rwa [WrittenInteger.ofInt_value])
      ((WrittenInteger.excess_ofInt value).mpr (writable_of_inRange range)),
    WrittenInteger.ofInt_value]

theorem read_symbol (name : LabelName) :
    Operand.read ('$' :: name.val) =
      .ok ⟨'$' :: name.val, .immediate (.symbol name.val), .immediate⟩ := by
  have trimmed := isName_trimmed name.val name.property
  have whole : trim ('$' :: name.val) = '$' :: name.val := by
    refine trim_eq_self (trimmed_of_solid fun c member => ?_)
    rcases List.mem_cons.mp member with rfl | letter
    · rfl
    · exact namePart_not_blank c (isName_parts name.val name.property c letter)
  simp only [Operand.read, whole, Operand.readImmediate, trim_eq_self trimmed,
    isName_isLabelName name.val name.property]
  rfl

end Immediates

theorem read_register (written : WrittenRegister) :
    Operand.read written.text = .ok ⟨written.text, .register written.register, .register⟩ := by
  have whole : trim ('%' :: written.spelling) = '%' :: written.spelling :=
    trim_eq_self (trimmed_of_solid written.text_solid)
  have named : Operand.readRegisterName ('%' :: written.spelling) = .ok written.register := by
    rw [Operand.readRegisterName, ← WrittenRegister.text, written.read_text]
  simp only [WrittenRegister.text, Operand.read, whole, Operand.readRegister, named]
  rfl

theorem read_reference (written : WrittenReference) :
    Operand.read written.text = Operand.unlessExcess written.excess?
      ⟨written.text, .memory written.reference, written.reference.mode⟩ := by
  have whole : trim written.text = written.text := trim_eq_self written.text_trimmed
  have noDollar : (trim written.text).head? ≠ some '$' := by
    rw [whole]
    intro dollar
    rcases written.text_head '$' dollar with part | opening | starred <;> contradiction
  have noPercent : (trim written.text).head? ≠ some '%' := by
    rw [whole]
    intro percent
    rcases written.text_head '%' percent with part | opening | starred <;> contradiction
  rw [Operand.read_unmarked _ noDollar noPercent, whole, written.readMemory_text]

theorem excess_none_iff (written : WrittenOperand) :
    written.excess? = none ↔ ∀ reference, written = .memory reference →
      ∀ value ∈ reference.displacement, writable value = true := by
  cases written with
  | memory reference =>
      simp only [excess?, WrittenReference.excess?, decimalExcess?, Option.bind_eq_none_iff,
        WrittenInteger.excess_ofInt, memory.injEq, forall_eq', Option.mem_def]
  | _ => simp [excess?]

/-- Reading undoes writing, unless a displacement is written that is not read. -/
theorem read_text (written : WrittenOperand) :
    Operand.read written.text = Operand.unlessExcess written.excess? written.operand := by
  cases written with
  | number value range => exact read_number value range
  | symbol name => exact read_symbol name
  | register written => exact read_register written
  | memory written => exact read_reference written

section Pieces

theorem text_characters (written : WrittenOperand) :
    ∀ c ∈ written.text, isOperandPart c = true := by
  cases written with
  | number value range =>
      exact List.forall_mem_cons.mpr
        ⟨rfl, fun c digit => frontPart_operandPart c (decimal_characters value c digit)⟩
  | symbol name =>
      exact List.forall_mem_cons.mpr
        ⟨rfl, fun c letter => namePart_operandPart c (isName_parts name.val name.property c letter)⟩
  | register written =>
      exact List.forall_mem_cons.mpr
        ⟨rfl, fun c letter => namePart_operandPart c (written.nameParts c letter)⟩
  | memory written => exact written.text_characters

theorem text_contained (written : WrittenOperand) : SelfContained written.text := by
  cases written with
  | number value range =>
      exact selfContained_of_quiet _ (List.forall_mem_cons.mpr
        ⟨rfl, fun c digit => frontPart_quiet c (decimal_characters value c digit)⟩)
  | symbol name =>
      exact selfContained_of_quiet _ (List.forall_mem_cons.mpr
        ⟨rfl, fun c letter => namePart_quiet c (isName_parts name.val name.property c letter)⟩)
  | register written =>
      exact selfContained_of_quiet _ (List.forall_mem_cons.mpr
        ⟨rfl, fun c letter => namePart_quiet c (written.nameParts c letter)⟩)
  | memory written => exact written.text_contained

theorem text_isPiece (written : WrittenOperand) (nonempty : written.text ≠ []) :
    IsPiece written.text :=
  ⟨written.text_contained,
    trimmed_of_solid fun c member => operandPart_solid c (written.text_characters c member), nonempty⟩

end Pieces

end WrittenOperand

end AttAssembly
