import AttAssembly.Operand.Directive
import AttAssembly.Operand.Reader
import AttAssembly.Proofs.Lexeme.Numerals
import AttAssembly.Proofs.Machine.Range

/-!
What a reader makes of a token. An operand keeps the trimmed token as its text, and its form is one of
those that its reader makes: the numbers of instructions fit 32 bits and their symbols are names,
while directives take any number, strings and expressions. The mode always is the one that the form
has by itself; for a memory reference that is the table of components, whether or not parentheses
were written.
-/

namespace AttAssembly

theorem bind_ok_iff {Cause Value Next : Type} (reading : Except Cause Value)
    (continuation : Value → Except Cause Next) (result : Next) :
    reading >>= continuation = .ok result ↔
      ∃ value, reading = .ok value ∧ continuation value = .ok result := by
  cases reading with
  | error cause => simp [bind, Except.bind]
  | ok value => simp [bind, Except.bind]

/-- The names of the registers with their sizes and the general registers that hold them. -/
def registerTable : List (Text × OperandSize × GeneralRegister) :=
  [ ("EAX", .long, .eax), ("EBX", .long, .ebx), ("ECX", .long, .ecx), ("EDX", .long, .edx),
    ("ESI", .long, .esi), ("EDI", .long, .edi), ("EBP", .long, .ebp), ("ESP", .long, .esp),
    ("AX", .word, .eax), ("BX", .word, .ebx), ("CX", .word, .ecx), ("DX", .word, .edx),
    ("SI", .word, .esi), ("DI", .word, .edi), ("BP", .word, .ebp), ("SP", .word, .esp),
    ("AL", .byte, .eax), ("AH", .byte, .eax), ("BL", .byte, .ebx), ("BH", .byte, .ebx),
    ("CL", .byte, .ecx), ("CH", .byte, .ecx), ("DL", .byte, .edx), ("DH", .byte, .edx)]

def Register.Tabled (register : Register) : Prop :=
  (register.name, register.size, register.parent) ∈ registerTable

theorem Register.mem_all (register : Register) : register ∈ Register.all := by
  cases register with
  | long register => cases register <;> decide
  | word register => cases register <;> decide
  | low holder => cases holder <;> decide
  | high holder => cases holder <;> decide

theorem Register.tabled (register : Register) : register.Tabled := by
  have each : ∀ register ∈ Register.all,
      (register.name, register.size, register.parent) ∈ registerTable := by decide
  exact each register register.mem_all

theorem Register.ofName_name (register : Register) : ofName? register.name = some register := by
  have each : ∀ register ∈ Register.all, ofName? register.name = some register := by decide
  exact each register register.mem_all

/-- Every code point of a register name has a capital letter for its upper case. -/
theorem Register.read_capitals {name : Text} {register : Register}
    (read : ofName? (upper name) = some register) :
    ∀ c ∈ name, ∀ d ∈ upperLetter c, d.isUpper = true := by
  have capitals : ∀ register ∈ Register.all, register.name.all Char.isUpper = true := by decide
  rw [ofName?] at read
  have named : register.name = upper name := by simpa using List.find?_some read
  intro c member d among
  have inside : d ∈ register.name := named ▸ List.mem_flatMap.mpr ⟨c, member, among⟩
  exact List.all_eq_true.mp (capitals register register.mem_all) d inside

/-- A reference whose components are what they stand for. -/
structure MemoryReference.WellFormed (reference : MemoryReference) : Prop where
  symbol : ∀ name ∈ reference.symbol, isName name = true
  base : ∀ register ∈ reference.base, register.Tabled
  index : ∀ register ∈ reference.index, register.Tabled
  scale : ∀ scale ∈ reference.scale, scale.factor ∈ [1, 2, 4, 8]

theorem Scale.factor_allowed (scale : Scale) : scale.factor ∈ [1, 2, 4, 8] := by
  cases scale <;> decide

theorem MemoryReference.wellFormed_of_named (reference : MemoryReference)
    (named : ∀ name ∈ reference.symbol, isName name = true) : reference.WellFormed :=
  ⟨named, fun register _ => register.tabled, fun register _ => register.tabled,
    fun scale _ => scale.factor_allowed⟩

namespace OperandForm

/-- The mode that a form has by itself. -/
def mode : OperandForm → AddressingMode
  | immediate _ => .immediate
  | register _ => .register
  | memory reference => reference.mode
  | target _ _ => .relative
  | symbolic => .direct

/-- What the operand of an instruction can be before its category is known. -/
inductive InInstruction : OperandForm → Prop
  | number (value : Int) (range : InRange value) : InInstruction (.immediate (.number value))
  | symbol (name : Text) (named : isName name = true) : InInstruction (.immediate (.symbol name))
  | register (register : Register) (tabled : register.Tabled) : InInstruction (.register register)
  | memory (reference : MemoryReference) (wellFormed : reference.WellFormed) :
      InInstruction (.memory reference)

/-- What the operand of a directive can be. -/
inductive InDirective : OperandForm → Prop
  | number (value : Int) : InDirective (.immediate (.number value))
  | string (content : Text) : InDirective (.immediate (.string content))
  | symbolic : InDirective .symbolic

end OperandForm

namespace Operand

/-- An operand that was read from a token and is of an allowed form. -/
structure FromToken (allowed : OperandForm → Prop) (token : Text) (operand : Operand) : Prop where
  text : operand.text = trim token
  mode : operand.mode = operand.form.mode
  form : allowed operand.form

section Marks

theorem splitStar_unstarred (text : Text) (unstarred : text.head? ≠ some '*') :
    splitStar text = (false, text) := by
  rw [splitStar.eq_def]
  split
  · exact absurd rfl unstarred
  · rfl

theorem read_dollar {token rest : Text} (dollar : trim token = '$' :: rest) :
    read token = readImmediate ('$' :: rest) := by
  simp only [read, dollar]

theorem read_percent {token rest : Text} (percent : trim token = '%' :: rest) :
    read token = readRegister ('%' :: rest) := by
  simp only [read, percent]

theorem read_unmarked (token : Text) (noDollar : (trim token).head? ≠ some '$')
    (noPercent : (trim token).head? ≠ some '%') : read token = readMemory (trim token) := by
  simp only [read]
  split
  · next dollar => simp [dollar] at noDollar
  · next percent => simp [percent] at noPercent
  · rfl

theorem balancedFrom_plain (depth : Nat) (text rest : Text)
    (plain : ∀ c ∈ text, c ≠ '(' ∧ c ≠ ')') :
    balancedFrom depth (text ++ rest) = balancedFrom depth rest := by
  induction text with
  | nil => rfl
  | cons c tail ih =>
      have later := ih fun d member => plain d (List.mem_cons_of_mem c member)
      obtain ⟨noOpen, noClose⟩ := plain c List.mem_cons_self
      rw [List.cons_append, balancedFrom.eq_def]
      split
      · next empty => cases empty
      · next same => exact absurd (List.cons.inj same).1 noOpen
      · next same => exact absurd (List.cons.inj same).1 noClose
      · next same => exact (List.cons.inj same).2 ▸ later

/-- Without a star and parentheses a reference is a displacement, and direct if there is any. -/
theorem readMemory_displacement {token body : Text} (whole : trim token = body)
    (unstarred : body.head? ≠ some '*') (plain : ∀ c ∈ body, c ≠ '(' ∧ c ≠ ')') :
    readMemory token = (do
      let (symbol, displacement) ← readDisplacement body
      let mode := if symbol.isSome || displacement.isSome then .direct else .unknown
      return ⟨body, .memory ⟨symbol, displacement, none, none, none, false⟩, mode⟩) := by
  have closed : balanced body = true := by
    have all := balancedFrom_plain 0 body [] plain
    rwa [List.append_nil] at all
  have ungrouped : body.dropWhile (· ≠ '(') = [] :=
    List.dropWhile_eq_nil_iff.mpr fun c member => decide_eq_true (plain c member).1
  simp only [readMemory, whole, splitStar_unstarred body unstarred, closed, readReference, ungrouped]
  cases readDisplacement body <;> rfl

end Marks

section Numbers

variable {invalid : OperandError} {token : Text}

theorem readNumber_ok_iff {value : Int} :
    readNumber invalid token = .ok value ↔ number? token = some value := by
  rw [readNumber, number?]
  cases excessDigits? (trim token) with
  | some count => simp
  | none => cases literal? (trim token) <;> simp

/-- What is read, unless there are too many digits. -/
def unlessExcess {Result : Type} (excess : Option Nat) (result : Result) :
    Except OperandError Result :=
  match excess with
  | some count => .error (.tooManyDigits count)
  | none => .ok result

theorem readNumber_literal {value : Int} (read : literal? (trim token) = some value) :
    readNumber invalid token = unlessExcess (excessDigits? (trim token)) value := by
  rw [readNumber, number?, read]
  cases excessDigits? (trim token) <;> rfl

end Numbers

section Readings

variable {token body : Text} {indirect : Bool} {operand : Operand}

/-- An immediate is a name or a number of 32 bits after a dollar sign. -/
inductive ImmediateAs (token : Text) : Operand → Prop
  | symbol {rest : Text} (dollar : trim token = '$' :: rest) (named : isName (trim rest) = true) :
      ImmediateAs token ⟨'$' :: rest, .immediate (.symbol (trim rest)), .immediate⟩
  | number {rest : Text} {value : Int} (dollar : trim token = '$' :: rest)
      (unnamed : isName (trim rest) = false) (written : number? (trim rest) = some value)
      (fits : fits32 value = true) :
      ImmediateAs token ⟨'$' :: rest, .immediate (.number value), .immediate⟩

theorem readImmediate_iff : readImmediate token = .ok operand ↔ ImmediateAs token operand := by
  rw [readImmediate]
  constructor
  · intro read
    split at read
    · next rest dollar =>
        dsimp only at read
        rw [isLabelName_trimmed _ (trimmed_trim rest)] at read
        split at read
        · next named =>
            cases read
            exact .symbol dollar named
        · next unnamed =>
            obtain ⟨value, written, checked⟩ := (bind_ok_iff _ _ _).mp read
            split at checked
            · next fits =>
                cases checked
                exact .number dollar (Bool.eq_false_iff.mpr unnamed) (readNumber_ok_iff.mp written)
                  fits
            · cases checked
    · cases read
  · intro reading
    cases reading with
    | symbol dollar named => simp [dollar, isLabelName_trimmed _ (trimmed_trim _), named]
    | number dollar unnamed written fits =>
        simp only [dollar, isLabelName_trimmed _ (trimmed_trim _), unnamed,
          readNumber_ok_iff.mpr written, Bool.false_eq_true, if_false]
        exact if_pos fits

theorem readRegister_ok_iff :
    readRegister token = .ok operand ↔ ∃ name register, trim token = '%' :: name ∧
      readRegisterName ('%' :: name) = .ok register ∧
        operand = ⟨'%' :: name, .register register, .register⟩ := by
  rw [readRegister]
  split
  · next name percent =>
      simp only [bind_ok_iff, percent]
      constructor
      · rintro ⟨register, named, same⟩
        exact ⟨name, register, rfl, named, (Except.ok.inj same).symm⟩
      · rintro ⟨_, register, same, named, rfl⟩
        cases same
        exact ⟨register, named, rfl⟩
  · next other =>
      refine iff_of_false (by simp) ?_
      rintro ⟨name, _, percent, _⟩
      exact other name percent

/-- A reference is a displacement, with or without components in parentheses behind it. -/
inductive ReferenceAs (token body : Text) (indirect : Bool) :
    MemoryReference → AddressingMode → Prop
  | bare {symbol : Option Text} {displacement : Option Int}
      (ungrouped : body.dropWhile (· ≠ '(') = [])
      (outside : readDisplacement body = .ok (symbol, displacement)) :
      ReferenceAs token body indirect ⟨symbol, displacement, none, none, none, indirect⟩
        (if symbol.isSome || displacement.isSome then .direct else .unknown)
  | grouped {opening : Char} {rest : Text} {symbol : Option Text} {displacement : Option Int}
      {base index : Option Register} {scale : Option Scale}
      (group : body.dropWhile (· ≠ '(') = opening :: rest)
      (nothing : trim (splitAtLastClose rest).2 = [])
      (outside : readDisplacement (body.takeWhile (· ≠ '(')) = .ok (symbol, displacement))
      (unnested : '(' ∉ (splitAtLastClose rest).1)
      (inside : readComponents token (splitAtLastClose rest).1 = .ok (base, index, scale)) :
      ReferenceAs token body indirect ⟨symbol, displacement, base, index, scale, indirect⟩
        (MemoryReference.mode ⟨symbol, displacement, base, index, scale, indirect⟩)

theorem readReference_iff {reference : MemoryReference} {mode : AddressingMode} :
    readReference token body indirect = .ok (reference, mode) ↔
      ReferenceAs token body indirect reference mode := by
  rw [readReference.eq_def]
  constructor
  · intro read
    split at read
    · next ungrouped =>
        obtain ⟨⟨symbol, displacement⟩, outside, same⟩ := (bind_ok_iff _ _ _).mp read
        cases same
        exact .bare ungrouped outside
    · next opening rest group =>
        dsimp only at read
        split at read
        · cases read
        · next nothing =>
            obtain ⟨⟨symbol, displacement⟩, outside, afterwards⟩ := (bind_ok_iff _ _ _).mp read
            dsimp only at afterwards
            split at afterwards
            · cases afterwards
            · next unnested =>
                obtain ⟨⟨base, index, scale⟩, inside, same⟩ := (bind_ok_iff _ _ _).mp afterwards
                cases same
                exact .grouped group (not_not.mp nothing) outside unnested inside
  · intro reading
    cases reading with
    | bare ungrouped outside =>
        rw [ungrouped]
        exact (bind_ok_iff _ _ _).mpr ⟨_, outside, rfl⟩
    | grouped group nothing outside unnested inside =>
        rw [group]
        simp only [nothing, outside, bind, Except.bind, ne_eq, not_true_eq_false, if_false,
          if_neg unnested, inside]
        rfl

/-- A memory operand is a reference, or the register that a jump goes through. -/
inductive MemoryAs (token : Text) : Operand → Prop
  | jump {base : Register} (closed : balanced (splitStar (trim token)).2 = true)
      (starred : (splitStar (trim token)).1 = true)
      (percent : (splitStar (trim token)).2.head? = some '%')
      (named : readRegisterName (splitStar (trim token)).2 = .ok base) :
      MemoryAs token ⟨trim token, .memory ⟨none, none, some base, none, none, true⟩, .indirect⟩
  | reference {reference : MemoryReference} {mode : AddressingMode}
      (closed : balanced (splitStar (trim token)).2 = true)
      (other : (splitStar (trim token)).1 = true → (splitStar (trim token)).2.head? ≠ some '%')
      (read : readReference token (splitStar (trim token)).2 (splitStar (trim token)).1 =
        .ok (reference, mode)) :
      MemoryAs token ⟨trim token, .memory reference, mode⟩

theorem readMemory_iff : readMemory token = .ok operand ↔ MemoryAs token operand := by
  simp only [readMemory]
  constructor
  · intro read
    split at read
    · cases read
    · next closed =>
        simp only [Bool.not_eq_true', Bool.not_eq_false] at closed
        split at read
        · next jump =>
            simp only [Bool.and_eq_true, decide_eq_true_eq] at jump
            obtain ⟨base, named, same⟩ := (bind_ok_iff _ _ _).mp read
            cases same
            exact .jump closed jump.1 jump.2 named
        · next other =>
            simp only [Bool.and_eq_true, decide_eq_true_eq, not_and] at other
            obtain ⟨⟨reference, mode⟩, referred, same⟩ := (bind_ok_iff _ _ _).mp read
            cases same
            exact .reference closed other referred
  · intro reading
    cases reading with
    | jump closed starred percent named =>
        simp only [closed, starred, percent, named]
        rfl
    | reference closed other read =>
        have noJump : ¬ ((splitStar (trim token)).1 &&
            decide ((splitStar (trim token)).2.head? = some '%')) = true := by simpa using other
        rw [if_neg (by simp [closed]), if_neg noJump]
        exact (bind_ok_iff _ _ _).mpr ⟨_, read, rfl⟩

end Readings

section Instructions

variable {token : Text} {operand : Operand}

theorem readImmediate_from (read : readImmediate token = .ok operand) :
    operand.FromToken OperandForm.InInstruction token := by
  cases readImmediate_iff.mp read with
  | symbol dollar named => exact ⟨dollar.symm, rfl, .symbol _ named⟩
  | number dollar _ _ fits => exact ⟨dollar.symm, rfl, .number _ ((fits32_iff _).mp fits)⟩

theorem readRegister_from (read : readRegister token = .ok operand) :
    operand.FromToken OperandForm.InInstruction token := by
  obtain ⟨name, register, percent, _, rfl⟩ := readRegister_ok_iff.mp read
  exact ⟨percent.symm, rfl, .register register register.tabled⟩

theorem signedDisplacement_symbol {symbol name? : Option Text} {sign : Int} {digits : Text}
    {displacement : Option Int}
    (read : signedDisplacement token symbol sign digits = .ok (name?, displacement)) :
    name? = symbol := by
  obtain ⟨value, _, same⟩ := (bind_ok_iff _ _ _).mp read
  cases same
  rfl

theorem readDisplacement_named {symbol : Option Text} {displacement : Option Int}
    (read : readDisplacement token = .ok (symbol, displacement)) :
    ∀ name ∈ symbol, isName name = true := by
  have leading : ∀ name ∈ (if (leadingName (trim token)).1 = [] then none
      else some (leadingName (trim token)).1), isName name = true := by
    intro name found
    split at found
    · cases found
    · next some_ =>
        cases found
        exact leadingName_named _ some_
  simp only [readDisplacement] at read
  split at read
  · cases read
  · -- Every branch that succeeds hands on the name in front, or none.
    generalize (if (leadingName (trim token)).1 = [] then none
      else some (leadingName (trim token)).1) = front at read leading
    split at read
    · cases read
      exact leading
    · exact signedDisplacement_symbol read ▸ leading
    · exact signedDisplacement_symbol read ▸ leading
    · cases front with
      | some name => cases read
      | none => exact signedDisplacement_symbol read ▸ leading

theorem readReference_from {body : Text} {indirect : Bool} {reference : MemoryReference}
    {mode : AddressingMode} (read : readReference token body indirect = .ok (reference, mode)) :
    mode = reference.mode ∧ reference.WellFormed := by
  cases readReference_iff.mp read with
  | @bare symbol displacement _ outside =>
      -- The mode is not looked up here, but it is the one that the table has without a group.
      refine ⟨?_, MemoryReference.wellFormed_of_named _ (readDisplacement_named outside)⟩
      cases symbol <;> cases displacement <;> rfl
  | grouped _ _ outside =>
      exact ⟨rfl, MemoryReference.wellFormed_of_named _ (readDisplacement_named outside)⟩

theorem readMemory_from (read : readMemory token = .ok operand) :
    operand.FromToken OperandForm.InInstruction token := by
  cases readMemory_iff.mp read with
  | jump =>
      exact ⟨rfl, rfl, .memory _ (MemoryReference.wellFormed_of_named _ (by simp))⟩
  | reference _ _ referred =>
      obtain ⟨table, wellFormed⟩ := readReference_from referred
      exact ⟨rfl, table, .memory _ wellFormed⟩

theorem read_from (found : read token = .ok operand) :
    operand.FromToken OperandForm.InInstruction token := by
  have whole : operand.FromToken OperandForm.InInstruction (trim token) := by
    simp only [read] at found
    split at found
    · exact readImmediate_from found
    · exact readRegister_from found
    · exact readMemory_from found
  exact ⟨whole.text.trans (trim_trim token), whole.mode, whole.form⟩

theorem readDirective_from (found : readDirective token = .ok operand) :
    operand.FromToken OperandForm.InDirective token := by
  simp only [readDirective] at found
  split at found
  · next content _ =>
      cases found
      exact ⟨rfl, rfl, .string content⟩
  · split at found
    · cases found
    · next value _ _ =>
        cases found
        exact ⟨rfl, rfl, .number value⟩
    · split at found
      · cases found
        exact ⟨rfl, rfl, .symbolic⟩
      · cases found

end Instructions

section Directives

theorem blank_noSign {c : Char} (blank : isBlank c = true) : isSign c = false := by
  have other (mark : Char) (visible : isBlank mark = false) : c ≠ mark := blank_ne blank visible
  simp [isSign, other '+' rfl, other '-' rfl]

theorem isExpression_terms (text : Text) :
    isExpression text = (splitParts isSign text).all fun part => isTerm (trim part) := rfl

theorem stringContent_iff (text content : Text) :
    stringContent? text = some content ↔ text = '"' :: content ++ ['"'] := by
  rw [stringContent?.eq_def]
  split
  · next rest =>
      split
      · next closed =>
          obtain ⟨front, same⟩ := List.getLast?_eq_some_iff.mp closed
          simp [same]
      · next unclosed =>
          refine iff_of_false (by simp) fun same => unclosed ?_
          rw [List.cons_append, List.cons_inj_right] at same
          simp [same]
  · next unopened =>
      exact iff_of_false (by simp) fun same => unopened _ same

theorem stringContent_unopened {text : Text} (unopened : text.head? ≠ some '"') :
    stringContent? text = none := by
  refine Option.eq_none_iff_forall_ne_some.mpr fun content found => unopened ?_
  rw [(stringContent_iff text content).mp found]
  rfl

theorem readDirective_expression {token : Text} (noString : stringContent? (trim token) = none)
    (unread : literal? (trim token) = none) :
    readDirective token =
      if isExpression (trim token) then .ok ⟨trim token, .symbolic, .direct⟩
      else .error (.invalidDirectiveOperand (trim token)) := by
  have noNumber : number? (trim token) = none := number_of_unread ((trim_trim token).symm ▸ unread)
  simp [readDirective, noString, excess_of_unread unread, noNumber]

end Directives

end Operand

end AttAssembly
