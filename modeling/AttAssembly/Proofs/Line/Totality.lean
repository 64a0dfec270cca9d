import AttAssembly.Proofs.Lexeme.Heads
import AttAssembly.Proofs.Operand.Forms
import AttAssembly.Proofs.Text.Cuts

/-!
A line can always be read. The only reading that ends the work on a whole text is a displacement
that runs over the end of a line. Every operand of a line is made of code points of that line, so
none of them holds a line feed, and the readers below are followed down to the displacement.
-/

namespace AttAssembly

def OnOneLine (text : Text) : Prop := '\n' ∉ text

instance (text : Text) : Decidable (OnOneLine text) := inferInstanceAs (Decidable ('\n' ∉ text))

theorem OnOneLine.of_subset {part whole : Text} (oneLine : OnOneLine whole)
    (inside : part ⊆ whole) : OnOneLine part :=
  fun feed => oneLine (inside feed)

section Readers

variable {Value Next : Type}

/-- A reading that is not stopped by a displacement broken over two lines. -/
def Unbroken (reading : Except OperandError Value) : Prop :=
  ∀ token, reading ≠ .error (.brokenDisplacement token)

theorem unbroken_ok (value : Value) : Unbroken (.ok value) := by
  intro token same
  cases same

theorem unbroken_error (error : OperandError)
    (other : ∀ token, error ≠ .brokenDisplacement token) :
    Unbroken (.error error : Except OperandError Value) :=
  fun token same => other token (Except.error.inj same)

theorem unbroken_bind (reading : Except OperandError Value)
    (continuation : Value → Except OperandError Next) (first : Unbroken reading)
    (second : ∀ value, Unbroken (continuation value)) : Unbroken (reading >>= continuation) := by
  cases reading with
  | ok value => exact second value
  | error error =>
      intro token same
      exact first token (congrArg Except.error (Except.error.inj same))

end Readers

namespace Operand

theorem readNumber_unbroken (invalid : OperandError) (token : Text)
    (other : ∀ broken, invalid ≠ .brokenDisplacement broken) :
    Unbroken (readNumber invalid token) := by
  rw [readNumber]
  split
  · exact unbroken_error _ (by simp)
  · split
    · exact unbroken_ok _
    · exact unbroken_error _ other

theorem signedDisplacement_unbroken (token : Text) (symbol : Option Text) (sign : Int)
    (digits : Text) : Unbroken (signedDisplacement token symbol sign digits) :=
  unbroken_bind _ _ (readNumber_unbroken _ _ (by simp)) fun _ => unbroken_ok _

theorem readDisplacement_unbroken (token : Text) (oneLine : OnOneLine token) :
    Unbroken (readDisplacement token) := by
  -- The one branch that breaks asks for a line feed in the trimmed token.
  have trimmed : '\n' ∉ trim token := oneLine.of_subset (trim_subset token)
  simp only [readDisplacement, trimmed, ↓reduceIte]
  generalize (if (leadingName (trim token)).1 = [] then none
    else some (leadingName (trim token)).1) = symbol
  split
  · exact unbroken_ok _
  · exact signedDisplacement_unbroken _ _ _ _
  · exact signedDisplacement_unbroken _ _ _ _
  · cases symbol with
    | some name => exact unbroken_error _ (by simp)
    | none => exact signedDisplacement_unbroken _ _ _ _

theorem readScale_unbroken (token : Text) : Unbroken (readScale token) := by
  refine unbroken_bind _ _ (readNumber_unbroken _ _ (by simp)) fun value => ?_
  split
  · exact unbroken_ok _
  · exact unbroken_error _ (by simp)

theorem readScaleComponent_unbroken (component : Text) :
    Unbroken (readScaleComponent component) := by
  cases component with
  | nil => exact unbroken_ok _
  | cons c rest =>
      exact unbroken_bind _ _ (readScale_unbroken _) fun scale => unbroken_ok _

theorem readComponent_unbroken (error : Text → OperandError) (component : Text)
    (other : ∀ token, error component ≠ .brokenDisplacement token) :
    Unbroken (readComponent error component) := by
  rw [readComponent.eq_def]
  split
  · exact unbroken_ok _
  · split
    · exact unbroken_ok _
    · exact unbroken_error _ other
  · exact unbroken_error _ other

theorem readComponents_unbroken (token inside : Text) :
    Unbroken (readComponents token inside) := by
  simp only [readComponents]
  split
  · exact unbroken_error _ (by simp)
  · refine unbroken_bind _ _ (readComponent_unbroken _ _ (by simp)) fun base => ?_
    refine unbroken_bind _ _ (readComponent_unbroken _ _ (by simp)) fun index => ?_
    exact unbroken_bind _ _ (readScaleComponent_unbroken _) fun scale => unbroken_ok _

theorem readReference_unbroken (token body : Text) (indirect : Bool) (oneLine : OnOneLine body) :
    Unbroken (readReference token body indirect) := by
  have front : OnOneLine (body.takeWhile (· ≠ '(')) :=
    oneLine.of_subset (List.takeWhile_sublist _).subset
  rw [readReference]
  split
  · exact unbroken_bind _ _ (readDisplacement_unbroken body oneLine) fun parts => unbroken_ok _
  · next rest _ =>
      rcases splitAtLastClose rest with ⟨inside, after⟩
      dsimp only
      split
      · exact unbroken_error _ (by simp)
      · refine unbroken_bind _ _ (readDisplacement_unbroken _ front) fun parts => ?_
        split
        · exact unbroken_error _ (by simp)
        · exact unbroken_bind _ _ (readComponents_unbroken _ _) fun components => unbroken_ok _

theorem splitStar_subset (text : Text) : (splitStar text).2 ⊆ text := by
  rw [splitStar.eq_def]
  split
  · exact List.subset_cons_of_subset '*' (trim_subset _)
  · exact List.Subset.refl _

theorem readRegisterName_unbroken (token : Text) : Unbroken (readRegisterName token) := by
  rw [readRegisterName]
  split
  · exact unbroken_ok _
  · exact unbroken_error _ (by simp)

theorem readMemory_unbroken (token : Text) (oneLine : OnOneLine token) :
    Unbroken (readMemory token) := by
  have body : OnOneLine (splitStar (trim token)).2 :=
    oneLine.of_subset (List.Subset.trans (splitStar_subset _) (trim_subset token))
  simp only [readMemory]
  split
  · exact unbroken_error _ (by simp)
  · split
    · exact unbroken_bind _ _ (readRegisterName_unbroken _) fun base => unbroken_ok _
    · exact unbroken_bind _ _ (readReference_unbroken _ _ _ body) fun reference => unbroken_ok _

theorem readImmediate_unbroken (token : Text) : Unbroken (readImmediate token) := by
  rw [readImmediate]
  split
  · dsimp only
    split
    · exact unbroken_ok _
    · refine unbroken_bind _ _ (readNumber_unbroken _ _ (by simp)) fun value => ?_
      split
      · exact unbroken_ok _
      · exact unbroken_error _ (by simp)
  · exact unbroken_error _ (by simp)

theorem readRegister_unbroken (token : Text) : Unbroken (readRegister token) := by
  rw [readRegister]
  split
  · exact unbroken_bind _ _ (readRegisterName_unbroken _) fun register => unbroken_ok _
  · exact unbroken_error _ (by simp)

theorem read_unbroken (token : Text) (oneLine : OnOneLine token) : Unbroken (read token) := by
  simp only [read]
  split
  · exact readImmediate_unbroken _
  · exact readRegister_unbroken _
  · exact readMemory_unbroken _ (oneLine.of_subset (trim_subset token))

theorem readDirective_unbroken (token : Text) : Unbroken (readDirective token) := by
  simp only [readDirective]
  split
  · exact unbroken_ok _
  · split
    · exact unbroken_error _ (by simp)
    · exact unbroken_ok _
    · split
      · exact unbroken_ok _
      · exact unbroken_error _ (by simp)

end Operand

/-! Every record comes from one of four makers, each of them given a part of the line. -/
section Records

theorem refused_operand_iff (read : Text → Except OperandError Operand) (pieces : List Text)
    (error : LineError) :
    error ∈ refusedOperands read pieces ↔
      ∃ piece ∈ pieces, ∃ cause, read piece = .error cause ∧ error = .operand cause := by
  simp only [refusedOperands, List.mem_filterMap]
  refine exists_congr fun piece => and_congr_right fun _ => ?_
  cases read piece with
  | ok operand => simp
  | error cause => simp [eq_comm]

theorem accepted_operand_iff (read : Text → Except OperandError Operand) (pieces : List Text)
    (operand : Operand) :
    operand ∈ acceptedOperands read pieces ↔ ∃ piece ∈ pieces, read piece = .ok operand := by
  simp only [acceptedOperands, List.mem_filterMap]
  refine exists_congr fun piece => and_congr_right fun _ => ?_
  cases read piece <;> simp [Except.toOption]

/-- Items that are read, unless they have too many digits, leave the operands of those that are read
    in order, and an error for each of the others. -/
theorem accepted_unlessExcess {Item : Type} {read : Text → Except OperandError Operand}
    {text : Item → Text} {excess : Item → Option Nat} {operand : Item → Operand} {items : List Item}
    (reads : ∀ item ∈ items,
      read (text item) = Operand.unlessExcess (excess item) (operand item)) :
    acceptedOperands read (items.map text) =
        (items.filter fun item => (excess item).isNone).map operand ∧
      refusedOperands read (items.map text) =
        (items.filterMap excess).map fun count => .operand (.tooManyDigits count) := by
  induction items with
  | nil => exact ⟨rfl, rfl⟩
  | cons item rest ih =>
      obtain ⟨accepted, refused⟩ :=
        ih fun other member => reads other (List.mem_cons_of_mem _ member)
      have here := reads item List.mem_cons_self
      simp only [acceptedOperands, refusedOperands, List.map_cons, List.filterMap_cons,
        List.filter_cons, here]
      cases excess item with
      | none => exact ⟨congrArg (operand item :: ·) accepted, refused⟩
      | some count => exact ⟨accepted, congrArg (LineError.operand (.tooManyDigits count) :: ·) refused⟩

/-- Texts that are all read leave their operands in order and no error. -/
theorem accepted_of_read {Item : Type} {read : Text → Except OperandError Operand}
    {text : Item → Text} {operand : Item → Operand} {items : List Item}
    (reads : ∀ item ∈ items, read (text item) = .ok (operand item)) :
    acceptedOperands read (items.map text) = items.map operand ∧
      refusedOperands read (items.map text) = [] := by
  have unbounded : ∀ item ∈ items, read (text item) =
      Operand.unlessExcess ((fun _ => none : Item → Option Nat) item) (operand item) := reads
  simpa using accepted_unlessExcess unbounded

inductive ReadAs (text : Text) (line : Int) : Record → Prop
  | label (name : Text) : ReadAs text line (labelRecord line name)
  | directive (place : Place) (name operandText : Text) (here : place.line = line)
      (inside : operandText ⊆ text) : ReadAs text line (directiveRecord place name operandText)
  | instruction (place : Place) (repetition : Option RepeatPrefix) (mnemonic operandText : Text)
      (here : place.line = line) (inside : operandText ⊆ text) :
      ReadAs text line (instructionRecord place repetition mnemonic operandText)
  | loneRepeat (place : Place) (repetition : RepeatPrefix) (here : place.line = line) :
      ReadAs text line (loneRepeatRecord place repetition)

theorem ReadAs.of_subset {part whole : Text} {line : Int} {record : Record}
    (kind : ReadAs part line record) (inside : part ⊆ whole) : ReadAs whole line record := by
  cases kind with
  | label name => exact .label name
  | directive place name operandText here narrow =>
      exact .directive place name operandText here (List.Subset.trans narrow inside)
  | instruction place repetition mnemonic operandText here narrow =>
      exact .instruction place repetition mnemonic operandText here
        (List.Subset.trans narrow inside)
  | loneRepeat place repetition here => exact .loneRepeat place repetition here

theorem statementRecord_readAs (line : Int) (label : Option Text) (statement : Text) :
    ReadAs statement line (statementRecord line label statement) := by
  have operands := operandText_subset statement
  rw [statementRecord]
  rcases separated : splitMnemonic statement with ⟨mnemonic, operandText⟩
  rw [separated] at operands
  dsimp only at operands ⊢
  split
  · exact .directive _ _ _ rfl operands
  · split
    · have further := operandText_subset operandText
      rw [repeatedRecord]
      split
      · exact .loneRepeat _ _ rfl
      · next second rest _ separated =>
          rw [separated] at further
          exact .instruction _ _ _ _ rfl (List.Subset.trans further operands)
    · exact .instruction _ _ _ _ rfl operands

/-- The record of a line: a label that stands alone, or a statement with or without one. -/
inductive LineAs (text : Text) (line : Int) : Record → Prop
  | label {name : Text} (alone : splitLabel (stripComment text) = (some name, [])) :
      LineAs text line (labelRecord line name)
  | statement {label : Option Text} {statement : Text}
      (separated : splitLabel (stripComment text) = (label, statement)) (written : statement ≠ []) :
      LineAs text line (statementRecord line label statement)

theorem readLine_iff {text : Text} {line : Int} {record : Record} :
    readLine text line = some record ↔ LineAs text line record := by
  have blank : splitLabel [] = (none, []) := rfl
  rw [readLine]
  constructor
  · intro read
    split at read
    · cases read
    · next held =>
        split at read
        · next separated =>
            cases read
            exact .label separated
        · next label statement bare separated =>
            cases read
            refine .statement separated ?_
            rintro rfl
            cases label with
            | some name => exact bare name rfl rfl
            | none => exact held (splitLabel_unlabelled_whole separated).symm
  · intro reading
    cases reading with
    | label alone =>
        split
        · next empty => simp [empty, blank] at alone
        · rw [alone]
    | statement separated written =>
        split
        · next empty =>
            rw [empty, blank] at separated
            cases separated
            exact absurd rfl written
        · rw [separated]
          split
          · next same => exact absurd (congrArg Prod.snd same) written
          · next same =>
              cases same
              rfl

theorem readLine_readAs (text : Text) (line : Int) (record : Record)
    (found : readLine text line = some record) : ReadAs text line record := by
  cases readLine_iff.mp found with
  | label => exact .label _
  | @statement label statement separated =>
      have rest := splitLabel_subset (stripComment text)
      rw [separated] at rest
      exact (statementRecord_readAs line label statement).of_subset
        (List.Subset.trans rest (stripComment_subset text))

theorem ReadAs.line_eq {text : Text} {line : Int} {record : Record}
    (kind : ReadAs text line record) : record.line = line := by
  cases kind with
  | label name => rfl
  | directive place name operandText here inside => exact here
  | instruction place repetition mnemonic operandText here inside => exact here
  | loneRepeat place repetition here => exact here

-- A refused operand is the only error that can end the work; broken rules are only reported.
theorem refused_faultless (read : Text → Except OperandError Operand) (pieces : List Text)
    (unbroken : ∀ piece ∈ pieces, Unbroken (read piece)) :
    ∀ error ∈ refusedOperands read pieces, error.fault? = none := by
  intro error member
  obtain ⟨piece, written, cause, refused, same⟩ := (refused_operand_iff _ _ _).mp member
  subst error
  cases cause with
  | brokenDisplacement token => exact absurd refused (unbroken piece written token)
  | _ => rfl

theorem ReadAs.faultless {text : Text} {line : Int} {record : Record}
    (kind : ReadAs text line record) (oneLine : OnOneLine text) :
    ∀ error ∈ record.errors, error.fault? = none := by
  cases kind with
  | label name => simp [labelRecord]
  | loneRepeat place repetition here => simp [loneRepeatRecord, LineError.fault?]
  | directive place name operandText here inside =>
      intro error member
      rcases List.mem_append.mp member with unknown | refused
      · split at unknown
        · simp at unknown
        · rw [List.mem_singleton.mp unknown]
          rfl
      · exact refused_faultless _ _ (fun piece _ => Operand.readDirective_unbroken piece)
          error refused
  | instruction place repetition mnemonic operandText here inside =>
      intro error member
      rcases List.mem_append.mp member with refused | rule
      · refine refused_faultless _ _ (fun piece written => ?_) error refused
        exact Operand.read_unbroken piece
          (oneLine.of_subset (List.Subset.trans (piece_subset operandText piece written) inside))
      · obtain ⟨violation, _, same⟩ := List.mem_map.mp rule
        subst error
        rfl

theorem analyzeLine_total (text : Text) (line : Int) (oneLine : OnOneLine text) :
    analyzeLine text line = .ok (readLine text line) := by
  rw [analyzeLine]
  cases found : readLine text line with
  | none => rfl
  | some record =>
      have faultless : record.fault? = none :=
        List.findSome?_eq_none_iff.mpr ((readLine_readAs text line record found).faultless oneLine)
      simp [faultless]

end Records

end AttAssembly
