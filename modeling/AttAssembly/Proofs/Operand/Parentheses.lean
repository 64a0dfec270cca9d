import AttAssembly.Proofs.Lexeme.Parentheses
import AttAssembly.Proofs.Operand.Sources

/-!
The parentheses of operands that can be read. Neither an immediate nor a register has any. A memory
reference is read only if its parentheses are balanced, and a second pair of them is always noticed: it
is nested in the first, or it follows it, or a displacement has it. So every operand of an instruction
that is accepted is balanced by itself and has one pair of parentheses at most.
-/

namespace AttAssembly

/-- No more parentheses than those of one group. -/
structure AtMostOneGroup (text : Text) : Prop where
  balanced : Balanced text
  single : text.count '(' ≤ 1

namespace AtMostOneGroup

variable {text : Text}

theorem closing (grouped : AtMostOneGroup text) : text.count ')' ≤ 1 :=
  grouped.balanced.settled ▸ grouped.single

theorem of_unbracketed (bare : Unbracketed text) : AtMostOneGroup text where
  balanced := balanced_unbracketed bare
  single := by
    rw [List.count_eq_zero_of_not_mem fun opens => (bare '(' opens).1 rfl]
    exact Nat.zero_le 1

theorem after_plain {c : Char} (plain : c ≠ '(' ∧ c ≠ ')') (grouped : AtMostOneGroup text) :
    AtMostOneGroup (c :: text) where
  balanced := (balanced_unbracketed (List.forall_mem_singleton.mpr plain)).append grouped.balanced
  single := by
    rw [List.count_cons_of_ne plain.1]
    exact grouped.single

theorem of_trim (grouped : AtMostOneGroup (trim text)) : AtMostOneGroup text where
  balanced := grouped.balanced.of_trim
  single := count_trim (c := '(') rfl text ▸ grouped.single

end AtMostOneGroup

theorem unbracketed_of_sourceParts {text : Text} (parts : ∀ c ∈ text, isSourcePart c = true) :
    Unbracketed text := by
  intro c member
  constructor <;> rintro rfl <;> exact absurd (parts _ member) (by decide)

namespace Operand

variable {token : Text} {operand : Operand}

/-- The only code point left out is the last one that closes. -/
theorem splitAtLastClose_cases (text : Text) :
    splitAtLastClose text = ([], text) ∨
      text = (splitAtLastClose text).1 ++ ')' :: (splitAtLastClose text).2 := by
  have stopped := List.head?_dropWhile_not (· ≠ ')') text.reverse
  have whole : text = (text.reverse.takeWhile (· ≠ ')') ++ text.reverse.dropWhile (· ≠ ')')).reverse := by
    rw [List.takeWhile_append_dropWhile, List.reverse_reverse]
  rw [splitAtLastClose]
  cases dropped : text.reverse.dropWhile (· ≠ ')') with
  | nil =>
      rw [dropped, List.append_nil] at whole
      exact .inl (congrArg (([], ·)) whole.symm)
  | cons c rest =>
      have closes : c = ')' := by
        rw [dropped] at stopped
        simpa using stopped
      rw [dropped, closes, List.reverse_append, List.reverse_cons, List.append_assoc] at whole
      exact .inr whole

theorem splitAtLastClose_opens (text : Text) :
    (splitAtLastClose text).1.count '(' + (splitAtLastClose text).2.count '(' = text.count '(' := by
  rcases splitAtLastClose_cases text with unclosed | closed
  · rw [unclosed, List.count_nil, Nat.zero_add]
  · conv_rhs => rw [closed]
    rw [List.count_append, List.count_cons_of_ne (by decide)]

theorem readReference_single {body : Text} {indirect : Bool} {reference : MemoryReference}
    {mode : AddressingMode} (read : readReference token body indirect = .ok (reference, mode)) :
    body.count '(' ≤ 1 := by
  have front : (body.takeWhile (· ≠ '(')).count '(' = 0 :=
    List.count_eq_zero_of_not_mem fun opens => by simpa using List.mem_takeWhile_imp opens
  have whole := List.takeWhile_append_dropWhile (p := (· ≠ '(')) (l := body)
  cases readReference_iff.mp read with
  | bare ungrouped =>
      rw [← whole, ungrouped, List.append_nil, front]
      exact Nat.zero_le 1
  | @grouped _ rest _ _ _ _ _ opened nothing _ unnested =>
      have after : (splitAtLastClose rest).2.count '(' = 0 := by
        rw [← count_trim rfl, nothing]
        rfl
      have inside : (splitAtLastClose rest).1.count '(' = 0 :=
        List.count_eq_zero_of_not_mem unnested
      have counted := splitAtLastClose_opens rest
      rw [← whole, opened, List.count_append, front, List.count_cons]
      split <;> omega

theorem readMemory_grouped (read : readMemory token = .ok operand) :
    AtMostOneGroup (trim token) := by
  have star {text : Text} (body : AtMostOneGroup (splitStar text).2) : AtMostOneGroup text := by
    rw [splitStar.eq_def] at body
    split at body
    · exact .after_plain (by decide) body.of_trim
    · exact body
  refine star ?_
  cases readMemory_iff.mp read with
  | jump _ _ _ named =>
      exact .of_unbracketed (unbracketed_of_sourceParts (readRegisterName_sourceParts named)).of_trim
  | reference closed _ referred =>
      exact ⟨(balanced_iff _).mp closed, readReference_single referred⟩

/-- An operand that is accepted stands in balanced parentheses, one pair of them at most. -/
theorem read_grouped (read : Operand.read token = .ok operand) : AtMostOneGroup token := by
  apply AtMostOneGroup.of_trim
  rw [← trim_trim]
  simp only [Operand.read] at read
  split at read
  · exact .of_unbracketed (unbracketed_of_sourceParts (readImmediate_sourceParts read))
  · exact .of_unbracketed (unbracketed_of_sourceParts (readRegister_sourceParts read))
  · exact readMemory_grouped read

end Operand

end AttAssembly
