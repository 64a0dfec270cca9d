import AttAssembly.Proofs.Analysis.Records
import AttAssembly.Proofs.Line.Words
import AttAssembly.Proofs.Mnemonic.Names

/-!
The parts of the classification against each other. Size suffix, condition, category and flags are each
read off a word by a rule of their own, and a word can be anything. They agree for all that: what is left
without a size suffix has none, the flags of a condition are read by its conditional mnemonics and by
nothing else, and flags are written only by known mnemonics of the categories that compute a result.
-/

namespace AttAssembly

section Suffixes

/-- The parts of a word: a known name and a size letter if the whole is not known, else the whole. -/
inductive SplitAs (word : Text) : Text → Option OperandSize → Prop
  | whole (uncut : ∀ base, ∀ size : OperandSize, lower word = base ++ [size.letter] →
      isKnown base = true → isKnown (lower word) = true) :
      SplitAs word (lower word) none
  | suffixed (base : Text) (size : OperandSize) (spelled : lower word = base ++ [size.letter])
      (known : isKnown base = true) (unknown : isKnown (lower word) = false) :
      SplitAs word base (some size)

theorem splitSizeSuffix_of_lower (word : Text) :
    splitSizeSuffix (lower word) = splitSizeSuffix word := by
  simp only [splitSizeSuffix, lower_lower]

theorem SplitAs.splitSizeSuffix_eq {word base : Text} {size : Option OperandSize}
    (parts : SplitAs word base size) : splitSizeSuffix word = (base, size) := by
  cases parts with
  | whole uncut =>
      rcases splitSizeSuffix_cases word with whole | ⟨base, size, _, spelled, known, unknown⟩
      · exact whole
      · rw [uncut base size spelled known] at unknown
        cases unknown
  | suffixed base size spelled known unknown =>
      have small := lower_lower word
      rw [← splitSizeSuffix_of_lower]
      rw [spelled] at small unknown ⊢
      exact splitSizeSuffix_suffixed small known unknown

theorem splitSizeSuffix_iff (word base : Text) (size : Option OperandSize) :
    splitSizeSuffix word = (base, size) ↔ SplitAs word base size := by
  refine ⟨fun split => ?_, SplitAs.splitSizeSuffix_eq⟩
  rcases splitSizeSuffix_cases word with whole | ⟨front, letter, cut, spelled, known, unknown⟩
  · cases split.symm.trans whole
    refine .whole fun front letter spelled known => Bool.of_not_eq_false fun unknown => ?_
    have parts := SplitAs.suffixed front letter spelled known unknown
    cases whole.symm.trans parts.splitSizeSuffix_eq
  · cases split.symm.trans cut
    exact .suffixed _ _ spelled known unknown

/-- A name without its size suffix has no other one. -/
theorem splitSizeSuffix_again (word : Text) :
    splitSizeSuffix (splitSizeSuffix word).1 = ((splitSizeSuffix word).1, none) := by
  have small := splitSizeSuffix_lower word
  rcases splitSizeSuffix_cases word with whole | ⟨base, size, cut, _, known, _⟩
  · rw [whole, splitSizeSuffix_of_lower, whole]
  · rw [cut] at small ⊢
    exact splitSizeSuffix_known small known

/-- The name of a directive is no known name, with or without its last letter. -/
theorem splitSizeSuffix_dotted {name : Text} (small : lower name = name)
    (dotted : isDirectiveName name = true) : splitSizeSuffix name = (name, none) := by
  rcases splitSizeSuffix_cases name with whole | ⟨base, size, cut, spelled, known, _⟩
  · rw [whole, small]
  · have lettered : isKnown (lower base) = true := by
      have same := splitSizeSuffix_lower name
      rw [cut] at same
      rwa [same]
    have letters : ∀ c ∈ name, c.isAlphanum = true := by
      rw [← small, spelled, List.forall_mem_append]
      refine ⟨fun c member => by simp [Char.isAlphanum, known_letters lettered c member], ?_⟩
      cases size <;> exact List.forall_mem_singleton.mpr rfl
    rw [← small, mnemonic_undotted letters] at dotted
    cases dotted

theorem WordedAs.mnemonic_stable {parts : List Text} {record : Record}
    (worded : WordedAs parts record) :
    splitSizeSuffix record.mnemonic = (record.mnemonic, none) := by
  cases worded with
  | label line name =>
      have unsuffixed : splitSizeSuffix ("label" : Text) = ("label".toList, none) := by decide
      exact unsuffixed
  | directive place first rest dotted => exact splitSizeSuffix_dotted (lower_lower first) dotted
  | loneRepeat place repetition word named =>
      exact splitSizeSuffix_known (known_lower repetition.entry) repetition.known
  | repeated place repetition first second rest named => exact splitSizeSuffix_again _
  | single place first rest single => exact splitSizeSuffix_again _

end Suffixes

section Conditions

variable {mnemonic condition : Text} {kind : Category}

/-- A condition after one of the three stems, and the category that the stem stands for. -/
inductive ConditionalName (condition : Text) : Text → Category → Prop
  | jump : ConditionalName condition (("j" : Text) ++ condition) .branch
  | byteSetting : ConditionalName condition (("set" : Text) ++ condition) .byteSetting
  | move : ConditionalName condition (("cmov" : Text) ++ condition) .conditionalMove

/-- The word is the known name of a conditional mnemonic, and is taken for one. -/
structure ConditionalAs (mnemonic : Text) (count : Int) (condition : Text) : Prop where
  listed : condition ∈ conditionTable.map (·.1)
  named : ConditionalName condition (lower mnemonic) (category mnemonic count)
  known : isKnown (lower mnemonic) = true
  separated : condition? mnemonic = some condition

theorem conditionFlags_iff (condition : Text) :
    conditionFlags condition ≠ [] ↔ condition ∈ conditionTable.map (·.1) := by
  constructor
  · intro given
    rw [conditionFlags] at given
    cases found : conditionTable.lookup condition with
    | none =>
        rw [found] at given
        exact absurd rfl given
    | some flags => exact List.mem_map_of_mem (mem_of_lookup found)
  · have each : ∀ listed ∈ conditionTable.map (·.1), conditionFlags listed ≠ [] := by decide
    exact each condition

theorem conditionalName_iff (condition name : Text) (kind : Category) :
    ConditionalName condition name kind ↔
      ∃ family ∈ conditionalFamilies, name = family.1 ++ condition ∧ kind = family.2.category := by
  constructor
  · rintro (_ | _ | _)
    · exact ⟨("j", ⟨.branch, [], some .one⟩), by decide, rfl, rfl⟩
    · exact ⟨("set", ⟨.byteSetting, [], some .one⟩), by decide, rfl, rfl⟩
    · exact ⟨("cmov", ⟨.conditionalMove, [], some .two⟩), by decide, rfl, rfl⟩
  · rintro ⟨family, member, rfl, rfl⟩
    simp only [conditionalFamilies, List.mem_cons, List.not_mem_nil, or_false] at member
    rcases member with rfl | rfl | rfl
    · exact .move
    · exact .byteSetting
    · exact .jump

/-- A conditional mnemonic has the entry of its family, and is neither a string move nor the jump without
a condition. -/
theorem conditional_entry : ∀ family ∈ conditionalFamilies, ∀ condition ∈ conditionTable.map (·.1),
    entryOf? (family.1 ++ condition) = some family.2 ∧
      stringMoves.contains (family.1 ++ condition) = false ∧
      family.1 ++ condition ≠ ("jmp" : Text) := by
  decide +kernel

theorem afterStem_iff (stem name rest : Text) :
    afterStem? stem name = some rest ↔ name = stem ++ rest ∧ rest ≠ [] := by
  rw [afterStem?]
  constructor
  · intro found
    split at found
    · next fits =>
        cases found
        simp only [Bool.and_eq_true, List.isPrefixOf_iff_prefix, decide_eq_true_eq] at fits
        obtain ⟨⟨rest, rfl⟩, longer⟩ := fits
        rw [List.drop_left]
        refine ⟨rfl, ?_⟩
        rintro rfl
        simp at longer
    · cases found
  · rintro ⟨rfl, written⟩
    have longer := List.length_pos_of_ne_nil written
    simp [longer]

theorem afterStem_other {first letter : Char} (apart : first ≠ letter) (stem rest : Text) :
    afterStem? (first :: stem) (letter :: rest) = none := by
  simp [afterStem?, apart]

theorem condition_of_lower (mnemonic : Text) : condition? (lower mnemonic) = condition? mnemonic := by
  simp only [condition?, lower_lower]

theorem conditionalName_of_condition (found : condition? mnemonic = some condition) :
    ∃ kind, ConditionalName condition (lower mnemonic) kind := by
  rw [condition?] at found
  split at found
  · cases found
  · obtain ⟨family, member, fits⟩ := List.exists_of_findSome?_eq_some found
    have spelled := ((afterStem_iff _ _ _).mp fits).1
    exact ⟨_, (conditionalName_iff _ _ _).mpr ⟨family, member, spelled, rfl⟩⟩

/-- The stems begin with different letters, so no other one fits. -/
theorem ConditionalName.condition_eq (named : ConditionalName condition (lower mnemonic) kind)
    (written : condition ≠ []) (conditional : lower mnemonic ≠ ("jmp" : Text)) :
    condition? mnemonic = some condition := by
  rw [condition?]
  generalize lower mnemonic = name at named conditional
  rw [if_neg conditional]
  have fits (stem : Text) : afterStem? stem (stem ++ condition) = some condition :=
    (afterStem_iff _ _ _).mpr ⟨rfl, written⟩
  cases named with
  | move => simp only [conditionalFamilies, List.findSome?_cons, fits]
  | byteSetting =>
      have move : afterStem? "cmov" (("set" : Text) ++ condition) = none :=
        afterStem_other (by decide) _ _
      simp only [conditionalFamilies, List.findSome?_cons, fits, move]
  | jump =>
      have move : afterStem? "cmov" (("j" : Text) ++ condition) = none :=
        afterStem_other (by decide) _ _
      have setting : afterStem? "set" (("j" : Text) ++ condition) = none :=
        afterStem_other (by decide) _ _
      simp only [conditionalFamilies, List.findSome?_cons, fits, move, setting]

theorem category_known {entry : MnemonicEntry} (found : entryOf? (lower mnemonic) = some entry)
    (count : Int) :
    category mnemonic count =
      if isStringMove (lower mnemonic) count then .string else entry.category := by
  simp only [category, found]

theorem ConditionalName.classified (named : ConditionalName condition (lower mnemonic) kind)
    (listed : condition ∈ conditionTable.map (·.1)) (count : Int) :
    ConditionalAs mnemonic count condition := by
  have written : condition ≠ [] := by
    rintro rfl
    exact absurd listed (by decide)
  obtain ⟨family, member, spelled, same⟩ := (conditionalName_iff _ _ _).mp named
  obtain ⟨found, still, conditional⟩ := conditional_entry family member condition listed
  rw [← spelled] at found still conditional
  have kept : category mnemonic count = kind := by
    rw [category_known found, isStringMove, still, Bool.false_and, same]
    rfl
  refine ⟨listed, kept.symm ▸ named, ?_, named.condition_eq written conditional⟩
  rw [isKnown, found, Option.isSome_some]

theorem flagsRead_iff (mnemonic : Text) (count : Int) :
    flagsRead mnemonic count ≠ [] ↔ lower mnemonic = ("imul" : Text) ∧ count = 3 ∨
      ∃ condition, ConditionalAs mnemonic count condition := by
  by_cases product : lower mnemonic = ("imul" : Text) ∧ count = 3
  · exact iff_of_true (by simp [flagsRead, product]) (.inl product)
  · have read : flagsRead mnemonic count =
        ((condition? mnemonic).map conditionFlags).getD [] := by
      simp only [flagsRead, condition_of_lower]
      rw [if_neg (by simpa using product)]
      cases condition? mnemonic <;> rfl
    rw [read, or_iff_right product]
    constructor
    · intro given
      cases found : condition? mnemonic with
      | none =>
          rw [found] at given
          exact absurd rfl given
      | some condition =>
          rw [found] at given
          obtain ⟨_, named⟩ := conditionalName_of_condition found
          exact ⟨condition, named.classified ((conditionFlags_iff condition).mp given) count⟩
    · rintro ⟨condition, conditional⟩
      rw [conditional.separated]
      exact (conditionFlags_iff condition).mpr conditional.listed

end Conditions

section Writes

/-- The categories of the mnemonics that compute a result for the flags to tell. -/
def flagCategories : List Category := [.arithmetic, .logic, .shift, .comparison]

/-- The mnemonics that compute and leave the flags as they are. -/
def flagless : List Text := ["div", "idiv", "not"]

theorem written_entry : ∀ entry ∈ mnemonicTable,
    (entry.2.writes ≠ [] ↔ entry.2.category ∈ flagCategories ∧ entry.1 ∉ flagless) ∧
      (entry.1 ∈ stringMoves → entry.2.writes = []) := by
  decide +kernel

theorem flagsWritten_iff (mnemonic : Text) (count : Int) :
    flagsWritten mnemonic ≠ [] ↔ isKnown (lower mnemonic) = true ∧
      category mnemonic count ∈ flagCategories ∧ lower mnemonic ∉ flagless := by
  rw [flagsWritten, isKnown]
  cases found : entryOf? (lower mnemonic) with
  | none => simp
  | some entry =>
      obtain ⟨writes, unmoved⟩ := written_entry _ (mem_of_lookup found)
      simp only [Option.isSome_some, true_and, category_known found]
      split
      · next moves =>
          have listed : lower mnemonic ∈ stringMoves := by
            simp only [isStringMove, Bool.and_eq_true, List.contains_iff_mem] at moves
            exact moves.1
          exact iff_of_false (not_not.mpr (unmoved listed)) (by simp [flagCategories])
      · exact writes

end Writes

/-- The parts of the classification agree on every word. A size letter is cut off of a word only if it
leaves a known name and the word is not known; nothing is cut off of the result, and so nothing of the
mnemonic of a record either. Flags are read only by a product of three operands and by the known
conditional mnemonics, all of which have their condition and the category of their stem. Flags are written
only by known mnemonics of four categories, and by all of these but the divisions and the bitwise
complement. -/
theorem classification_agrees :
    (∀ word base size, splitSizeSuffix word = (base, size) →
      SplitAs word base size ∧ splitSizeSuffix base = (base, none)) ∧
    (∀ text, ∃ records, analyze text = .ok records ∧
      ∀ record ∈ records, splitSizeSuffix record.mnemonic = (record.mnemonic, none)) ∧
    ∀ mnemonic count,
      (flagsRead mnemonic count ≠ [] ↔ lower mnemonic = "imul".toList ∧ count = 3 ∨
        ∃ condition, ConditionalAs mnemonic count condition) ∧
      (∀ condition ∈ conditionTable.map (·.1), ∀ kind,
        ConditionalName condition (lower mnemonic) kind → ConditionalAs mnemonic count condition) ∧
      (flagsWritten mnemonic ≠ [] ↔ isKnown (lower mnemonic) = true ∧
        category mnemonic count ∈ flagCategories ∧ lower mnemonic ∉ flagless) := by
  refine ⟨fun word base size split => ?_, fun text => ?_, fun mnemonic count => ?_⟩
  · have again := splitSizeSuffix_again word
    rw [split] at again
    exact ⟨(splitSizeSuffix_iff word base size).mp split, again⟩
  · refine ⟨recordsOf text, analyze_eq_records text, fun record member => ?_⟩
    obtain ⟨_, line, _, read⟩ := mem_recordsFrom 1 _ record member
    exact (readLine_worded read).mnemonic_stable
  · exact ⟨flagsRead_iff mnemonic count,
      fun condition listed kind named => named.classified listed count,
      flagsWritten_iff mnemonic count⟩

/-- The last letter of a word is its condition, and a size letter once another one stands before it. The
text has such a suffix, a string move and a directive. A product reads flags with three operands, and a
shift writes them. -/
theorem classification_agrees_overlapping :
    let text : Text := "on: SETBB %al\r\nREP MovsB\nn: .byte 1"
    (splitSizeSuffix "SetBB" = ("setb".toList, some .byte) ∧ SplitAs "SetBB" "setb" (some .byte) ∧
      splitSizeSuffix "setb" = ("setb".toList, none)) ∧
    (∃ records, analyze text = .ok records ∧ records.length = 3 ∧
      ∀ record ∈ records, splitSizeSuffix record.mnemonic = (record.mnemonic, none)) ∧
    ("b".toList ∈ conditionTable.map (·.1) ∧ ConditionalName "b" (lower "SETB") .byteSetting ∧
      ConditionalAs "SETB" 1 "b") ∧
    (∃ condition, ConditionalAs "JNLE" 1 condition) ∧
    flagsRead "IMul" 3 ≠ [] ∧ isKnown (lower "SAR") = true ∧ category "SAR" 2 ∈ flagCategories := by
  intro text
  obtain ⟨splits, stable, flags⟩ := classification_agrees
  have cut : splitSizeSuffix "SetBB" = ("setb".toList, some .byte) := by decide
  obtain ⟨parts, again⟩ := splits "SetBB" _ _ cut
  obtain ⟨records, analyzed, each⟩ := stable text
  have three : ∃ found, analyze text = .ok found ∧ found.length = 3 := ⟨_, rfl, rfl⟩
  obtain ⟨found, same, length⟩ := three
  cases analyzed.symm.trans same
  have listed : "b".toList ∈ conditionTable.map (·.1) := by decide
  have named : ConditionalName "b" (lower "SETB") .byteSetting := .byteSetting
  obtain ⟨_, conditional, _⟩ := flags "SETB" 1
  obtain ⟨reads, _, _⟩ := flags "JNLE" 1
  obtain ⟨product, _, _⟩ := flags "IMul" 3
  obtain ⟨_, _, writes⟩ := flags "SAR" 2
  obtain ⟨known, computing, _⟩ := writes.mp (by decide)
  have unmultiplied : ¬ (lower "JNLE" = "imul".toList ∧ (1 : Int) = 3) := by decide
  exact ⟨⟨cut, parts, again⟩, ⟨records, analyzed, length, each⟩,
    ⟨listed, named, conditional "b" listed .byteSetting named⟩,
    (reads.mp (by decide)).resolve_left unmultiplied, product.mpr (.inl ⟨by decide, rfl⟩), known,
    computing⟩

end AttAssembly
