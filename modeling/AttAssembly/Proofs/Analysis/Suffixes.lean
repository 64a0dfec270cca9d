import AttAssembly.Proofs.Analysis.Lines
import AttAssembly.Proofs.Line.Fronts

/-!
Size suffixes. Of a mnemonic only the name without its suffix goes into the record, so a size letter
after a known name is the size of the record and makes no other difference, except that the statement is
shown as it was written. Execution looks at the instruction that a record is decoded to and at the line
of the record, and nothing that a suffix changes is in either. So a text with suffixes added to its
mnemonics comes to the same machine and reports and logs the same, but for the statements that the log
shows.
-/

namespace AttAssembly

section Suffixes

variable {word back : Text} {size : OperandSize}

theorem IsWord.suffixed (isWord : IsWord word) (size : OperandSize) :
    IsWord (word ++ [size.letter]) where
  written := by simp
  letters := by
    have letter : size.letter.isAlphanum = true := by cases size <;> rfl
    exact List.forall_mem_append.mpr ⟨isWord.letters, List.forall_mem_singleton.mpr letter⟩

theorem IsWord.lower_suffixed (isWord : IsWord word) (size : OperandSize) :
    lower (word ++ [size.letter]) = lower word ++ [size.letter] := by
  have letter : size.letter.toLower = size.letter := by cases size <;> rfl
  rw [mnemonic_lower (isWord.suffixed size).letters, mnemonic_lower isWord.letters, List.map_append,
    List.map_singleton, letter]

/-- The size is all that the suffix makes of the record; the statement comes from the line. -/
theorem instructionRecord_suffixed {name : Text} (names : NamesInstruction name)
    (small : lower (name ++ [size.letter]) = name ++ [size.letter])
    (unknown : isKnown (name ++ [size.letter]) = false) (line : Int) (label : Option Text)
    (source suffixed : Text) (repetition : Option RepeatPrefix) (operandText : Text) :
    instructionRecord ⟨line, label, suffixed⟩ repetition (name ++ [size.letter]) operandText =
      { instructionRecord ⟨line, label, source⟩ repetition name operandText with
        size := some size, source := suffixed } := by
  obtain ⟨entry, found⟩ := Option.isSome_iff_exists.mp names.known
  simp only [instructionRecord, splitSizeSuffix_suffixed small names.known unknown,
    splitSizeSuffix_known (known_lower found) names.known]

/-- The line with a size letter added to its mnemonic. -/
inductive Suffixed : Text → Text → Prop
  | letter (front : LineFront) (word back : Text) (size : OperandSize)
      (names : NamesInstruction (lower word)) (ends : EndsWord back)
      (unknown : isKnown (lower word ++ [size.letter]) = false) :
      Suffixed (front.before (word ++ back)) (front.before (word ++ [size.letter] ++ back))

namespace LineFront

variable (front : LineFront)

theorem suffixed_oneLine (size : OperandSize) (whole : OnOneLine (front.before (word ++ back))) :
    OnOneLine (front.before (word ++ [size.letter] ++ back)) := by
  have letter : size.letter ≠ '\n' := by cases size <;> decide
  intro feed
  apply whole
  rcases front with ⟨margin, label, repeated, blank⟩
  cases label <;> cases repeated <;>
    simpa [before, labelLine, LineLabel.before, repeatLine, letter.symm] using feed

/-- The record of the line with the suffix is that of the line without it but for the size, and for the
mnemonic that it shows. -/
theorem readLine_suffixed (names : NamesInstruction (lower word)) (ends : EndsWord back)
    (unknown : isKnown (lower word ++ [size.letter]) = false)
    (whole : OnOneLine (front.before (word ++ back))) (line : Int) :
    ∃ record, readLine (front.before (word ++ back)) line = some record ∧ record.size = none ∧
      record.source = front.shown word back ∧
      readLine (front.before (word ++ [size.letter] ++ back)) line = some { record with
        size := some size, source := front.shown (word ++ [size.letter]) back } := by
  have isWord := isWord_of_known names.known
  have longer := isWord.lower_suffixed size
  have small : lower (lower word ++ [size.letter]) = lower word ++ [size.letter] := by
    rw [← longer, lower_lower]
  have single : RepeatPrefix.ofName? (lower (word ++ [size.letter])) = none := by
    rw [longer]
    cases named : RepeatPrefix.ofName? (lower word ++ [size.letter]) with
    | none => rfl
    | some repetition =>
        rw [repetition_known named] at unknown
        cases unknown
  obtain ⟨entry, found⟩ := Option.isSome_iff_exists.mp names.known
  refine ⟨_, front.readLine_before isWord ends whole names.single line, ?_, rfl, ?_⟩
  · simp only [instructionRecord, splitSizeSuffix_known (known_lower found) names.known]
  · rw [front.readLine_before (isWord.suffixed size) ends (front.suffixed_oneLine size whole) single,
      longer, instructionRecord_suffixed names small unknown]

end LineFront

end Suffixes

/-- Records that execution cannot tell apart. -/
structure Record.RunsAs (one other : Record) : Prop where
  decoded : decode other = decode one
  line : other.line = one.line

/-- What a log entry says apart from the statement as it is written. -/
def LogEntry.told (entry : LogEntry) : Int × Effect := (entry.line, entry.effect)

/-- The run comes to the same end in the same way. -/
structure Run.Agrees (one other : Run) : Prop where
  machine : other.machine = one.machine
  log : other.log.map LogEntry.told = one.log.map LogEntry.told
  diagnostics : ∀ file, other.diagnostics file = one.diagnostics file

namespace Run.Agrees

variable {one other third : Run}

theorem refl (run : Run) : run.Agrees run := ⟨rfl, rfl, fun _ => rfl⟩

theorem trans (first : one.Agrees other) (second : other.Agrees third) : one.Agrees third where
  machine := second.machine.trans first.machine
  log := second.log.trans first.log
  diagnostics file := (second.diagnostics file).trans (first.diagnostics file)

end Run.Agrees

section Execution

variable {machine next : Machine} {one other : Record} {outcome : Outcome}

/-- A step says the same of both records. -/
theorem stepped_runsAs (alike : one.RunsAs other) (stepped : Stepped machine one next outcome) :
    ∃ again, Stepped machine other next again ∧
      again.log?.map LogEntry.told = outcome.log?.map LogEntry.told ∧
      ∀ file, again.diagnostics file = outcome.diagnostics file := by
  have decoded := alike.decoded
  cases stepped with
  | skipped skipped => exact ⟨_, .skipped (decoded.trans skipped), rfl, fun _ => rfl⟩
  | rejected causes rejected =>
      refine ⟨_, .rejected causes (decoded.trans rejected), rfl, fun _ => ?_⟩
      rw [alike.line]
  | starved instruction given stuck =>
      refine ⟨_, .starved instruction (decoded.trans given) stuck, rfl, fun _ => ?_⟩
      rw [alike.line]
  | executed instruction effect next given ran written =>
      refine ⟨_, .executed instruction effect next (decoded.trans given) ran written, ?_, fun _ => ?_⟩
      · simp [Outcome.log?, LogEntry.told, alike.line]
      · simp only [Outcome.diagnostics, alike.line]

theorem Run.Agrees.cons {run again : Run} {told : Outcome} (agrees : run.Agrees again)
    (entry : told.log?.map LogEntry.told = outcome.log?.map LogEntry.told)
    (reported : ∀ file, told.diagnostics file = outcome.diagnostics file) :
    Run.Agrees ⟨run.machine, outcome :: run.outcomes⟩ ⟨again.machine, told :: again.outcomes⟩ where
  machine := agrees.machine
  log := by
    have entries := agrees.log
    simp only [Run.log, List.map_filterMap] at entries ⊢
    rw [List.filterMap_cons, List.filterMap_cons, entry, entries]
  diagnostics file := by
    have others := agrees.diagnostics file
    simp only [Run.diagnostics, List.flatMap_cons] at others ⊢
    rw [others, reported]

theorem execute_runsAs {records others : List Record}
    (alike : List.Forall₂ Record.RunsAs records others) (machine : Machine) :
    EndAlike Run.Agrees (execute machine records) (execute machine others) := by
  induction alike generalizing machine with
  | nil => exact .refl Run.Agrees.refl _
  | cons first rest ih =>
      refine .cons (fun fault faults => faults.of_decode first.decoded) (fun next outcome stepped => ?_)
        ih
      obtain ⟨told, steppedAgain, entry, reported⟩ := stepped_runsAs first stepped
      exact ⟨told, steppedAgain, fun run again agrees => agrees.cons entry reported⟩

end Execution

section Texts

variable {text suffixed : Text}

theorem Record.RunsAs.refl (record : Record) : record.RunsAs record := ⟨rfl, rfl⟩

theorem suffixed_runsAs {line suffixed : Text} (edited : Suffixed line suffixed)
    (whole : OnOneLine line) (number : Int) :
    List.Forall₂ Record.RunsAs (readLine line number).toList (readLine suffixed number).toList := by
  cases edited with
  | letter front word back size names ends unknown =>
      obtain ⟨record, read, _, _, longer⟩ :=
        front.readLine_suffixed names ends unknown whole number
      rw [read, longer]
      exact .cons ⟨rfl, rfl⟩ .nil

theorem execute_suffixed (edited : LinesEdited Suffixed text suffixed) (machine : Machine) :
    EndAlike Run.Agrees (execute machine (recordsOf text)) (execute machine (recordsOf suffixed)) := by
  induction edited with
  | refl => exact .refl Run.Agrees.refl _
  | tail _ step ih =>
      cases step with
      | line front one other back begins ends whole still edited =>
          obtain ⟨before, number, after, around⟩ := recordsOf_around begins ends
          have same (records : List Record) : List.Forall₂ Record.RunsAs records records :=
            List.forall₂_same.mpr fun record _ => .refl record
          have alike : List.Forall₂ Record.RunsAs (recordsOf (front ++ one ++ back))
              (recordsOf (front ++ other ++ back)) := by
            rw [around one whole, around other still]
            exact List.rel_append (List.rel_append (same before)
              (suffixed_runsAs edited whole number)) (same after)
          exact ih.trans (fun _ _ _ => Run.Agrees.trans) (execute_runsAs alike machine)

end Texts

/-- Every line whose instruction has a known name that is no repeat prefix is a front, the word of this
name, and what follows the word. A size letter after the word, with which it is no known name itself,
gives the record this size and the statement as it is written then, and changes nothing else. So a text
comes to the same state, reports and log with such letters added anywhere. -/
theorem size_suffix_changes_size :
    (∀ line, OnOneLine line → NamesInstruction (mnemonicOf line) →
      ∃ front : LineFront, ∃ word back, line = front.before (word ++ back) ∧
        lower word = mnemonicOf line ∧ EndsWord back) ∧
    (∀ (front : LineFront) (word back : Text) (size : OperandSize) (line : Int),
      OnOneLine (front.before (word ++ back)) → NamesInstruction (lower word) → EndsWord back →
      isKnown (lower word ++ [size.letter]) = false →
        mnemonicOf (front.before (word ++ back)) = lower word ∧
        ∃ record, analyzeLine (front.before (word ++ back)) line = .ok (some record) ∧
          record.size = none ∧ record.source = front.shown word back ∧
          analyzeLine (front.before (word ++ [size.letter] ++ back)) line =
            .ok (some { record with
              size := some size, source := front.shown (word ++ [size.letter]) back })) ∧
    ∀ text suffixed, LinesEdited Suffixed text suffixed → ∀ stackBase,
      EndAlike (fun run again => again.machine = run.machine ∧
        (again.log.map fun entry => (entry.line, entry.effect)) =
          (run.log.map fun entry => (entry.line, entry.effect)) ∧
        ∀ file, again.diagnostics file = run.diagnostics file)
      (simulate text stackBase) (simulate suffixed stackBase) := by
  refine ⟨fun line whole names => line_of_instruction whole names, ?_, ?_⟩
  · intro front word back size line whole names ends unknown
    obtain ⟨record, read, inferred, shown, longer⟩ :=
      front.readLine_suffixed names ends unknown whole line
    have still := front.suffixed_oneLine size whole
    have spoken := front.mnemonicOf_before (isWord_of_known names.known) ends whole names.single
    refine ⟨spoken, record, ?_, inferred, shown, ?_⟩
    · rw [analyzeLine_total _ line whole, read]
    · rw [analyzeLine_total _ line still, longer]
  · intro text suffixed edited stackBase
    rw [simulate_eq_execute, simulate_eq_execute]
    exact (execute_suffixed edited _).imp fun _ _ agrees =>
      ⟨agrees.machine, agrees.log, agrees.diagnostics⟩

/-- A labelled addition on a line that ends in both code points, and a repeated string instruction. -/
theorem size_suffix_changes_size_labelled :
    let addition : Text := "on:\tAdd $7, %eax # b"
    let text : Text := addition ++ "\r\n REP lods".toList
    let suffixed : Text := "on:\tAddl $7, %eax # b\r\n REP lodsb"
    (∃ front : LineFront, ∃ word back, addition = front.before (word ++ back) ∧
      lower word = "add".toList ∧ EndsWord back) ∧
    (∃ record, analyzeLine addition 1 = .ok (some record) ∧ record.size = none ∧
      record.source = "Add $7, %eax".toList ∧
      analyzeLine "on:\tAddl $7, %eax # b" 1 =
        .ok (some { record with size := some .long, source := "Addl $7, %eax".toList })) ∧
    LinesEdited Suffixed text suffixed ∧
    ∃ run again, simulate text 4096 = .ok run ∧ simulate suffixed 4096 = .ok again ∧
      again.machine = run.machine ∧
      again.diagnostics (some "p.s") = run.diagnostics (some "p.s") := by
  intro addition text suffixed
  let label : LineLabel := ⟨"on", "\t", rfl, List.forall_mem_singleton.mpr rfl, by decide⟩
  let repeated : RepeatWord :=
    ⟨"REP", " ", .rep, rfl, ⟨by decide, List.forall_mem_singleton.mpr rfl, by decide⟩⟩
  let first : LineFront := ⟨[], some label, none, by simp⟩
  let second : LineFront := ⟨" ", none, some repeated, List.forall_mem_singleton.mpr rfl⟩
  have add : NamesInstruction (lower "Add".toList) := ⟨by decide, by decide⟩
  have lods : NamesInstruction (lower "lods".toList) := ⟨by decide, by decide⟩
  have whole : OnOneLine addition := by decide
  have named : mnemonicOf addition = "add".toList := by decide
  have addl : Suffixed addition "on:\tAddl $7, %eax # b" :=
    .letter first "Add" " $7, %eax # b" .long add (by decide) (by decide +kernel)
  have lodsb : Suffixed " REP lods" " REP lodsb" :=
    .letter second "lods" [] .byte lods (by decide) (by decide +kernel)
  have one : LineEdited Suffixed text "on:\tAddl $7, %eax # b\r\n REP lods" :=
    .line [] _ _ "\r\n REP lods" (.inl rfl) (.inr ⟨_, .inr rfl⟩) whole (by decide) addl
  have other : LineEdited Suffixed "on:\tAddl $7, %eax # b\r\n REP lods" suffixed :=
    .line "on:\tAddl $7, %eax # b\r\n" _ _ [] (.inr ⟨"on:\tAddl $7, %eax # b\r", rfl⟩) (.inl rfl)
      (by decide) (by decide) lodsb
  have edited : LinesEdited Suffixed text suffixed := .tail (.single one) other
  obtain ⟨fronts, lines, texts⟩ := size_suffix_changes_size
  obtain ⟨front, word, back, same, spoken, ends⟩ :=
    fronts addition whole ⟨named ▸ add.known, named ▸ add.single⟩
  obtain ⟨_, record, read, inferred, shown, longer⟩ :=
    lines first "Add" " $7, %eax # b" .long 1 whole add (by decide) (by decide +kernel)
  obtain ⟨run, ran⟩ : ∃ run, simulate text 4096 = .ok run := ⟨_, rfl⟩
  have alike := texts text suffixed edited 4096
  rw [ran] at alike
  obtain ⟨again, ranAgain, machine, _, diagnostics⟩ := alike.finished_left
  exact ⟨⟨front, word, back, same, spoken.trans named, ends⟩, ⟨record, read, inferred, shown, longer⟩,
    edited, run, again, ran, ranAgain, machine, diagnostics _⟩

end AttAssembly
