import AttAssembly.Proofs.CommandLine.Arguments
import AttAssembly.Proofs.CommandLine.LineEnds
import AttAssembly.Proofs.Execution.Totality

/-!
The two commands on a source that can be read. What they print is what the analysis and the
execution of the text say, but the text is that of the file with its line ends unified. The report
is that of the text itself as long as every carriage return before its last word stands before a
line feed; a carriage return that stands alone ends a line of the file and none of the text. Where
a report cannot be made because a number in it has too many digits, the command is abandoned.
-/

namespace AttAssembly

theorem decodeSource_encodeText (text : Text) :
    decodeSource (encodeText text) = .ok (unifyLineEnds text) := by
  have valid : (String.ofList text).toByteArray.IsValidUTF8 := String.isValidUTF8 _
  have decoded : String.fromUTF8? (encodeText text) = some (String.ofList text) := by
    rw [encodeText, String.toUTF8_eq_toByteArray, String.fromUTF8?, dif_pos valid]
    rfl
  rw [decodeSource, decoded]
  dsimp only
  rw [String.toList_ofList]

/-- A file with a name that a disk can have, that can be read and holds encoded text. -/
structure Readable (disk : Disk) (path source : Text) : Prop where
  named : '\x00' ∉ path
  held : ∃ content, disk.read path = .ok content ∧ decodeSource content = .ok source

/-- The program does its work to the end and leaves the disk as it was. -/
def Completes (edition : Edition) (disk : Disk) (arguments : List Text) (completion : Completion) :
    Prop := runProgram edition disk arguments = .ok (.done completion, disk)

/-- The program prints these lines and nothing else. -/
def Prints (edition : Edition) (disk : Disk) (arguments : List Text) (lines : List Text) : Prop :=
  ∃ completion, Completes edition disk arguments completion ∧ completion.output = unlines lines

/-- The program prints the report, or is abandoned for the digits that keep it from being made. -/
inductive Answers (edition : Edition) (disk : Disk) (arguments : List Text) :
    Except Fault (List Text) → Prop
  | prints {lines : List Text} (printed : Prints edition disk arguments lines) :
      Answers edition disk arguments (.ok lines)
  | abandons
      (failed : runProgram edition disk arguments = .error (.work .tooManyDigits)) :
      Answers edition disk arguments (.error .tooManyDigits)

/-- A value of the variable has too many digits to be written down. -/
def Variable.Overlong (declared : Variable) : Prop :=
  ∃ value ∈ declared.values, writable value = false

def Overlong (records : List Record) : Prop :=
  ∃ declared ∈ declaredVariables records, declared.Overlong

section Variables

theorem variableLine_cases (declared : Variable) :
    (∃ line, variableLine declared = .ok line ∧ ¬ declared.Overlong) ∨
      (variableLine declared = .error .tooManyDigits ∧ declared.Overlong) := by
  have overlong_iff : declared.Overlong ↔ ¬ declared.values.all writable = true := by
    simp [Variable.Overlong]
  rw [variableLine, overlong_iff, not_not]
  split
  · next written => exact .inl ⟨_, rfl, written⟩
  · next overlong => exact .inr ⟨rfl, overlong⟩

theorem variableLines_cases (declarations : List Variable) :
    (∃ lines, declarations.mapM variableLine = .ok lines ∧
      ∀ declared ∈ declarations, ¬ declared.Overlong) ∨
    (declarations.mapM variableLine = .error .tooManyDigits ∧
      ∃ declared ∈ declarations, declared.Overlong) := by
  induction declarations with
  | nil => exact .inl ⟨[], rfl, List.forall_mem_nil _⟩
  | cons declared rest ih =>
      rw [List.mapM_cons, List.forall_mem_cons]
      rcases variableLine_cases declared with ⟨line, first, written⟩ | ⟨first, overlong⟩
      · rw [first]
        rcases ih with ⟨lines, later, rests⟩ | ⟨later, other, member, overlong⟩
        · rw [later]
          exact .inl ⟨line :: lines, rfl, written, rests⟩
        · rw [later]
          exact .inr ⟨rfl, other, List.mem_cons_of_mem _ member, overlong⟩
      · rw [first]
        exact .inr ⟨rfl, declared, List.mem_cons_self, overlong⟩

/-- Only the values of variables can keep an analysis from being reported. -/
theorem analysisLines_cases (records : List Record) :
    (∃ lines, analysisLines records = .ok lines ∧ ¬ Overlong records) ∨
      (analysisLines records = .error .tooManyDigits ∧ Overlong records) := by
  rw [analysisLines]
  rcases variableLines_cases (declaredVariables records) with ⟨lines, made, written⟩ | ⟨failed, found⟩
  · rw [made]
    exact .inl ⟨_, rfl, fun ⟨declared, member, overlong⟩ => written declared member overlong⟩
  · rw [failed]
    exact .inr ⟨rfl, found⟩

theorem analysisLines_undeclared {records : List Record}
    (undeclared : declaredVariables records = []) :
    analysisLines records =
      .ok (records.flatMap fun record => recordLine record :: record.errors.map errorLine) := by
  rw [analysisLines, undeclared, List.mapM_nil]
  exact congrArg Except.ok (List.append_nil _)

end Variables

section Completion

variable {edition : Edition} {disk : Disk} {arguments : List Text} {invocation : Invocation}
  {source : Text}

theorem runProgram_understood (understood : readArguments edition arguments = .ok invocation) :
    runProgram edition disk arguments =
      (invocation.task.onDisk disk).map fun (completion, after) => (.done completion, after) := by
  rw [runProgram, understood]

/-- A source that can be read is reported on, and the report is delivered. -/
theorem Readable.task (readable : Readable disk invocation.source source) :
    invocation.task.onDisk disk =
      match reportOf invocation source with
      | .error fault => .error (.work fault)
      | .ok report => (invocation.delivery report).onDisk disk := by
  obtain ⟨content, held, decoded⟩ := readable.held
  rw [Invocation.task, checkPath, if_neg readable.named]
  simp only [Task.onDisk, held, Except.mapError, Invocation.work, decoded]
  cases reportOf invocation source <;> rfl

theorem completes_report {report : Report} (readable : Readable disk invocation.source source)
    (understood : readArguments edition arguments = .ok invocation)
    (printed : invocation.target = none) (reported : reportOf invocation source = .ok report) :
    Completes edition disk arguments (report.printed invocation.verbose) := by
  rw [Completes, runProgram_understood understood, readable.task, reported]
  simp only [Invocation.delivery, printed, Task.onDisk]
  rfl

theorem abandoned_report {fault : Fault} (readable : Readable disk invocation.source source)
    (understood : readArguments edition arguments = .ok invocation)
    (failed : reportOf invocation source = .error fault) :
    runProgram edition disk arguments = .error (.work fault) := by
  rw [runProgram_understood understood, readable.task, failed]
  rfl

theorem reportOf_analyze (verbose : Bool) (path : Text) (out : Option Text) (base : Option Int)
    (source : Text) :
    reportOf ⟨.analyze, verbose, path, out, base⟩ source =
      (analysisLines (recordsOf source)).map fun lines =>
        ⟨lines, analysisTrace (recordsOf source), structuralErrors (recordsOf source) ≠ []⟩ := by
  rw [reportOf, analyze_eq_records]
  cases made : analysisLines (recordsOf source) <;>
    simp only [bind, Except.bind, made] <;> rfl

theorem reportOf_run (verbose : Bool) (path : Text) (out : Option Text) (base : Int) (source : Text) :
    reportOf ⟨.run, verbose, path, out, some base⟩ source =
      (simulate source base).map fun run =>
        ⟨simulationLines run (some path), analysisTrace (recordsOf source) ++ executionTrace run,
          hasErrors (run.diagnostics (some path))⟩ := by
  rw [simulate_eq_execute, reportOf, analyze_eq_records]
  cases ran : execute (.initial base) (recordsOf source) <;>
    simp only [bind, Except.bind, ran] <;> rfl

end Completion

/-- Both commands on a file, however they are given, answer with what the library says about the
text. -/
def CommandsReport (edition : Edition) (disk : Disk) (path text : Text) : Prop :=
  (∀ arguments verbose base,
    readArguments edition arguments = .ok ⟨.analyze, verbose, path, none, base⟩ →
      ∃ records, analyze text = .ok records ∧
        Answers edition disk arguments (analysisLines records)) ∧
  ∀ arguments verbose base,
    readArguments edition arguments = .ok ⟨.run, verbose, path, none, some base⟩ →
      Answers edition disk arguments
        ((simulate text base).map (simulationLines · (some path)))

section Commands

variable {edition : Edition} {disk : Disk} {path source : Text}

theorem readable_reports (readable : Readable disk path source) :
    CommandsReport edition disk path source := by
  constructor
  · intro arguments verbose base understood
    have reported := reportOf_analyze verbose path none base source
    refine ⟨_, analyze_eq_records source, ?_⟩
    rcases analysisLines_cases (recordsOf source) with ⟨lines, made, _⟩ | ⟨failed, _⟩
    · rw [made] at reported ⊢
      exact .prints ⟨_, completes_report readable understood rfl reported, rfl⟩
    · rw [failed] at reported ⊢
      exact .abandons (abandoned_report readable understood reported)
  · intro arguments verbose base understood
    have reported := reportOf_run verbose path none base source
    rcases simulate_cases source base with cut | ⟨run, ran⟩
    · rw [cut.simulated] at reported ⊢
      exact .abandons (abandoned_report readable understood reported)
    · rw [ran] at reported ⊢
      exact .prints ⟨_, completes_report readable understood rfl reported, rfl⟩

/-- What is said about a text depends on its records only. -/
theorem CommandsReport.of_records {text : Text} (reports : CommandsReport edition disk path source)
    (same : recordsOf source = recordsOf text) : CommandsReport edition disk path text := by
  have analyzed : analyze source = analyze text := by
    rw [analyze_eq_records, analyze_eq_records, same]
  have simulated (base : Int) : simulate source base = simulate text base := by
    rw [simulate, simulate, analyzed]
  constructor
  · intro arguments verbose base understood
    exact analyzed ▸ reports.1 arguments verbose base understood
  · intro arguments verbose base understood
    exact simulated base ▸ reports.2 arguments verbose base understood

end Commands

/-- On a file that holds the encoding of a text, both commands print what the library says about the
text with its line ends unified, and are abandoned where the library cannot say it for too many digits.
That is what it says about the text itself if every carriage return before the last word of the text is
half of a line end, and the physical lines are the same exactly if every carriage return is. A path
without a dash in front can be given as it is, and so can every stack base that does not have too many
digits. -/
theorem commands_report_as_library (edition : Edition) (disk : Disk) (path text : Text)
    (named : '\x00' ∉ path) (held : disk.read path = .ok (encodeText text)) :
    CommandsReport edition disk path (unifyLineEnds text) ∧
    (PairedReturns (trimRight text) → CommandsReport edition disk path text) ∧
    (physicalLines (unifyLineEnds text) = physicalLines text ↔ PairedReturns text) ∧
    (path.head? ≠ some '-' →
      readArguments edition ["analyze", path] =
        .ok ⟨.analyze, false, path, none, some Machine.defaultStackBase⟩ ∧
      ∀ base, readArguments edition ["run", path, "--stack-base", decimal base] =
        if writable base then .ok ⟨.run, false, path, none, some base⟩ else .error .usage) := by
  have readable : Readable disk path (unifyLineEnds text) :=
    ⟨named, _, held, decodeSource_encodeText text⟩
  refine ⟨readable_reports readable, ?_, physicalLines_unified_iff text, ?_⟩
  · intro paired
    exact (readable_reports readable).of_records (recordsOf_unified text paired)
  · intro undashed
    exact ⟨readArguments_analyze path undashed, readArguments_run path undashed⟩

/-- Lines that end in both code points, and a carriage return at the end of the file. -/
theorem commands_report_as_library_paired :
    let text : Text := "push $1\r\npop %eax\r\n; end\r"
    let disk := Disk.scratch.addFile "p.s" (encodeText text)
    '\x00' ∉ ("p.s" : Text) ∧ disk.read "p.s" = .ok (encodeText text) ∧
      PairedReturns (trimRight text) ∧
      (∃ records lines, analyze text = .ok records ∧ analysisLines records = .ok lines ∧
        Prints .later disk ["analyze", "p.s"] lines) ∧
      ∃ run, simulate text (-8) = .ok run ∧
        Prints .later disk ["run", "p.s", "--stack-base", "-8"] (simulationLines run (some "p.s")) := by
  intro text disk
  have named : '\x00' ∉ ("p.s" : Text) := by decide
  have held : disk.read "p.s" = .ok (encodeText text) := rfl
  have paired : PairedReturns (trimRight text) := by
    have trimmed : trimRight text = "push $1\r\npop %eax\r\n; end".toList := by decide
    rw [trimmed]
    simp [pairedReturns_cons, pairedReturns_nil]
  have spelled : decimal (-8) = "-8".toList := by decide
  obtain ⟨_, agree, _, understood⟩ := commands_report_as_library .later disk "p.s" text named held
  obtain ⟨analyzing, running⟩ := understood (by decide)
  obtain ⟨reported, simulated⟩ := agree paired
  refine ⟨named, held, paired, ?_, ?_⟩
  · obtain ⟨records, analyzed, answers⟩ := reported _ _ _ analyzing
    obtain rfl : recordsOf text = records :=
      Except.ok.inj ((analyze_eq_records text).symm.trans analyzed)
    have made := analysisLines_undeclared (show declaredVariables (recordsOf text) = [] by decide)
    rw [made] at answers
    cases answers with
    | prints printed => exact ⟨_, _, analyzed, made, printed⟩
  · have running := running (-8)
    rw [spelled, if_pos (by decide)] at running
    have answers := simulated _ _ _ running
    have ran : ∃ run, simulate text (-8) = .ok run := ⟨_, rfl⟩
    obtain ⟨run, ran⟩ := ran
    rw [ran] at answers
    cases answers with
    | prints printed => exact ⟨run, ran, printed⟩

/-- The library takes the whole text for one comment, the program reads a second line. -/
theorem lone_return_ends_line_of_file :
    let text : Text := "# note\rnop"
    let disk := Disk.scratch.addFile "p.s" (encodeText text)
    disk.read "p.s" = .ok (encodeText text) ∧ analyze text = .ok [] ∧
      readArguments .later ["analyze", "p.s"] =
        .ok ⟨.analyze, false, "p.s", none, some Machine.defaultStackBase⟩ ∧
      Completes .later disk ["analyze", "p.s"]
        ⟨0, "   2  nop [misc/inferido] sin-operandos  reads=- writes=-\n", []⟩ ∧
      ¬ CommandsReport .later disk "p.s" text := by
  intro text disk
  have held : disk.read "p.s" = .ok (encodeText text) := rfl
  have nothing : analyze text = .ok [] := by
    rw [analyze_eq_records]
    exact congrArg Except.ok (by decide)
  have understood : readArguments .later ["analyze", "p.s"] =
      .ok ⟨.analyze, false, "p.s", none, some Machine.defaultStackBase⟩ :=
    readArguments_analyze "p.s" (by decide)
  have readable : Readable disk "p.s" (unifyLineEnds text) :=
    ⟨by decide, _, held, decodeSource_encodeText text⟩
  let line : Text := "   2  nop [misc/inferido] sin-operandos  reads=- writes=-"
  have reported : reportOf ⟨.analyze, false, "p.s", none, some Machine.defaultStackBase⟩
      (unifyLineEnds text) = .ok ⟨[line], analysisTrace (recordsOf (unifyLineEnds text)), false⟩ := by
    rw [reportOf_analyze, analysisLines_undeclared (by decide)]
    exact congrArg Except.ok (by decide)
  have completed := completes_report readable understood rfl reported
  refine ⟨held, nothing, understood, completed, ?_⟩
  intro reports
  obtain ⟨records, analyzed, answers⟩ := reports.1 _ _ _ understood
  cases Except.ok.inj (nothing.symm.trans analyzed)
  cases answers with
  | prints printed =>
      obtain ⟨completion, also, lines⟩ := printed
      obtain ⟨rfl, _⟩ := Except.ok.inj (also.symm.trans completed)
      exact absurd lines (by decide)

end AttAssembly
