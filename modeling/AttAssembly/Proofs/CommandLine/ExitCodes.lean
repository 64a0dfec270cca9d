import AttAssembly.Proofs.CommandLine.Reports
import AttAssembly.Proofs.Execution.StructuralErrors

/-!
A source with errors does not pass for a successful run, unless all of them are in directives. The
errors of the analysis are reported again by the run, and both commands end with an exit code that
says so. Directives are passed over by the run, and their errors with them. A run that is cut short
reports nothing, and neither does the analysis of a text with a number that cannot be written down.
-/

namespace AttAssembly

theorem statementErrors_subset (records : List Record) :
    statementErrors records ⊆ structuralErrors records := by
  intro found member
  obtain ⟨record, kept, error⟩ := List.mem_flatMap.mp member
  exact List.mem_flatMap.mpr ⟨record, (List.mem_filter.mp kept).1, error⟩

theorem simulate_reports (file : Option Text) {text : Text} {stackBase : Int} {run : Run}
    (ran : simulate text stackBase = .ok run) :
    ((statementErrors (recordsOf text)).map (reportedError file)).Sublist
      (run.diagnostics file) := by
  rw [simulate_eq_execute] at ran
  exact errors_reported file _ run ran (drawnFrom_recordsOf text).labels_clean

theorem exitCode_failed (report : Report) (verbose : Bool) :
    (report.printed verbose).exitCode = 1 ↔ report.failed = true := by
  rw [Report.printed, Report.exitCode]
  cases report.failed <;> simp

section Commands

variable {edition : Edition} {disk : Disk} {path text : Text} (readable : Readable disk path text)
  {arguments : List Text} {verbose : Bool}

include readable

/-- The analysis exits with one exactly when it finds an error. -/
theorem analysis_exitCode {given : Option Int}
    (checks : readArguments edition arguments = .ok ⟨.analyze, verbose, path, none, given⟩) :
    Overlong (recordsOf text) ∨ ∃ checked, Completes edition disk arguments checked ∧
      (checked.exitCode = 1 ↔ structuralErrors (recordsOf text) ≠ []) := by
  have reported := reportOf_analyze verbose path none given text
  rcases analysisLines_cases (recordsOf text) with ⟨lines, made, _⟩ | ⟨_, overlong⟩
  · rw [made] at reported
    refine .inr ⟨_, completes_report readable checks rfl reported, ?_⟩
    rw [exitCode_failed, decide_eq_true_iff]
  · exact .inl overlong

theorem run_exitCode {base : Int}
    (runs : readArguments edition arguments = .ok ⟨.run, verbose, path, none, some base⟩) :
    CutShort (.initial base) (recordsOf text) ∨ ∃ ran, Completes edition disk arguments ran ∧
      (statementErrors (recordsOf text) ≠ [] → ran.exitCode = 1) := by
  refine (simulate_cases text base).imp_right ?_
  rintro ⟨run, ran⟩
  have reported := reportOf_run verbose path none base text
  rw [ran] at reported
  refine ⟨_, completes_report readable runs rfl reported, ?_⟩
  intro faulty
  rw [exitCode_failed]
  exact statement_errors_fail (some path) _ run (simulate_reports (some path) ran) faulty

end Commands

/-- Every error of a line that is not a directive is reported by the run of the text, in order and
with its line, so a text with such an error is reported in error. On a file that can be read, the
analysis exits with one exactly when it finds an error, and with an error outside directives both
commands do. A run may be cut short instead, and an analysis may have a number that cannot be written
down. -/
theorem statement_errors_fail_run (edition : Edition) (text : Text) (stackBase : Int)
    (file : Option Text) :
    (∃ records, analyze text = .ok records ∧
      (CutShort (.initial stackBase) records ∨ ∃ run, simulate text stackBase = .ok run ∧
        ((statementErrors records).map (reportedError file)).Sublist (run.diagnostics file) ∧
        (statementErrors records ≠ [] → hasErrors (run.diagnostics file) = true))) ∧
    ∀ disk path, Readable disk path text → ∀ checking running verbose other given base,
      readArguments edition checking = .ok ⟨.analyze, verbose, path, none, given⟩ →
      readArguments edition running = .ok ⟨.run, other, path, none, some base⟩ →
      ∃ records, analyze text = .ok records ∧
        (Overlong records ∨ ∃ checked, Completes edition disk checking checked ∧
          (checked.exitCode = 1 ↔ structuralErrors records ≠ []) ∧
          (statementErrors records ≠ [] → checked.exitCode = 1)) ∧
        (CutShort (.initial base) records ∨ ∃ ran, Completes edition disk running ran ∧
          (statementErrors records ≠ [] → ran.exitCode = 1)) := by
  constructor
  · refine ⟨_, analyze_eq_records text, (simulate_cases text stackBase).imp_right ?_⟩
    rintro ⟨run, ran⟩
    have reported := simulate_reports file ran
    exact ⟨run, ran, reported, statement_errors_fail file _ run reported⟩
  · intro disk path readable checking running verbose other given base checks runs
    refine ⟨_, analyze_eq_records text, ?_, run_exitCode readable runs⟩
    refine (analysis_exitCode readable checks).imp_right ?_
    rintro ⟨checked, done, found⟩
    refine ⟨checked, done, found, fun faulty => found.mpr fun faultless => ?_⟩
    have inside := statementErrors_subset (recordsOf text)
    rw [faultless] at inside
    exact faulty (List.subset_nil.mp inside)

/-- An unknown directive and, two lines below it, a push of nothing. -/
theorem statement_errors_fail_run_push :
    let text : Text := ".foo\nnop\npush"
    let disk := Disk.scratch.addFile "p.s" (encodeText text)
    Readable disk "p.s" text ∧
      readArguments .later ["analyze", "p.s"] =
        .ok ⟨.analyze, false, "p.s", none, some Machine.defaultStackBase⟩ ∧
      readArguments .later ["run", "p.s", "--stack-base", "8"] =
        .ok ⟨.run, false, "p.s", none, some 8⟩ ∧
      ∃ records run checked ran, analyze text = .ok records ∧ statementErrors records ≠ [] ∧
        simulate text 4096 = .ok run ∧ hasErrors (run.diagnostics none) = true ∧
        Completes .later disk ["analyze", "p.s"] checked ∧
        Completes .later disk ["run", "p.s", "--stack-base", "8"] ran ∧
        checked.exitCode = 1 ∧ ran.exitCode = 1 := by
  intro text disk
  have unified : unifyLineEnds text = text := by decide
  have readable : Readable disk "p.s" text := by
    refine ⟨by decide, encodeText text, rfl, ?_⟩
    rw [decodeSource_encodeText, unified]
  have checks : readArguments .later ["analyze", "p.s"] =
      .ok ⟨.analyze, false, "p.s", none, some Machine.defaultStackBase⟩ :=
    readArguments_analyze "p.s" (by decide)
  have runs : readArguments .later ["run", "p.s", "--stack-base", "8"] =
      .ok ⟨.run, false, "p.s", none, some 8⟩ := by
    have spelled : decimal 8 = "8".toList := by decide
    exact spelled ▸ (readArguments_run "p.s" (by decide) 8).trans (if_pos (by decide))
  have analyzed := analyze_eq_records text
  have found : statementErrors (recordsOf text) ≠ [] := by decide
  -- Nothing is carried out but an idle instruction, and no variable is declared.
  have whole (base : Int) : ¬ CutShort (.initial base) (recordsOf text) := fun cut => by cases cut.1
  have short : ¬ Overlong (recordsOf text) := by
    rintro ⟨declared, member, _⟩
    cases member
  obtain ⟨⟨records, also, ended⟩, commands⟩ := statement_errors_fail_run .later text 4096 none
  obtain rfl := Except.ok.inj (analyzed.symm.trans also)
  obtain ⟨run, simulated, _, failed⟩ := ended.resolve_left (whole 4096)
  obtain ⟨records, also, checking, running⟩ := commands disk "p.s" readable _ _ _ _ _ _ checks runs
  obtain rfl := Except.ok.inj (analyzed.symm.trans also)
  obtain ⟨checked, checkedDone, _, checkedCode⟩ := checking.resolve_left short
  obtain ⟨ran, ranDone, ranCode⟩ := running.resolve_left (whole 8)
  exact ⟨readable, checks, runs, _, run, checked, ran, analyzed, found, simulated, failed found,
    checkedDone, ranDone, checkedCode found, ranCode found⟩

/-- The analysis finds an unknown directive and the run reports nothing. -/
theorem directive_error_unreported :
    ∃ records run, analyze ".foo" = .ok records ∧
      structuralErrors records = [(1, .unknownDirective ".foo")] ∧
      simulate ".foo" 4096 = .ok run ∧ run.diagnostics none = [] ∧
      hasErrors (run.diagnostics none) = false := by
  have analyzed := analyze_eq_records ".foo"
  refine ⟨_, ⟨.initial 4096, [.skipped]⟩, analyzed, by decide, ?_, rfl, rfl⟩
  rw [simulate, analyzed]
  rfl

end AttAssembly
