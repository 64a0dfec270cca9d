import AttAssembly.Proofs.Analysis.Operands
import AttAssembly.Proofs.Execution.Accounting

/-!
What becomes of the errors of the analysis when the records are executed. A directive is passed over
whatever is wrong with it. All other records that carry errors are rejected, and every error is
reported, in order, with its line.
-/

namespace AttAssembly

/-- The errors of the lines that are not directives. -/
def statementErrors (records : List Record) : List (Int × LineError) :=
  structuralErrors (records.filter (·.category ≠ .directive))

/-- An error of the analysis as a run reports it. -/
def reportedError (file : Option Text) (found : Int × LineError) : Diagnostic :=
  ⟨.error, found.2.message, some found.1, none, file⟩

theorem ReadAs.label_clean {text : Text} {line : Int} {record : Record}
    (kind : ReadAs text line record) (label : record.category = .label) : record.errors = [] := by
  cases kind with
  | label name => rfl
  | directive place name operandText here inside => simp [directiveRecord] at label
  | instruction place repetition mnemonic operandText here inside =>
      exact absurd label (category_statement _ _).1
  | loneRepeat place repetition here => simp [loneRepeatRecord] at label

theorem DrawnFrom.labels_clean {text : Text} {records : List Record}
    (drawn : DrawnFrom text records) :
    ∀ record ∈ records, record.category = .label → record.errors = [] := by
  intro record member
  obtain ⟨line, _, kind⟩ := drawn.readAs record member
  exact kind.label_clean

theorem statementErrors_cons (record : Record) (rest : List Record) :
    statementErrors (record :: rest) =
      (if record.category = .directive then []
        else record.errors.map fun error => (record.line, error)) ++ statementErrors rest := by
  by_cases directive : record.category = .directive
  · simp [statementErrors, structuralErrors, directive]
  · simp [statementErrors, structuralErrors, directive]

section Reported

variable {machine next : Machine} {record : Record} {outcome : Outcome}

theorem decode_structural (statement : ¬ (record.category = .label ∨ record.category = .directive))
    (faulty : record.errors ≠ []) :
    decode record = .rejected (record.errors.map .structural) := by
  rw [decode, if_neg statement, if_pos faulty]

/-- A record without an instruction is rejected for the causes that it was decoded to. -/
theorem stepped_rejected {causes : List Rejection} (decoded : decode record = .rejected causes)
    (stepped : Stepped machine record next outcome) : outcome = .rejected record.line causes := by
  cases stepped with
  | rejected others also =>
      cases decoded.symm.trans also
      rfl
  | skipped also => cases decoded.symm.trans also
  | starved instruction also stuck => cases decoded.symm.trans also
  | executed instruction effect next also ran => cases decoded.symm.trans also

theorem stepped_structural (file : Option Text) (stepped : Stepped machine record next outcome)
    (labelled : record.category = .label → record.errors = [])
    (statement : record.category ≠ .directive) (faulty : record.errors ≠ []) :
    outcome.diagnostics file =
      record.errors.map fun error => reportedError file (record.line, error) := by
  have executable : ¬ (record.category = .label ∨ record.category = .directive) := by
    rintro (label | directive)
    · exact faulty (labelled label)
    · exact statement directive
  rw [stepped_rejected (decode_structural executable faulty) stepped, Outcome.diagnostics,
    List.map_map]
  rfl

theorem errors_reported (file : Option Text) (records : List Record) (run : Run)
    (ran : execute machine records = .ok run)
    (labelled : ∀ record ∈ records, record.category = .label → record.errors = []) :
    ((statementErrors records).map (reportedError file)).Sublist (run.diagnostics file) := by
  induction records generalizing machine run with
  | nil => exact List.nil_sublist _
  | cons record rest ih =>
      obtain ⟨next, outcome, later, stepped, ranRest, whole⟩ := (execute_cons _ _ _).mp ran
      have tail := ih later ranRest fun other member =>
        labelled other (List.mem_cons_of_mem _ member)
      have grown : run.diagnostics file = outcome.diagnostics file ++ later.diagnostics file := by
        rw [whole, Run.diagnostics, List.flatMap_cons, Run.diagnostics]
      rw [statementErrors_cons, List.map_append, grown]
      apply List.Sublist.append ?_ tail
      by_cases directive : record.category = .directive
      · simp [directive]
      · by_cases clean : record.errors = []
        · simp [directive, clean]
        · rw [stepped_structural file stepped (labelled record List.mem_cons_self) directive clean,
            if_neg directive, List.map_map]
          exact List.Sublist.refl _

theorem statement_errors_fail (file : Option Text) (records : List Record) (run : Run)
    (reported : ((statementErrors records).map (reportedError file)).Sublist (run.diagnostics file))
    (faulty : statementErrors records ≠ []) : hasErrors (run.diagnostics file) = true := by
  obtain ⟨found, member⟩ := List.exists_mem_of_ne_nil _ faulty
  rw [hasErrors, List.any_eq_true]
  exact ⟨reportedError file found, reported.subset (List.mem_map_of_mem member), rfl⟩

end Reported

end AttAssembly
