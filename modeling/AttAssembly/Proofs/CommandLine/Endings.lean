import AttAssembly.Proofs.CommandLine.ExitCodes

/-!
How the program ends. It works its report out before it opens the file that the report goes to, so
there are three things to tell: whether the source could be read, whether the report could be written,
and whether errors were found, and each has an exit code of its own. Only failures of the disk are
told in this way. A source that is not encoded text, a code point zero in a path, a number with too
many digits to be written down and a stack base given without a value end the program with no exit code
at all.
-/

namespace AttAssembly

/-- No file can be made at the path, or written over, whatever it is to hold. -/
def Disk.Refuses (disk : Disk) (path : Text) : Prop :=
  ∃ error, ∀ content, disk.write path content = .error error

/-- Why there is no report on a source. An analysis writes the values of variables down, a run what
its instructions did; a value that is missing is noticed before. -/
inductive Unreported (invocation : Invocation) (source : Text) : Fault → Prop
  | overlong {records : List Record} (checks : invocation.command = .analyze)
      (analyzed : analyze source = .ok records) (overlong : Overlong records) :
      Unreported invocation source .tooManyDigits
  | missingBase {records : List Record} (runs : invocation.command = .run)
      (unbased : invocation.stackBase = none) (analyzed : analyze source = .ok records)
      (missing : executeWithoutBase records = .error .missingValue) :
      Unreported invocation source .missingValue
  | cutShort {records : List Record} (runs : invocation.command = .run)
      (analyzed : analyze source = .ok records)
      (cut : CutShort (.initial (invocation.stackBase.getD Machine.defaultStackBase)) records)
      (unneeded : invocation.stackBase = none →
        executeWithoutBase records ≠ .error .missingValue) :
      Unreported invocation source .tooManyDigits

/-- What leaves the program without an exit code, in the order in which it is noticed. -/
inductive Abandons (disk : Disk) (invocation : Invocation) : CommandFault → Prop
  | sourceName (zero : '\x00' ∈ invocation.source) : Abandons disk invocation .zeroInPath
  | undecodable {content : ByteArray} (named : '\x00' ∉ invocation.source)
      (held : disk.read invocation.source = .ok content)
      (foreign : ∀ text, content ≠ encodeText text) : Abandons disk invocation .undecodable
  | unreported {source : Text} {fault : Fault} (readable : Readable disk invocation.source source)
      (reason : Unreported invocation source fault) : Abandons disk invocation (.work fault)
  | targetName {source path : Text} {report : Report}
      (readable : Readable disk invocation.source source)
      (reported : reportOf invocation source = .ok report)
      (target : invocation.target = some path) (zero : '\x00' ∈ path) :
      Abandons disk invocation .zeroInPath

section Decoding

theorem decodeSource_foreign (content : ByteArray) (foreign : ∀ text, content ≠ encodeText text) :
    decodeSource content = .error .undecodable := by
  rw [decodeSource]
  cases decoded : String.fromUTF8? content with
  | none => rfl
  | some text =>
      rw [String.fromUTF8?] at decoded
      split at decoded
      · next valid =>
          have same : content = encodeText (String.fromUTF8 content valid).toList := by
            rw [encodeText, String.ofList_toList]
            rfl
          exact absurd same (foreign _)
      · cases decoded

end Decoding

section Writing

end Writing

section Gaps

variable {machine : Machine} {gaps : Gaps} {records : List Record}

theorem Gaps.after_fault {instruction : Instruction} {fault : Fault}
    (failed : gaps.after instruction = .error fault) : fault = .missingValue := by
  cases instruction with
  | compute arithmetic source destination =>
      rw [Gaps.after] at failed
      split at failed <;> cases failed
      rfl
  | push source =>
      simp only [Gaps.after] at failed
      split at failed <;> cases failed
      rfl
  | pop destination =>
      simp only [Gaps.after] at failed
      split at failed
      · cases failed
      · split at failed <;> cases failed
        rfl
  | _ => cases failed

theorem Gaps.along_fault {record : Record} {fault : Fault}
    (failed : gaps.along record = .error fault) : fault = .missingValue := by
  rw [Gaps.along] at failed
  split at failed
  · exact Gaps.after_fault failed
  · cases failed

theorem withoutValue_diagnostics (outcome : Outcome) (file : Option Text) :
    outcome.withoutValue.diagnostics file = outcome.diagnostics file := by
  cases outcome with
  | executed entry =>
      rcases entry with ⟨line, source, effect⟩
      cases effect <;> rfl
  | _ => rfl

/-- The gaps beside a run change nothing that it reports, and only a missing value ends it earlier. -/
theorem executeWithGaps_cases (gaps : Gaps) (machine : Machine) (records : List Record) :
    executeWithGaps gaps machine records = .error .missingValue ∨
      EndAlike (fun gapped run => ∀ file, gapped.diagnostics file = run.diagnostics file)
        (executeWithGaps gaps machine records) (execute machine records) := by
  induction records generalizing gaps machine with
  | nil =>
      rw [executeWithGaps]
      split
      · exact .inr (.finished fun file => rfl)
      · exact .inl rfl
  | cons record rest ih =>
      rw [executeWithGaps, execute]
      cases followed : gaps.along record with
      | error fault => exact .inl (congrArg Except.error (Gaps.along_fault followed))
      | ok onward =>
          obtain ⟨later, missing⟩ := onward
          cases stepped : step machine record with
          | error fault => exact .inr (.ended fault)
          | ok result =>
              obtain ⟨next, outcome⟩ := result
              simp only [bind, Except.bind]
              rcases ih later next with failed | alike
              · exact .inl (by rw [failed])
              · refine .inr ?_
                generalize executeWithGaps later next rest = first,
                  execute next rest = second at alike
                cases alike with
                | ended fault => exact .ended fault
                | finished same =>
                    refine .finished fun file => ?_
                    have rests := same file
                    simp only [Run.diagnostics, List.flatMap_cons] at rests ⊢
                    rw [rests]
                    split
                    · rw [withoutValue_diagnostics]
                    · rfl

end Gaps

section Endings

variable {disk : Disk} {invocation : Invocation} {source : Text}

theorem Readable.unique {path other : Text} (readable : Readable disk path source)
    (again : Readable disk path other) : source = other := by
  obtain ⟨content, held, decoded⟩ := readable.held
  obtain ⟨same, heldAgain, decodedAgain⟩ := again.held
  cases Except.ok.inj (held.symm.trans heldAgain)
  exact Except.ok.inj (decoded.symm.trans decodedAgain)

theorem reportOf_withoutBase (verbose : Bool) (path : Text) (out : Option Text) (source : Text) :
    reportOf ⟨.run, verbose, path, out, none⟩ source =
      (executeWithoutBase (recordsOf source)).map fun run =>
        ⟨simulationLines run (some path), analysisTrace (recordsOf source) ++ executionTrace run,
          hasErrors (run.diagnostics (some path))⟩ := by
  rw [reportOf, analyze_eq_records]
  cases ran : executeWithoutBase (recordsOf source) <;>
    simp only [bind, Except.bind, ran] <;> rfl

theorem Unreported.reportOf {fault : Fault} (reason : Unreported invocation source fault) :
    reportOf invocation source = .error fault := by
  have records := analyze_eq_records source
  rcases invocation with ⟨command, verbose, path, out, base⟩
  cases reason with
  | overlong checks analyzed overlong =>
      cases checks
      cases records.symm.trans analyzed
      rcases analysisLines_cases (recordsOf source) with ⟨_, _, short⟩ | ⟨failed, _⟩
      · exact absurd overlong short
      · rw [reportOf_analyze, failed]
        rfl
  | missingBase runs unbased analyzed missing =>
      cases runs
      cases unbased
      cases records.symm.trans analyzed
      rw [reportOf_withoutBase, missing]
      rfl
  | cutShort runs analyzed cut unneeded =>
      cases runs
      cases records.symm.trans analyzed
      cases base with
      | some base =>
          have failed : simulate source base = .error .tooManyDigits := cut.simulated
          rw [reportOf_run, failed]
          rfl
      | none =>
          have failed : execute (.initial Machine.defaultStackBase) (recordsOf source) =
              .error .tooManyDigits := cut.1
          have alike := (executeWithGaps_cases .initial (.initial Machine.defaultStackBase)
            (recordsOf source)).resolve_left (unneeded rfl)
          rw [failed] at alike
          rw [reportOf_withoutBase, executeWithoutBase, alike.ended_right]
          rfl

theorem delivery_zero {report : Report} {path : Text} (target : invocation.target = some path)
    (zero : '\x00' ∈ path) : (invocation.delivery report).onDisk disk = .error .zeroInPath := by
  simp only [Invocation.delivery, target, checkPath, if_pos zero, Task.onDisk]

theorem Readable.delivered {report : Report} (readable : Readable disk invocation.source source)
    (reported : AttAssembly.reportOf invocation source = .ok report) :
    invocation.task.onDisk disk = (invocation.delivery report).onDisk disk := by
  rw [readable.task, reported]

theorem Abandons.task {fault : CommandFault} (abandons : Abandons disk invocation fault) :
    invocation.task.onDisk disk = .error fault := by
  cases abandons with
  | sourceName zero => simp only [Invocation.task, checkPath, if_pos zero, Task.onDisk]
  | undecodable named held foreign =>
      rw [Invocation.task, checkPath, if_neg named]
      simp only [Task.onDisk, held, Except.mapError, Invocation.work, decodeSource_foreign _ foreign]
  | unreported readable reason =>
      rw [readable.task, reason.reportOf]
  | targetName readable reported target zero =>
      rw [readable.delivered reported, delivery_zero target zero]

end Endings

end AttAssembly
