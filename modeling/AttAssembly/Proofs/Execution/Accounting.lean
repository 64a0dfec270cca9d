import AttAssembly.Proofs.Execution.Totality
import AttAssembly.Proofs.Machine.Range

/-!
What a run reports and logs. A record is skipped, fails or is executed, and it is never two of
these. A failure leaves the machine and the log as they were and adds errors alone; an execution
adds one log entry, and a warning when its sum or difference does not fit in 32 bits.
-/

namespace AttAssembly

/-- The number that an operand stands for. -/
def Operand.valueIn? (machine : Machine) (operand : Operand) : Option Int :=
  match operand.form with
  | .register (.long holder) => some (machine.get holder)
  | .immediate (.number value) => some value
  | _ => none

/-- The exact result of an addition or a subtraction. -/
def exactResult? (machine : Machine) (record : Record) : Option Int :=
  match record.operands with
  | [source, destination] => do
      let operand ← source.valueIn? machine
      let current ← destination.valueIn? machine
      if record.mnemonic = ("add" : Text) then some (current + operand)
      else if record.mnemonic = ("sub" : Text) then some (current - operand)
      else none
  | _ => none

/-- The sum or difference that an instruction left in its destination. -/
def Effect.result? : Effect → Option Int
  | computed value _ => some value
  | _ => none

inductive Fate where
  | skipped
  | failed
  | executed
  deriving DecidableEq

/-- What a record did, told from the run before it and the run that ends with it. -/
def Fate.Relates (file : Option Text) (record : Record) (before after : Run) : Fate → Prop
  | skipped =>
      (record.category = .label ∨ record.category = .directive) ∧
        after.machine = before.machine ∧ after.log = before.log ∧
          after.diagnostics file = before.diagnostics file
  | failed =>
      after.machine = before.machine ∧ after.log = before.log ∧
        ∃ errors, errors ≠ [] ∧ after.diagnostics file = before.diagnostics file ++ errors ∧
          ∀ diagnostic ∈ errors, diagnostic.severity = .error ∧
            diagnostic.line = some record.line ∧ diagnostic.file = file
  | executed =>
      (∃ entry, after.log = before.log ++ [entry] ∧
        entry.line = record.line ∧ entry.source = record.source) ∧
      ((∃ result, exactResult? before.machine record = some result ∧ ¬ InRange result) →
        ∃ warning, after.diagnostics file = before.diagnostics file ++ [warning] ∧
          warning.severity = .warning ∧ warning.line = some record.line ∧
            warning.file = file) ∧
      ((∀ result, exactResult? before.machine record = some result → InRange result) →
        after.diagnostics file = before.diagnostics file)

theorem valueIn_of_register (machine : Machine) (operand : Operand) (holder : GeneralRegister)
    (form : operand.form = .register (.long holder)) :
    operand.valueIn? machine = some (machine.get holder) := by
  simp [Operand.valueIn?, form]

theorem valueIn_of_source (machine : Machine) (operand : Operand) (source : Source)
    (read : sourceOf operand = .ok source) :
    operand.valueIn? machine = some (source.value machine) := by
  rcases (sourceOf_iff operand source).mp read with ⟨holder, form, same⟩ | ⟨value, form, same⟩
  · simp [Operand.valueIn?, form, same, Source.value]
  · simp [Operand.valueIn?, form, same, Source.value]

theorem exactResult_compute (machine : Machine) (record : Record) (arithmetic : Arithmetic)
    (given target : Operand) (source : Source) (destination : GeneralRegister)
    (named : record.mnemonic = (Operation.compute arithmetic).name)
    (operands : record.operands = [given, target]) (read : sourceOf given = .ok source)
    (written : target.form = .register (.long destination)) :
    exactResult? machine record =
      some (arithmetic.apply (machine.get destination) (source.value machine)) := by
  simp only [exactResult?, operands, valueIn_of_source machine given source read,
    valueIn_of_register machine target destination written, Option.bind_eq_bind, Option.bind_some]
  cases arithmetic <;> simp [named, Operation.name, Arithmetic.apply]

theorem exactResult_other (machine : Machine) (record : Record)
    (notAdd : record.mnemonic ≠ ("add" : Text)) (notSub : record.mnemonic ≠ ("sub" : Text)) :
    exactResult? machine record = none := by
  rw [exactResult?]
  split
  · next source destination _ =>
      cases source.valueIn? machine with
      | none => rfl
      | some operand =>
          cases destination.valueIn? machine with
          | none => rfl
          | some current =>
              simp only [Option.bind_eq_bind, Option.bind_some, if_neg notAdd, if_neg notSub]
  · rfl

/-- The result that an instruction computes is the exact one; the others compute none. -/
theorem executed_result (machine next : Machine) (record : Record) (operation : Operation)
    (instruction : Instruction) (effect : Effect)
    (executable : record.Executable operation instruction)
    (ran : instruction.run machine = some (next, effect)) :
    exactResult? machine record = effect.result? := by
  -- A mnemonic that is neither `add` nor `sub` has no exact result, whatever its operands are.
  have named := executable.named
  have other (notAdd : operation.name ≠ ("add" : Text)) (notSub : operation.name ≠ ("sub" : Text)) :
      exactResult? machine record = none :=
    exactResult_other machine record (named ▸ notAdd) (named ▸ notSub)
  have taken := executable.taken
  generalize operands : record.operands = written at taken
  cases taken with
  | compute read target =>
      cases ran
      exact exactResult_compute machine record _ _ _ _ _ named operands read target
  | move read target =>
      cases ran
      exact other (by decide) (by decide)
  | push read =>
      cases ran
      exact other (by decide) (by decide)
  | pop target =>
      obtain ⟨_, _, _, _, rfl⟩ := run_pop_iff.mp ran
      exact other (by decide) (by decide)
  | idle operands =>
      cases ran
      exact other (by decide) (by decide)
  | interrupt operands =>
      cases ran
      exact other (by decide) (by decide)

namespace Run

theorem log_concat (before : Run) (next : Machine) (outcome : Outcome) :
    (⟨next, before.outcomes ++ [outcome]⟩ : Run).log = before.log ++ outcome.log?.toList := by
  cases logged : outcome.log? <;> simp [log, logged]

theorem diagnostics_concat (before : Run) (next : Machine) (outcome : Outcome)
    (file : Option Text) :
    (⟨next, before.outcomes ++ [outcome]⟩ : Run).diagnostics file =
      before.diagnostics file ++ outcome.diagnostics file := by
  simp [diagnostics]

end Run

theorem rejected_diagnostics (line : Int) (causes : List Rejection) (file : Option Text) :
    ∀ diagnostic ∈ (Outcome.rejected line causes).diagnostics file,
      diagnostic.severity = .error ∧ diagnostic.line = some line ∧ diagnostic.file = file := by
  intro diagnostic member
  obtain ⟨cause, _, same⟩ := List.mem_map.mp member
  subst diagnostic
  exact ⟨rfl, rfl, rfl⟩

theorem executed_diagnostics (entry : LogEntry) (file : Option Text) :
    ∀ diagnostic ∈ (Outcome.executed entry).diagnostics file, diagnostic.severity = .warning := by
  intro diagnostic member
  rw [Outcome.diagnostics] at member
  split at member
  · cases member
  · rw [List.mem_singleton.mp member]

theorem overflow_eq (effect : Effect) :
    effect.overflow? = effect.result?.filter fun value => !fits32 value := by
  cases effect with
  | computed value register =>
      cases fits : fits32 value <;> simp [Effect.overflow?, Effect.result?, Option.filter_some, fits]
  | _ => rfl

theorem executed_overflow (entry : LogEntry) (file : Option Text) (result : Int)
    (computed : entry.effect.result? = some result) (outside : ¬ InRange result) :
    (Outcome.executed entry).diagnostics file =
      [⟨.warning, "result " ++ decimal result ++ " does not fit in 32 bits", some entry.line, none,
        file⟩] := by
  have tooLarge : fits32 result = false :=
    Bool.eq_false_iff.mpr fun fits => outside ((fits32_iff result).mp fits)
  simp only [Outcome.diagnostics, overflow_eq, computed, Option.filter_some, tooLarge, Bool.not_false,
    ↓reduceIte]

theorem executed_silent (entry : LogEntry) (file : Option Text)
    (inside : ∀ result, entry.effect.result? = some result → InRange result) :
    (Outcome.executed entry).diagnostics file = [] := by
  rw [Outcome.diagnostics, overflow_eq]
  cases computed : entry.effect.result? with
  | none => rfl
  | some result =>
      have fits := (fits32_iff result).mpr (inside result computed)
      simp only [Option.filter_some, fits, Bool.not_true, Bool.false_eq_true, ↓reduceIte]

/-- Every step is told by one of the three fates. -/
theorem stepped_fate (file : Option Text) (record : Record) (before : Run) (next : Machine)
    (outcome : Outcome) (stepped : Stepped before.machine record next outcome) :
    ∃ fate : Fate, fate.Relates file record before ⟨next, before.outcomes ++ [outcome]⟩ := by
  have logged := before.log_concat next outcome
  have reported := before.diagnostics_concat next outcome file
  cases stepped with
  | skipped decoded =>
      refine ⟨.skipped, (decode_skipped_iff record).mp decoded, rfl, ?_, ?_⟩
      · simpa [Outcome.log?] using logged
      · simpa [Outcome.diagnostics] using reported
  | rejected causes decoded =>
      refine ⟨.failed, rfl, ?_, _, ?_, reported, rejected_diagnostics _ _ _⟩
      · simpa [Outcome.log?] using logged
      · simpa [Outcome.diagnostics] using decode_rejected_caused record causes decoded
  | starved instruction decoded stuck =>
      refine ⟨.failed, rfl, ?_, _, ?_, reported, rejected_diagnostics _ _ _⟩
      · simpa [Outcome.log?] using logged
      · simp [Outcome.diagnostics]
  | executed instruction effect next decoded ran =>
      obtain ⟨operation, executable⟩ := decode_executable record instruction decoded
      have exact := executed_result _ _ record operation instruction effect executable ran
      refine ⟨.executed, ⟨_, logged, rfl, rfl⟩, ?_, ?_⟩
      · rintro ⟨result, found, outside⟩
        rw [executed_overflow _ file result (exact ▸ found) outside] at reported
        exact ⟨_, reported, rfl, rfl, rfl⟩
      · intro inside
        rw [executed_silent _ file fun result found => inside result (exact.trans found),
          List.append_nil] at reported
        exact reported

theorem fate_unique (file : Option Text) (record : Record) (before after : Run)
    (first second : Fate) (one : first.Relates file record before after)
    (other : second.Relates file record before after) : first = second := by
  -- Only an execution makes the log longer, and of the others only a failure reports anything.
  have grows {Item : Type} {earlier : List Item} {item : Item} : earlier ++ [item] ≠ earlier := by
    simp
  cases first with
  | skipped =>
      obtain ⟨_, _, logged, reported⟩ := one
      cases second with
      | skipped => rfl
      | failed =>
          obtain ⟨_, _, errors, some_, grown, _⟩ := other
          rw [reported] at grown
          simp [some_] at grown
      | executed =>
          obtain ⟨⟨entry, grown, _⟩, _⟩ := other
          exact absurd (grown.symm.trans logged) grows
  | failed =>
      obtain ⟨_, logged, errors, some_, reported, _⟩ := one
      cases second with
      | skipped =>
          obtain ⟨_, _, _, kept⟩ := other
          rw [kept] at reported
          simp [some_] at reported
      | failed => rfl
      | executed =>
          obtain ⟨⟨entry, grown, _⟩, _⟩ := other
          exact absurd (grown.symm.trans logged) grows
  | executed =>
      obtain ⟨⟨entry, grown, _⟩, _⟩ := one
      cases second with
      | skipped =>
          obtain ⟨_, _, logged, _⟩ := other
          exact absurd (grown.symm.trans logged) grows
      | failed =>
          obtain ⟨_, logged, _⟩ := other
          exact absurd (grown.symm.trans logged) grows
      | executed => rfl

section Prefixes

variable {machine : Machine} {records : List Record}

/-- A run up to a record comes apart into the run before it and its step. -/
theorem execute_split {count : Nat} {record : Record} {after : Run}
    (found : records[count]? = some record)
    (upTo : execute machine (records.take (count + 1)) = .ok after) :
    ∃ before outcome, execute machine (records.take count) = .ok before ∧
      Stepped before.machine record after.machine outcome ∧
        after.outcomes = before.outcomes ++ [outcome] := by
  rw [List.take_add_one, found, Option.toList_some] at upTo
  exact (execute_concat _ _ _).mp upTo

/-- A run of the first records reports and logs what the whole run does until then. -/
theorem execute_take {run : Run} (ran : execute machine records = .ok run) (count : Nat) :
    ∃ part, execute machine (records.take count) = .ok part ∧ part.outcomes <+: run.outcomes := by
  rw [← List.take_append_drop count records, execute_append] at ran
  obtain ⟨part, first, rest⟩ := (bind_ok_iff _ _ _).mp ran
  obtain ⟨later, _, same⟩ := (bind_ok_iff _ _ _).mp rest
  cases same
  exact ⟨part, first, List.prefix_append _ _⟩

/-- What every step keeps exactly under some condition holds after every prefix of a run exactly when
the condition is met before every record that the run gets past. -/
theorem execute_throughout_iff (kept : Run → Prop) (condition : Run → Record → Prop)
    (initial : kept ⟨machine, []⟩)
    (each : ∀ count record before next outcome, records[count]? = some record →
      execute machine (records.take (count + 1)) = .ok ⟨next, before.outcomes ++ [outcome]⟩ →
        Stepped before.machine record next outcome → kept before →
          (kept ⟨next, before.outcomes ++ [outcome]⟩ ↔ condition before record)) :
    (∀ count part, execute machine (records.take count) = .ok part → kept part) ↔
    ∀ count record before after, records[count]? = some record →
      execute machine (records.take count) = .ok before →
        execute machine (records.take (count + 1)) = .ok after → condition before record := by
  -- The step between two prefixes is one of those that `each` is about.
  have step count record before after (found : records[count]? = some record)
      (earlier : execute machine (records.take count) = .ok before)
      (upTo : execute machine (records.take (count + 1)) = .ok after) (holds : kept before) :
      kept after ↔ condition before record := by
    obtain ⟨same, outcome, again, stepped, grown⟩ := execute_split found upTo
    cases Except.ok.inj (again.symm.trans earlier)
    obtain ⟨next, outcomes⟩ := after
    dsimp only at stepped grown
    subst grown
    exact each count record before next outcome found upTo stepped holds
  constructor
  · intro throughout count record before after found earlier upTo
    exact (step count record before after found earlier upTo (throughout count before earlier)).mp
      (throughout (count + 1) after upTo)
  · intro met count
    induction count with
    | zero =>
        intro part ran
        cases ran
        exact initial
    | succ count ih =>
        intro part ran
        cases found : records[count]? with
        | none =>
            -- Beyond the last record the prefix grows no more.
            have beyond : records.length ≤ count := List.getElem?_eq_none_iff.mp found
            rw [List.take_of_length_le (by omega), ← List.take_of_length_le beyond] at ran
            exact ih part ran
        | some record =>
            obtain ⟨before, _, earlier, _⟩ := execute_split found ran
            exact (step count record before part found earlier ran (ih before earlier)).mpr
              (met count record before part found earlier ran)

/-- A run that comes to its end gets past every record. -/
theorem execute_throughout_run_iff {run : Run} (kept : Run → Prop) (condition : Run → Record → Prop)
    (ran : execute machine records = .ok run) (initial : kept ⟨machine, []⟩)
    (each : ∀ before record next outcome, record ∈ records → outcome ∈ run.outcomes →
      Stepped before.machine record next outcome → kept before →
        (kept ⟨next, before.outcomes ++ [outcome]⟩ ↔ condition before record)) :
    (∀ count ≤ records.length, ∃ part,
      execute machine (records.take count) = .ok part ∧ kept part) ↔
    ∀ count record before, records[count]? = some record →
      execute machine (records.take count) = .ok before → condition before record := by
  have general := @execute_throughout_iff machine records kept condition initial
    fun count record before next outcome found upTo stepped holds => by
      obtain ⟨part, also, inside⟩ := execute_take ran (count + 1)
      cases Except.ok.inj (also.symm.trans upTo)
      exact each before record next outcome (List.mem_of_getElem? found) (inside.subset (by simp))
        stepped holds
  constructor
  · intro throughout count record before found earlier
    obtain ⟨after, upTo, _⟩ := execute_take ran (count + 1)
    refine general.mp (fun count part ranPart => ?_) count record before after found earlier upTo
    obtain ⟨same, again, holds⟩ := throughout (min count records.length) (Nat.min_le_right _ _)
    rw [← List.take_eq_take_min, ranPart] at again
    cases again
    exact holds
  · intro met count _
    obtain ⟨part, ranPart, _⟩ := execute_take ran count
    exact ⟨part, ranPart, general.mpr (fun count record before _ found earlier _ =>
      met count record before found earlier) count part ranPart⟩

end Prefixes

section Lines

variable {machine next : Machine} {record : Record} {outcome : Outcome}

theorem stepped_log_line (stepped : Stepped machine record next outcome) :
    ∀ entry ∈ outcome.log?, entry.line = record.line := by
  cases stepped <;> simp [Outcome.log?]

theorem stepped_diagnostic_line (file : Option Text)
    (stepped : Stepped machine record next outcome) :
    ∀ diagnostic ∈ outcome.diagnostics file, diagnostic.line = some record.line := by
  cases stepped with
  | skipped decoded => simp [Outcome.diagnostics]
  | rejected causes decoded => exact fun _ member => (rejected_diagnostics _ _ _ _ member).2.1
  | starved instruction decoded stuck =>
      exact fun _ member => (rejected_diagnostics _ _ _ _ member).2.1
  | executed instruction effect next decoded ran =>
      intro diagnostic member
      rw [Outcome.diagnostics] at member
      split at member
      · cases member
      · rw [List.mem_singleton.mp member]

theorem error_unlogged (file : Option Text) (diagnostic : Diagnostic)
    (member : diagnostic ∈ outcome.diagnostics file) (error : diagnostic.severity = .error) :
    outcome.log? = none := by
  cases outcome with
  | executed entry =>
      have warning := executed_diagnostics entry file diagnostic member
      rw [error] at warning
      cases warning
  | _ => rfl

theorem log_lines (records : List Record) (run : Run) (ran : execute machine records = .ok run) :
    ∀ entry ∈ run.log, ∃ record ∈ records, record.line = entry.line := by
  refine execute_induction
    (fun records run => ∀ entry ∈ run.log, ∃ record ∈ records, record.line = entry.line)
    (by simp [Run.log]) ?_ records run ran
  intro records record before next outcome _ ih stepped entry member
  rw [Run.log_concat] at member
  rcases List.mem_append.mp member with earlier | here
  · obtain ⟨other, among, same⟩ := ih entry earlier
    exact ⟨other, List.mem_append_left _ among, same⟩
  · exact ⟨record, by simp, (stepped_log_line stepped entry (Option.mem_toList.mp here)).symm⟩

theorem diagnostic_lines (file : Option Text) (records : List Record) (run : Run)
    (ran : execute machine records = .ok run) :
    ∀ diagnostic ∈ run.diagnostics file,
      ∃ record ∈ records, diagnostic.line = some record.line := by
  refine execute_induction
    (fun records run => ∀ diagnostic ∈ run.diagnostics file,
      ∃ record ∈ records, diagnostic.line = some record.line)
    (by simp [Run.diagnostics]) ?_ records run ran
  intro records record before next outcome _ ih stepped diagnostic member
  rw [Run.diagnostics_concat] at member
  rcases List.mem_append.mp member with earlier | here
  · obtain ⟨other, among, same⟩ := ih diagnostic earlier
    exact ⟨other, List.mem_append_left _ among, same⟩
  · exact ⟨record, by simp, stepped_diagnostic_line file stepped diagnostic here⟩

/-- Where every record has a line of its own, no line is logged and also reported in error. -/
theorem logged_lines_clean (file : Option Text) (records : List Record) (run : Run)
    (ran : execute machine records = .ok run)
    (apart : records.Pairwise fun first second => first.line < second.line) :
    ∀ entry ∈ run.log, ∀ diagnostic ∈ run.diagnostics file,
      diagnostic.severity = .error → diagnostic.line ≠ some entry.line := by
  revert apart
  refine execute_induction
    (fun records run => records.Pairwise (fun first second => first.line < second.line) →
      ∀ entry ∈ run.log, ∀ diagnostic ∈ run.diagnostics file,
        diagnostic.severity = .error → diagnostic.line ≠ some entry.line)
    (by simp [Run.log]) ?_ records run ran
  intro records record before next outcome ran ih stepped apart entry logged diagnostic reported
    error
  obtain ⟨earlierApart, _, beyond⟩ := List.pairwise_append.mp apart
  rw [Run.log_concat] at logged
  rw [Run.diagnostics_concat] at reported
  rcases List.mem_append.mp logged with loggedBefore | loggedHere
  -- When one of the two is new, the other belongs to an earlier record on a smaller line.
  · rcases List.mem_append.mp reported with reportedBefore | reportedHere
    · exact ih earlierApart entry loggedBefore diagnostic reportedBefore error
    · obtain ⟨other, among, same⟩ := log_lines records before ran entry loggedBefore
      have smaller := beyond other among record List.mem_cons_self
      rw [stepped_diagnostic_line file stepped diagnostic reportedHere, ← same]
      intro equal
      have := Option.some.inj equal
      omega
  · have line := stepped_log_line stepped entry (Option.mem_toList.mp loggedHere)
    rcases List.mem_append.mp reported with reportedBefore | reportedHere
    · obtain ⟨other, among, same⟩ := diagnostic_lines file records before ran diagnostic reportedBefore
      have smaller := beyond other among record List.mem_cons_self
      rw [same, line]
      intro equal
      have := Option.some.inj equal
      omega
    · rw [error_unlogged file diagnostic reportedHere error] at loggedHere
      cases loggedHere

end Lines

/-- Of records drawn from a text, each that a run comes to is skipped, fails or is executed, and only
one of these, or else the run ends there because what the record did cannot be written down. No line of
a text that is executed as a whole is logged and also reported in error. -/
theorem every_record_accounted (text : Text) (records : List Record)
    (drawn : DrawnFrom text records) (stackBase : Int) (file : Option Text) :
    (∀ count record before, records[count]? = some record →
      execute (.initial stackBase) (records.take count) = .ok before →
        (¬ Unwritten before.machine record ∧ ∃ after,
          execute (.initial stackBase) (records.take (count + 1)) = .ok after ∧
            ∃! fate : Fate, fate.Relates file record before after) ∨
        Unwritten before.machine record ∧
          execute (.initial stackBase) records = .error .tooManyDigits) ∧
    ∀ run, simulate text stackBase = .ok run →
      ∀ entry ∈ run.log, ∀ diagnostic ∈ run.diagnostics file,
        diagnostic.severity = .error → diagnostic.line ≠ some entry.line := by
  constructor
  · intro count record before found earlier
    rcases execute_next found earlier with ⟨next, outcome, stepped, upTo⟩ | ⟨fault, faults, _, ended⟩
    · obtain ⟨fate, related⟩ := stepped_fate file record before next outcome stepped
      exact .inl ⟨stepped.written, _, upTo, fate, related, fun other also =>
        fate_unique file record _ _ other fate also related⟩
    · cases faults with
      | faulty fault decoded =>
          exact absurd decoded (drawn.decodable record (List.mem_of_getElem? found) fault)
      | unwritten overlong => exact .inr ⟨overlong, ended⟩
  · intro run ran
    rw [simulate_eq_execute] at ran
    exact logged_lines_clean file _ run ran (recordsFrom_increasing _ _)

/-- A text executed forwards and then backwards: the fifth record subtracts below the range. -/
theorem every_record_accounted_underflow :
    let text : Text := "mov $-2147483648, %eax\nsub $1, %eax\npop %al"
    let records := recordsOf text ++ (recordsOf text).reverse
    DrawnFrom text records ∧ ∃ record before after, records[4]? = some record ∧
      execute (.initial 4096) (records.take 4) = .ok before ∧
        execute (.initial 4096) (records.take 5) = .ok after ∧
          ∃! fate : Fate, fate.Relates (some "p.s") record before after := by
  intro text records
  have drawn : DrawnFrom text records := (drawnFrom_iff text records).mpr (by simp [records])
  obtain ⟨record, found⟩ : ∃ record, records[4]? = some record := ⟨_, rfl⟩
  obtain ⟨before, earlier⟩ :
      ∃ before, execute (.initial 4096) (records.take 4) = .ok before := ⟨_, rfl⟩
  obtain ⟨after, upTo⟩ : ∃ after, execute (.initial 4096) (records.take 5) = .ok after := ⟨_, rfl⟩
  rcases (every_record_accounted text records drawn 4096 (some "p.s")).1 4 record before found earlier
    with ⟨_, same, again, related⟩ | ⟨_, ended⟩
  · cases Except.ok.inj (again.symm.trans upTo)
    exact ⟨drawn, record, before, after, found, earlier, upTo, related⟩
  · obtain ⟨run, ran⟩ : ∃ run, execute (.initial 4096) records = .ok run := ⟨_, rfl⟩
    cases ended.symm.trans ran

/-- A pushed address with too many digits ends the run: the push is neither skipped nor failed nor
    executed. -/
theorem pushed_address_unaccounted :
    ¬ ∀ (text : Text) (records : List Record), DrawnFrom text records →
      ∀ (stackBase : Int) (file : Option Text) count record, records[count]? = some record →
        ∃ before after, execute (.initial stackBase) (records.take count) = .ok before ∧
          execute (.initial stackBase) (records.take (count + 1)) = .ok after ∧
            ∃! fate : Fate, fate.Relates file record before after := by
  intro claim
  obtain ⟨record, found⟩ : ∃ record, (recordsOf "push %esp")[0]? = some record := ⟨_, rfl⟩
  obtain ⟨_, after, _, upTo, _⟩ :=
    claim _ _ (drawnFrom_recordsOf "push %esp") writingBound none 0 record found
  cases upTo.symm.trans pushed_address_unwritten

end AttAssembly
