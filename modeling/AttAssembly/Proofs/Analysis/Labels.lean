import AttAssembly.Proofs.Analysis.Concatenation
import AttAssembly.Proofs.Execution.Totality
import AttAssembly.Proofs.Line.Labels

/-!
Labels put in front of lines of a text. Every line stays where it is, and the records of the labelled
lines differ in their labels only. Execution never looks at a label and passes over the records that
are nothing but one, so it comes to the same machine and reports and logs the same.
-/

namespace AttAssembly

/-- The line with its label if it is given one. -/
def labelLine : Option LineLabel → Text → Text
  | none, line => line
  | some label, line => label.before line

/-- The text with labels put in front of some of its lines, which are counted from zero. -/
def labelLines (labels : Nat → Option LineLabel) (text : Text) : Text :=
  joinWith ['\n'] ((splitParts (· = '\n') text).mapIdx fun index line =>
    labelLine (labels index) line)

section Lines

theorem labelLine_oneLine (label : Option LineLabel) (line : Text) (whole : OnOneLine line) :
    OnOneLine (labelLine label line) := by
  cases label with
  | none => exact whole
  | some label => exact label.before_oneLine line whole

theorem splitParts_joined (lines : List Text) (given : lines ≠ [])
    (whole : ∀ line ∈ lines, OnOneLine line) :
    splitParts (· = '\n') (joinWith ['\n'] lines) = lines := by
  induction lines with
  | nil => exact absurd rfl given
  | cons first others ih =>
      have alone : splitParts (· = '\n') first = [first] := by
        rw [splitParts, splitWhere_oneLine first (whole first List.mem_cons_self)]
      cases others with
      | nil => rw [joinWith, List.intercalate_singleton, alone]
      | cons second rest =>
          have later := ih (List.cons_ne_nil second rest) fun line member =>
            whole line (List.mem_cons_of_mem first member)
          rw [joinWith_cons_cons, List.append_assoc, List.singleton_append,
            splitParts_append _ first _ '\n' rfl, later, alone, List.singleton_append]

theorem splitParts_labelLines (labels : Nat → Option LineLabel) (text : Text) :
    splitParts (· = '\n') (labelLines labels text) =
      (splitParts (· = '\n') text).mapIdx fun index line => labelLine (labels index) line := by
  apply splitParts_joined
  · simp [splitParts]
  · intro line member
    obtain ⟨index, inside, same⟩ := List.mem_mapIdx.mp member
    subst line
    exact labelLine_oneLine _ _ (parts_oneLine text _ (List.getElem_mem inside))

/-- The line as it is analysed holds what the part of the text holds. -/
theorem endAtFeeds_getElem (first : Text) (others : List Text) (index : Nat) (part : Text)
    (here : (first :: others)[index]? = some part) :
    ∃ line, (endAtFeeds first others)[index]? = some line ∧
      stripComment line = stripComment part := by
  induction others generalizing first index with
  | nil => exact ⟨part, here, rfl⟩
  | cons next rest ih =>
      cases index with
      | zero =>
          cases here
          exact ⟨_, rfl, stripComment_dropReturn part⟩
      | succ index => exact ih next index here

end Lines

/-- The record that stands on a line. -/
def recordOn? (records : List Record) (line : Int) : Option Record :=
  records.find? (·.line = line)

theorem recordOn_recordsFrom (start : Int) (lines : List Text) (index : Nat) (text : Text)
    (here : lines[index]? = some text) :
    recordOn? (recordsFrom start lines) (start + index) = readLine text (start + index) := by
  induction lines generalizing start index with
  | nil => simp at here
  | cons first rest ih =>
      rw [recordsFrom, recordOn?, List.find?_append]
      cases index with
      | zero =>
          cases here
          have later : (recordsFrom (start + 1) rest).find? (·.line = start) = none := by
            rw [List.find?_eq_none]
            intro record member
            have below := (mem_recordsFrom _ _ record member).1
            simp only [decide_eq_true_eq]
            omega
          rw [Int.natCast_zero, Int.add_zero, later, Option.or_none]
          cases found : readLine text start with
          | none => rfl
          | some record =>
              simp [(readLine_readAs text start record found).line_eq]
      | succ index =>
          have place : start + (index + 1 : Nat) = start + 1 + index := by
            push_cast
            omega
          have other : (readLine first start).toList.find? (·.line = start + 1 + index) = none := by
            rw [List.find?_eq_none]
            intro record member
            have number := (readLine_readAs first start record (Option.mem_toList.mp member)).line_eq
            simp only [decide_eq_true_eq]
            omega
          rw [place, other, Option.none_or]
          exact ih (start + 1) index here

section Runs

/-- The records with other labels, and with records of labels alone among them. -/
inductive Relabelled : List Record → List Record → Prop
  | nil : Relabelled [] []
  | record (record : Record) (label : Option Text) {records others : List Record}
      (rest : Relabelled records others) :
      Relabelled (record :: records) ({ record with label := label } :: others)
  | label (line : Int) (name : Text) {records others : List Record}
      (rest : Relabelled records others) :
      Relabelled records (labelRecord line name :: others)

variable {machine next : Machine} {record : Record} {outcome : Outcome}

theorem stepped_relabelled (label : Option Text) (stepped : Stepped machine record next outcome) :
    Stepped machine { record with label := label } next outcome := by
  cases stepped with
  | skipped decoded => exact .skipped decoded
  | rejected causes decoded => exact .rejected causes decoded
  | starved instruction decoded stuck => exact .starved instruction decoded stuck
  | executed instruction effect next decoded ran written =>
      exact .executed instruction effect next decoded ran written

theorem stepped_label (machine : Machine) (line : Int) (name : Text) :
    Stepped machine (labelRecord line name) machine .skipped := .skipped rfl

/-- The runs come to the same machine, and log and report the same. -/
structure Run.TellsAs (run again : Run) : Prop where
  machine : again.machine = run.machine
  log : again.log = run.log
  diagnostics (file : Option Text) : again.diagnostics file = run.diagnostics file

theorem Run.TellsAs.cons {run again : Run} (same : run.TellsAs again) (outcome : Outcome) :
    Run.TellsAs ⟨run.machine, outcome :: run.outcomes⟩ ⟨again.machine, outcome :: again.outcomes⟩ where
  machine := same.machine
  log := by
    have log := same.log
    simp only [Run.log, List.filterMap_cons] at log ⊢
    rw [log]
  diagnostics file := by
    have reported := same.diagnostics file
    simp only [Run.diagnostics, List.flatMap_cons] at reported ⊢
    rw [reported]

theorem execute_relabelled {records others : List Record} (relabelled : Relabelled records others)
    (machine : Machine) :
    EndAlike Run.TellsAs (execute machine records) (execute machine others) := by
  induction relabelled generalizing machine with
  | nil => exact .finished ⟨rfl, rfl, fun _ => rfl⟩
  | record record label rest ih =>
      exact .cons (fun fault faults => faults.of_decode rfl)
        (fun next outcome stepped =>
          ⟨outcome, stepped_relabelled label stepped, fun run again same => same.cons outcome⟩) ih
  | label line name rest ih =>
      -- The record of a label alone is skipped and leaves nothing behind.
      rw [execute_of_step _ (stepped_label machine line name)]
      exact (ih machine).map_right fun run again same => ⟨same.machine, same.log, same.diagnostics⟩

end Runs

/-- None of the lines that are given a label has one. -/
def PlainWhere (labels : Nat → Option LineLabel) (lines : List Text) : Prop :=
  ∀ index line, lines[index]? = some line → (labels index).isSome = true →
    ¬ BeginsWithLabel (stripComment line)

theorem plainWhere_parts (labels : Nat → Option LineLabel) (text : Text)
    (plain : PlainWhere labels (physicalLines text)) :
    PlainWhere labels (splitParts (· = '\n') text) := by
  intro index part here labelled
  obtain ⟨line, physical, same⟩ := endAtFeeds_getElem _ _ index part here
  rw [← same]
  exact plain index line physical labelled

theorem relabelled_recordsFrom (labels : Nat → Option LineLabel) (lines : List Text) (start : Int)
    (whole : ∀ line ∈ lines, OnOneLine line) (plain : PlainWhere labels lines) :
    Relabelled (recordsFrom start lines)
      (recordsFrom start (lines.mapIdx fun index line => labelLine (labels index) line)) := by
  induction lines generalizing labels start with
  | nil => exact .nil
  | cons first rest ih =>
      have later := ih (fun index => labels (index + 1)) (start + 1)
        (fun line member => whole line (List.mem_cons_of_mem first member))
        (fun index line here labelled => plain (index + 1) line here labelled)
      rw [List.mapIdx_cons, recordsFrom, recordsFrom]
      cases given : labels 0 with
      | none =>
          rw [labelLine]
          cases readLine first start with
          | none => exact later
          | some record => exact .record record record.label later
      | some label =>
          have unlabelled := plain 0 first rfl (by rw [given]; rfl)
          rw [labelLine, label.readLine_labelled_line first start (whole first List.mem_cons_self)
            unlabelled]
          cases readLine first start with
          | none => exact .label start label.name later
          | some record => exact .record record (some label.name) later

theorem recordOn_labelLines (labels : Nat → Option LineLabel) (text : Text) (index : Nat)
    (inside : index < (physicalLines text).length) (plain : PlainWhere labels (physicalLines text)) :
    recordOn? (recordsOf (labelLines labels text)) (1 + index) =
      match labels index with
      | none => recordOn? (recordsOf text) (1 + index)
      | some label => some (label.on (1 + index) (recordOn? (recordsOf text) (1 + index))) := by
  have unlabelled := plainWhere_parts labels text plain
  rw [physicalLines, endAtFeeds_length] at inside
  have here : (splitParts (· = '\n') text)[index]? = some (splitParts (· = '\n') text)[index] :=
    List.getElem?_eq_getElem inside
  have whole := parts_oneLine text _ (List.getElem_mem inside)
  rw [recordsOf_eq_parts, recordsOf_eq_parts, splitParts_labelLines,
    recordOn_recordsFrom 1 _ index _ here,
    recordOn_recordsFrom 1 _ index (labelLine (labels index) (splitParts (· = '\n') text)[index])
      (by rw [List.getElem?_mapIdx, here, Option.map_some])]
  cases given : labels index with
  | none => rfl
  | some label =>
      exact label.readLine_labelled_line _ _ whole (unlabelled index _ here (by rw [given]; rfl))

/-- Labels can be put in front of any lines that have none. The labelled lines keep their records but
for the label, lines without a record get one of the label alone, all other lines keep theirs as they
are, and the run comes to the same machine, log and diagnostics. -/
theorem labels_immaterial (labels : Nat → Option LineLabel) (text : Text)
    (plain : PlainWhere labels (physicalLines text)) (stackBase : Int) (file : Option Text) :
    ∃ records labelled, analyze text = .ok records ∧
      analyze (labelLines labels text) = .ok labelled ∧
      (labelled.Pairwise fun one other => one.line < other.line) ∧
      (physicalLines (labelLines labels text)).length = (physicalLines text).length ∧
      (∀ index < (physicalLines text).length,
        recordOn? labelled (1 + (index : Int)) = match labels index with
          | none => recordOn? records (1 + (index : Int))
          | some label =>
              some (label.on (1 + (index : Int)) (recordOn? records (1 + (index : Int))))) ∧
      EndAlike (fun run again => again.machine = run.machine ∧ again.log = run.log ∧
          again.diagnostics file = run.diagnostics file)
        (simulate text stackBase) (simulate (labelLines labels text) stackBase) := by
  have counted : (physicalLines (labelLines labels text)).length = (physicalLines text).length := by
    rw [physicalLines, physicalLines, endAtFeeds_length, endAtFeeds_length]
    exact (congrArg List.length (splitParts_labelLines labels text)).trans List.length_mapIdx
  have relabelled : Relabelled (recordsOf text) (recordsOf (labelLines labels text)) := by
    rw [recordsOf_eq_parts, recordsOf_eq_parts, splitParts_labelLines]
    exact relabelled_recordsFrom labels _ 1 (parts_oneLine text)
      (plainWhere_parts labels text plain)
  refine ⟨_, _, analyze_eq_records text, analyze_eq_records _, recordsFrom_increasing 1 _, counted,
    fun index inside => recordOn_labelLines labels text index inside plain, ?_⟩
  rw [simulate_eq_execute, simulate_eq_execute]
  exact (execute_relabelled relabelled _).imp fun run again same =>
    ⟨same.machine, same.log, same.diagnostics file⟩

/-- A repeated instruction, a comment that ends in both code points and two instructions are given
labels; the line that has one is not. -/
theorem labels_immaterial_all_but_data :
    let label : LineLabel := ⟨"L_1", " \t", rfl, List.all_eq_true.mp rfl, by decide⟩
    let labels (index : Nat) : Option LineLabel := if index = 1 then none else some label
    let text : Text := "rep movsb\nx: .int 1\n; none\r\npush $1\npop %eax"
    PlainWhere labels (physicalLines text) ∧
      labelLines labels text =
        "L_1: \trep movsb\nx: .int 1\nL_1: \t; none\r\nL_1: \tpush $1\nL_1: \tpop %eax".toList ∧
      ∃ records labelled, analyze text = .ok records ∧
        analyze (labelLines labels text) = .ok labelled ∧
        recordOn? labelled 3 = some (label.on 3 (recordOn? records 3)) ∧
        ∃ run again, simulate text 4096 = .ok run ∧
          simulate (labelLines labels text) 4096 = .ok again ∧
          again.machine = run.machine ∧ again.log = run.log ∧
          again.diagnostics (some "p.s") = run.diagnostics (some "p.s") := by
  intro label labels text
  have lines : physicalLines text = ["rep movsb".toList, "x: .int 1".toList, "; none".toList,
      "push $1".toList, "pop %eax".toList] := by decide
  have plain : PlainWhere labels (physicalLines text) := by
    intro index line here labelled
    have unlabelled : index ≠ 1 := by
      rintro rfl
      cases labelled
    have colonless : ∀ index < 5, index ≠ 1 → ∀ line ∈ (physicalLines text)[index]?,
        ':' ∉ stripComment line := by
      rw [lines]
      decide
    have inside : index < 5 := by
      have below := (List.getElem?_eq_some_iff.mp here).1
      rwa [lines] at below
    exact colonless_plain _ (colonless index inside unlabelled line here)
  obtain ⟨records, labelled, analyzed, also, _, _, each, alike⟩ :=
    labels_immaterial labels text plain 4096 (some "p.s")
  have third := each 2 (by rw [lines]; decide)
  obtain ⟨run, ran⟩ : ∃ run, simulate text 4096 = .ok run := ⟨_, rfl⟩
  rw [ran] at alike
  obtain ⟨again, ranAgain, same⟩ := alike.finished_left
  exact ⟨plain, by decide, records, labelled, analyzed, also, third, run, again, ran, ranAgain, same⟩

end AttAssembly
