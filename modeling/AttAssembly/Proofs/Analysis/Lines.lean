import AttAssembly.Proofs.Analysis.Concatenation
import AttAssembly.Proofs.Execution.Totality
import AttAssembly.Report.Analysis
import AttAssembly.Report.Simulation

/-!
A line in its place in a text. Lines are read one by one, so a line can be replaced by any other that
is read in the same way, wherever it stands and however its end is written, and nothing that is said
about the text changes. Blanks at the end of a text, line ends among them, make no record.
-/

namespace AttAssembly

section Trailing

theorem recordsOf_append_blank (text : Text) (c : Char) (blank : isBlank c = true)
    (feedless : c ≠ '\n') : recordsOf (text ++ [c]) = recordsOf text := by
  obtain ⟨front, last, alone, longer⟩ := splitParts_append_joined (· = '\n') text [c]
    (List.forall_mem_singleton.mpr (decide_eq_false feedless))
  have margin (line : Int) : readLine (last ++ [c]) line = readLine last line :=
    readLine_append_blanks last [c] line (List.forall_mem_singleton.mpr blank)
  rw [recordsOf_eq_parts, recordsOf_eq_parts, alone, longer, recordsFrom_append, recordsFrom_append]
  simp only [recordsFrom, margin]

theorem recordsOf_append_blanks (text blanks : Text) (blank : ∀ c ∈ blanks, isBlank c = true) :
    recordsOf (text ++ blanks) = recordsOf text := by
  induction blanks generalizing text with
  | nil => rw [List.append_nil]
  | cons c rest ih =>
      have later (front : Text) := ih front fun d member => blank d (List.mem_cons_of_mem c member)
      by_cases feed : c = '\n'
      · have nothing : recordsOf rest = [] := later []
        rw [feed, recordsOf_append, nothing, List.map_nil, List.append_nil]
      · rw [List.append_cons, later,
          recordsOf_append_blank text c (blank c List.mem_cons_self) feed]

end Trailing

/-- A line may begin after the text: it is empty or ends in a line feed. -/
def BeforeLine (front : Text) : Prop := front = [] ∨ ∃ before, front = before ++ ['\n']

/-- A line may end before the text: it is empty or begins with a line end. -/
def AfterLine (back : Text) : Prop :=
  back = [] ∨ ∃ rest, back = '\n' :: rest ∨ back = '\r' :: '\n' :: rest

section Editing

variable {edit : Text → Text → Prop}

/-- One line of the text is replaced by another. -/
inductive LineEdited (edit : Text → Text → Prop) : Text → Text → Prop
  | line (front one other back : Text) (begins : BeforeLine front) (ends : AfterLine back)
      (whole : OnOneLine one) (still : OnOneLine other) (edited : edit one other) :
      LineEdited edit (front ++ one ++ back) (front ++ other ++ back)

/-- Any number of lines are replaced, one after another. -/
def LinesEdited (edit : Text → Text → Prop) : Text → Text → Prop :=
  Relation.ReflTransGen (LineEdited edit)

theorem recordsOf_oneLine (line : Text) (whole : OnOneLine line) :
    recordsOf line = (readLine line 1).toList := by
  rw [recordsOf_eq_parts, splitParts, splitWhere_oneLine line whole, recordsFrom, recordsFrom,
    List.append_nil]

/-- What stands around a line in a text is read without it. -/
theorem recordsOf_around {front back : Text} (begins : BeforeLine front) (ends : AfterLine back) :
    ∃ before number after, ∀ line, OnOneLine line →
      recordsOf (front ++ line ++ back) = before ++ (readLine line number).toList ++ after := by
  have last : ∃ before number, ∀ line, OnOneLine line →
      recordsOf (front ++ line) = before ++ (readLine line number).toList := by
    rcases begins with rfl | ⟨before, rfl⟩
    · exact ⟨[], 1, recordsOf_oneLine⟩
    · refine ⟨recordsOf before, 1 + (1 + before.count '\n'), fun line whole => ?_⟩
      rw [List.append_assoc, List.singleton_append, recordsOf_append, recordsOf_oneLine line whole,
        readLine_moved, Option.toList_map]
  obtain ⟨before, number, here⟩ := last
  have feeds {line : Text} (whole : OnOneLine line) : (front ++ line).count '\n' = front.count '\n' := by
    rw [List.count_append, List.count_eq_zero.mpr whole, Nat.add_zero]
  rcases ends with rfl | ⟨rest, rfl | rfl⟩
  · refine ⟨before, number, [], fun line whole => ?_⟩
    rw [List.append_nil, List.append_nil, here line whole]
  · refine ⟨before, number, (recordsOf rest).map (·.moved (1 + front.count '\n')),
      fun line whole => ?_⟩
    rw [recordsOf_append, here line whole, feeds whole]
  · -- The carriage return of the line end is trimmed away with the blanks of the line.
    refine ⟨before, number, (recordsOf rest).map (·.moved (1 + front.count '\n')),
      fun line whole => ?_⟩
    have counted : (front ++ line ++ ['\r']).count '\n' = front.count '\n' := by
      rw [List.count_append, feeds whole]
      rfl
    rw [List.append_cons, recordsOf_append, recordsOf_append_blank _ '\r' rfl (by decide),
      here line whole, counted]

/-- Lines that are read in the same way can take each other's place. -/
theorem recordsOf_linesEdited {text other : Text} (edited : LinesEdited edit text other)
    (keeps : ∀ one other, edit one other → ∀ line, readLine other line = readLine one line) :
    recordsOf other = recordsOf text := by
  induction edited with
  | refl => rfl
  | tail _ step ih =>
      cases step with
      | line front one other back begins ends whole still edited =>
          obtain ⟨before, number, after, around⟩ := recordsOf_around begins ends
          rw [← ih, around one whole, around other still, keeps one other edited]

end Editing

/-- Neither the analysis nor a run, nor the report of either, tells the two texts apart. -/
structure Interchangeable (text other : Text) : Prop where
  analyzed : ∃ records, analyze text = .ok records ∧ analyze other = .ok records
  analysisReport : (analyze other >>= analysisLines) = (analyze text >>= analysisLines)
  simulated : ∀ stackBase, EndAlike (· = ·) (simulate text stackBase) (simulate other stackBase)
  simulationReport : ∀ stackBase file,
    (simulate other stackBase).map (simulationLines · file) =
      (simulate text stackBase).map (simulationLines · file)

theorem interchangeable_of_records {text other : Text} (same : recordsOf other = recordsOf text) :
    Interchangeable text other := by
  have analyzed : analyze other = analyze text := by
    rw [analyze_eq_records, analyze_eq_records, same]
  have simulated (base : Int) : simulate other base = simulate text base := by
    rw [simulate, simulate, analyzed]
  constructor
  · exact ⟨_, analyze_eq_records text, analyzed.trans (analyze_eq_records text)⟩
  · rw [analyzed]
  · intro stackBase
    rw [simulated stackBase]
    exact .refl (fun _ => rfl) _
  · intro stackBase file
    rw [simulated]

end AttAssembly
