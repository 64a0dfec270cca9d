import AttAssembly.Analysis
import AttAssembly.Proofs.Line.Totality

/-!
The records of a text. A physical line holds no line feed, so no line ends the analysis and the
records of a text are those of its lines. Their line numbers grow strictly: a line number belongs
to at most one record.
-/

namespace AttAssembly

theorem dropReturn_subset (line : Text) : dropReturn line ⊆ line := by
  rw [dropReturn]
  split
  · exact (List.dropLast_sublist _).subset
  · exact List.Subset.refl _

theorem endAtFeeds_subset (first : Text) (others : List Text) :
    ∀ line ∈ endAtFeeds first others, ∃ part ∈ first :: others, line ⊆ part := by
  induction others generalizing first with
  | nil =>
      intro line member
      exact ⟨first, List.mem_cons_self, by simp_all [endAtFeeds]⟩
  | cons next others ih =>
      intro line member
      rcases List.mem_cons.mp member with ended | later
      · exact ⟨first, List.mem_cons_self, ended ▸ dropReturn_subset first⟩
      · obtain ⟨part, among, inside⟩ := ih next line later
        exact ⟨part, List.mem_cons_of_mem _ among, inside⟩

theorem parts_oneLine (text : Text) : ∀ part ∈ splitParts (· = '\n') text, OnOneLine part := by
  intro part among feed
  have ordinary := part_avoids (· = '\n') text part among '\n' feed
  simp at ordinary

theorem splitWhere_oneLine (line : Text) (whole : OnOneLine line) :
    splitWhere (· = '\n') line = (line, []) := by
  apply splitWhere_joined
  intro c member
  apply decide_eq_false
  rintro rfl
  exact whole member

theorem physicalLine_onOneLine (text : Text) : ∀ line ∈ physicalLines text, OnOneLine line := by
  intro line member
  obtain ⟨part, among, inside⟩ := endAtFeeds_subset _ _ line member
  exact (parts_oneLine text part among).of_subset inside

def recordsFrom (line : Int) : List Text → List Record
  | [] => []
  | text :: rest => (readLine text line).toList ++ recordsFrom (line + 1) rest

def recordsOf (text : Text) : List Record := recordsFrom 1 (physicalLines text)

theorem analyzeFrom_total (line : Int) (lines : List Text)
    (separate : ∀ text ∈ lines, OnOneLine text) :
    analyzeFrom line lines = .ok (recordsFrom line lines) := by
  induction lines generalizing line with
  | nil => rfl
  | cons text rest ih =>
      have later := ih (line + 1) fun other member => separate other (List.mem_cons_of_mem _ member)
      rw [analyzeFrom, analyzeLine_total text line (separate text List.mem_cons_self), later]
      rfl

theorem analyze_eq_records (text : Text) : analyze text = .ok (recordsOf text) :=
  analyzeFrom_total 1 _ (physicalLine_onOneLine text)

theorem mem_recordsFrom (line : Int) (lines : List Text) (record : Record)
    (member : record ∈ recordsFrom line lines) :
    line ≤ record.line ∧ ∃ text ∈ lines, readLine text record.line = some record := by
  induction lines generalizing line with
  | nil => simp [recordsFrom] at member
  | cons text rest ih =>
      rcases List.mem_append.mp member with here | later
      · have found : readLine text line = some record := Option.mem_toList.mp here
        have number := (readLine_readAs text line record found).line_eq
        exact ⟨by omega, text, List.mem_cons_self, number ▸ found⟩
      · obtain ⟨after, other, among, found⟩ := ih (line + 1) later
        exact ⟨by omega, other, List.mem_cons_of_mem _ among, found⟩

theorem recordsFrom_increasing (line : Int) (lines : List Text) :
    (recordsFrom line lines).Pairwise fun first second => first.line < second.line := by
  induction lines generalizing line with
  | nil => exact List.Pairwise.nil
  | cons text rest ih =>
      refine List.pairwise_append.mpr ⟨?_, ih (line + 1), ?_⟩
      · cases readLine text line <;> simp
      · intro first here second later
        have number := (readLine_readAs text line first (Option.mem_toList.mp here)).line_eq
        have after := (mem_recordsFrom (line + 1) rest second later).1
        omega

/-- Records taken out of the analysis of a text, in any order and any number of times. -/
def DrawnFrom (text : Text) (records : List Record) : Prop :=
  ∃ analyzed, analyze text = .ok analyzed ∧ records ⊆ analyzed

theorem drawnFrom_iff (text : Text) (records : List Record) :
    DrawnFrom text records ↔ records ⊆ recordsOf text := by
  simp [DrawnFrom, analyze_eq_records]

theorem DrawnFrom.take {text : Text} {records : List Record} (drawn : DrawnFrom text records)
    (count : Nat) : DrawnFrom text (records.take count) :=
  (drawnFrom_iff _ _).mpr fun _ member =>
    (drawnFrom_iff _ _).mp drawn (List.mem_of_mem_take member)

theorem DrawnFrom.readAs {text : Text} {records : List Record} (drawn : DrawnFrom text records) :
    ∀ record ∈ records, ∃ line ∈ physicalLines text, ReadAs line record.line record := by
  intro record member
  obtain ⟨_, line, physical, found⟩ :=
    mem_recordsFrom 1 _ record ((drawnFrom_iff text records).mp drawn member)
  exact ⟨line, physical, readLine_readAs line record.line record found⟩

end AttAssembly
