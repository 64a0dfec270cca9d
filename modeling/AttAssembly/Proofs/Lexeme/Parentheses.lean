import AttAssembly.Operand.Reader
import AttAssembly.Proofs.Lexeme.Pieces

/-!
The parentheses of a text. They are balanced when each one that closes has one before it that it closes,
and none is left open, whether or not they stand inside a string literal. Texts that are balanced one by
one are balanced together. It follows that an operand text is balanced when all its pieces are, although
the scan for commas counts parentheses by rules of its own: cutting takes away only commas and blanks.
-/

namespace AttAssembly

structure Balanced (text : Text) : Prop where
  settled : text.count '(' = text.count ')'
  opened : ∀ front, front <+: text → front.count ')' ≤ front.count '('

/-- Without a single parenthesis. -/
def Unbracketed (text : Text) : Prop := ∀ c ∈ text, c ≠ '(' ∧ c ≠ ')'

section Counting

theorem forall_prefix_cons {holds : Text → Prop} (c : Char) (rest : Text) :
    (∀ front, front <+: c :: rest → holds front) ↔
      holds [] ∧ ∀ front, front <+: rest → holds (c :: front) := by
  constructor
  · intro each
    exact ⟨each [] List.nil_prefix, fun front inside => each _ ((List.prefix_cons_inj c).mpr inside)⟩
  · rintro ⟨empty, later⟩ front inside
    rcases List.prefix_cons_iff.mp inside with rfl | ⟨tail, rfl, within⟩
    · exact empty
    · exact later tail within

-- `depth` parentheses are open already, so the text may close that many more than it opens.
theorem balancedFrom_iff (depth : Nat) (text : Text) :
    Operand.balancedFrom depth text = true ↔
      depth + text.count '(' = text.count ')' ∧
        ∀ front, front <+: text → front.count ')' ≤ depth + front.count '(' := by
  fun_induction Operand.balancedFrom depth text with
  | case1 depth => simp
  | case2 depth rest ih =>
      rw [ih, forall_prefix_cons]
      simp [Nat.add_right_comm, ← Nat.add_assoc]
  | case3 rest =>
      -- Nothing is open that the parenthesis in front could close.
      refine iff_of_false Bool.false_ne_true ?_
      rintro ⟨_, opened⟩
      simpa using opened [')'] (List.prefix_append [')'] rest)
  | case4 rest outer ih =>
      have opening (front : Text) : (')' :: front).count '(' = front.count '(' :=
        List.count_cons_of_ne (by decide)
      have closing (front : Text) : (')' :: front).count ')' = front.count ')' + 1 :=
        List.count_cons_self
      rw [ih, forall_prefix_cons, opening, closing]
      simp only [opening, closing, Nat.add_right_comm outer 1, Nat.add_right_cancel_iff,
        Nat.add_le_add_iff_right, List.count_nil, Nat.zero_le, true_and]
  | case5 depth c rest noOpen noClose ih =>
      rw [ih, forall_prefix_cons]
      simp [List.count_cons_of_ne noOpen, List.count_cons_of_ne noClose]

theorem balanced_iff (text : Text) : Operand.balanced text = true ↔ Balanced text := by
  rw [Operand.balanced, balancedFrom_iff]
  simp only [Nat.zero_add]
  exact ⟨fun ⟨settled, opened⟩ => ⟨settled, opened⟩, fun balanced => ⟨balanced.1, balanced.2⟩⟩

instance (text : Text) : Decidable (Balanced text) := decidable_of_iff _ (balanced_iff text)

end Counting

section Joining

theorem Balanced.append {first second : Text} (one : Balanced first) (other : Balanced second) :
    Balanced (first ++ second) where
  settled := by rw [List.count_append, List.count_append, one.settled, other.settled]
  opened := by
    intro front inside
    rcases List.prefix_or_prefix_of_prefix inside (List.prefix_append first second) with within | past
    · exact one.opened front within
    · obtain ⟨tail, rfl⟩ := past
      have later := other.opened tail ((List.prefix_append_right_inj first).mp inside)
      rw [List.count_append, List.count_append, one.settled]
      omega

theorem balanced_unbracketed {text : Text} (bare : Unbracketed text) : Balanced text where
  settled := by
    rw [List.count_eq_zero_of_not_mem fun opens => (bare '(' opens).1 rfl,
      List.count_eq_zero_of_not_mem fun closes => (bare ')' closes).2 rfl]
  opened := by
    intro front inside
    have noClose : front.count ')' = 0 :=
      List.count_eq_zero_of_not_mem fun closes => (bare ')' (inside.subset closes)).2 rfl
    omega

theorem blanks_unbracketed {blanks : Text} (blank : ∀ c ∈ blanks, isBlank c = true) :
    Unbracketed blanks :=
  fun c member => ⟨blank_ne (blank c member) rfl, blank_ne (blank c member) rfl⟩

theorem Unbracketed.of_trim {text : Text} (bare : Unbracketed (trim text)) : Unbracketed text := by
  obtain ⟨before, after, whole, front, back⟩ := trim_within text
  rw [whole]
  intro c member
  rcases List.mem_append.mp member with inner | last
  · exact (List.mem_append.mp inner).elim (blanks_unbracketed front c) (bare c)
  · exact blanks_unbracketed back c last

theorem Balanced.of_trim {text : Text} (trimmed : Balanced (trim text)) : Balanced text := by
  obtain ⟨before, after, whole, front, back⟩ := trim_within text
  rw [whole]
  exact ((balanced_unbracketed (blanks_unbracketed front)).append trimmed).append
    (balanced_unbracketed (blanks_unbracketed back))

theorem balanced_joined {separator : Text} (between : Balanced separator) {parts : List Text}
    (each : ∀ part ∈ parts, Balanced part) : Balanced (joinWith separator parts) := by
  induction parts with
  | nil => exact balanced_unbracketed (by simp [Unbracketed, joinWith])
  | cons first others ih =>
      have later := ih fun part member => each part (List.mem_cons_of_mem first member)
      have here := each first List.mem_cons_self
      cases others with
      | nil => simpa [joinWith] using here
      | cons second rest =>
          rw [joinWith_cons_cons]
          exact (here.append between).append later

end Joining

theorem operandText_balanced {operands : Text}
    (each : ∀ piece ∈ splitPieces operands, Balanced piece) : Balanced operands := by
  rw [← splitAtCommas_joined .start operands]
  refine balanced_joined (balanced_unbracketed (by simp [Unbracketed])) fun part member => ?_
  apply Balanced.of_trim
  by_cases blank : trim part = []
  · rw [blank]
    exact balanced_unbracketed (by simp [Unbracketed])
  · exact each _ (List.mem_filter.mpr ⟨List.mem_map_of_mem member, by simpa using blank⟩)

end AttAssembly
