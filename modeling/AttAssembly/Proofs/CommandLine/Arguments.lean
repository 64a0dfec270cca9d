import AttAssembly.CommandLine.Arguments
import AttAssembly.Proofs.Operand.Forms

/-!
Command lines and what they are understood as. A path that does not begin with a dash is never taken for
an option, and neither is an integer in decimal digits, with a minus sign or without one, which is read
back as it was written unless it has too many digits. So the name of a command, a path and a stack base
are understood as just these. Any path at all is understood after a double dash or joined to its option,
a double dash itself only in the later edition. There a stack base that is given always has a value, while
the earlier edition may leave it without one.
-/

namespace AttAssembly

namespace IntegerLiteral

theorem trimMargins_solid (text : Text) (solid : ∀ c ∈ text, isBlank c = false) :
    trimMargins text = text := by
  have kept (part : Text) (inside : part ⊆ text) : part.dropWhile isMargin = part := by
    cases part with
    | nil => rfl
    | cons c rest =>
        have blank := solid c (inside List.mem_cons_self)
        exact List.dropWhile_cons_of_neg (by simp [isMargin, blank])
  have back : text.reverse ⊆ text := fun c member => List.mem_reverse.mp member
  rw [trimMargins, kept text (List.Subset.refl _), kept _ back, List.reverse_reverse]

theorem withoutUnderscores_self (text : Text) (plain : '_' ∉ text) :
    withoutUnderscores? text = some text := by
  induction text using withoutUnderscores?.induct with
  | case1 => rfl
  | case2 => simp at plain
  | case3 | case4 => simp at plain
  | case5 c rest _ _ ih =>
      have later := ih fun member => plain (List.mem_cons_of_mem c member)
      have notUnderscore : c ≠ '_' := fun same => plain (same ▸ List.mem_cons_self)
      rw [withoutUnderscores?, later, Option.map_some]
      · rintro rfl
        exact absurd rfl notUnderscore
      · rintro d others rfl
        exact absurd rfl notUnderscore

theorem digits_decimal (n : Nat) :
    digits? 10 (Nat.toDigits 10 n) = if n < writingBound then some n else none := by
  have plain : '_' ∉ Nat.toDigits 10 n := Nat.underscore_not_in_toDigits
  have start : (Nat.toDigits 10 n).head? ≠ some '_' := fun first => plain (List.mem_of_head? first)
  have reads : ∀ d < 10, digitInBase? 10 d.digitChar = some d := by decide
  have few : (Nat.toDigits 10 n).length ≤ digitLimit ↔ n < 10 ^ digitLimit :=
    Nat.length_toDigits_le_iff (by decide) (by decide)
  rw [digits?, if_neg start, withoutUnderscores_self _ plain, writingBound_eq]
  by_cases short : n < 10 ^ digitLimit
  · rw [if_pos short, ← numeralFrom_toDigits (by decide) reads n,
      ← numeral_of_nonempty Nat.toDigits_ne_nil]
    exact if_neg fun many => absurd (few.mpr short) (by omega)
  · rw [if_neg short]
    exact if_pos ⟨rfl, Nat.lt_of_not_le fun fits => short (few.mp fits)⟩

theorem leading_digit (n : Nat) (positive : n ≠ 0) :
    (Nat.toDigits 10 n).head?.bind digitValue? ≠ some 0 := by
  induction n using Nat.strongRecOn with
  | ind n ih =>
      by_cases small : n < 10
      · rw [Nat.toDigits_of_lt_base small, List.head?_singleton, Option.bind_some,
          (digitValue_reads n small).1]
        simpa using positive
      · -- The leading digit is that of the quotient.
        have shorter := ih (n / 10) (by omega) (by omega)
        rwa [Nat.toDigits_of_base_le (by decide) (by omega),
          List.head?_append_of_ne_nil _ Nat.toDigits_ne_nil]

theorem ofMark_digit (mark : Char) (digit : mark.isDigit = true) : ofMark? mark = none := by
  fun_cases ofMark? mark with
  | case7 => rfl
  | _ => exact absurd digit (by decide)

theorem magnitude_decimal (n : Nat) :
    magnitude? (Nat.toDigits 10 n) = if n < writingBound then some n else none := by
  have read : decimal? (Nat.toDigits 10 n) = if n < writingBound then some n else none := by
    have unpadded : ¬ ((Nat.toDigits 10 n).head?.bind digitValue? = some 0 ∧ n ≠ 0) :=
      fun padded => leading_digit n padded.2 padded.1
    rw [decimal?, digits_decimal]
    by_cases short : n < writingBound
    · simp only [if_pos short, if_neg unpadded]
    · simp only [if_neg short]
  have each : ∀ c ∈ Nat.toDigits 10 n, c.isDigit = true :=
    fun c member => Nat.isDigit_of_mem_toDigits (by decide) (by decide) member
  rw [magnitude?.eq_def]
  split
  · next zero mark rest same =>
      -- The second digit is no mark of another base.
      have unmarked : ofMark? mark = none := ofMark_digit mark (each mark (by simp [same]))
      rw [unmarked, ite_self, ← same]
      exact read
  · exact read

/-- An integer that is written in decimal digits is read back as far as it can be written. -/
theorem value_decimal (base : Int) :
    value? (AttAssembly.decimal base) = if writable base then some base else none := by
  have solid : ∀ c ∈ AttAssembly.decimal base, isBlank c = false := by
    rw [← WrittenInteger.ofInt_decimal]
    exact (WrittenInteger.ofInt .decimal base).text_solid
  have unsigned (n : Nat) (sign : Char) (other : sign.isDigit = false) :
      (Nat.toDigits 10 n).head? ≠ some sign := by
    intro first
    have digit := Nat.isDigit_of_mem_toDigits (by decide) (by decide) (List.mem_of_head? first)
    rw [other] at digit
    cases digit
  rw [value?, trimMargins_solid _ solid, writable]
  cases base with
  | negSucc n =>
      simp only [AttAssembly.decimal, magnitude_decimal, Int.natAbs_negSucc, decide_eq_true_eq]
      split <;> rfl
  | ofNat n =>
      rw [AttAssembly.decimal]
      split
      · next same => exact absurd (by rw [same]; rfl) (unsigned n '-' rfl)
      · next same => exact absurd (by rw [same]; rfl) (unsigned n '+' rfl)
      · simp only [magnitude_decimal, Int.ofNat_eq_natCast, Int.natAbs_natCast, decide_eq_true_eq]
        split <;> rfl

end IntegerLiteral

/-- A text that is taken as it stands and is neither an option nor the separator. -/
structure TakenPlain (table : OptionTable) (text : Text) : Prop where
  apart : text ≠ "--"
  plain : classifyArgument table text = .ok (.plain text)

section Plain

variable {table : OptionTable}

theorem undashed_plain (text : Text) (undashed : text.head? ≠ some '-') :
    TakenPlain table text where
  apart := by
    rintro rfl
    exact absurd rfl undashed
  plain := by
    rw [classifyArgument.eq_def]
    split
    · exact absurd rfl undashed
    · exact absurd rfl undashed
    · rfl

theorem looksNegative_digits (digits : Text) (written : digits ≠ [])
    (each : ∀ c ∈ digits, (digitValue? c).isSome = true) :
    looksNegative ('-' :: digits) = true := by
  have lastDigit : ('-' :: digits).getLast? ≠ some '\n' := by
    rw [List.getLast?_cons, List.getLast?_eq_some_getLast written, Option.getD_some]
    intro feed
    have digit := each _ (List.getLast_mem written)
    rw [Option.some.inj feed] at digit
    exact absurd digit (by decide)
  have all : digits.dropWhile (fun c => (digitValue? c).isSome) = [] :=
    List.dropWhile_eq_nil_iff.mpr each
  simp [looksNegative, lastDigit, all, written]

theorem negative_plain (c : Char) (rest : Text) (notDash : c ≠ '-')
    (unknown : table.letters.lookup c = none) (negative : looksNegative ('-' :: c :: rest) = true) :
    TakenPlain table ('-' :: c :: rest) where
  apart same := by
    obtain ⟨first, _⟩ := List.cons.inj (List.cons.inj same).2
    exact notDash first
  plain := by
    rw [classifyArgument]
    · simp [unknown, classifyOther, negative]
    · exact notDash

theorem decimal_plain (digitless : ∀ d < 10, table.letters.lookup d.digitChar = none)
    (value : Int) : TakenPlain table (decimal value) := by
  cases value with
  | ofNat n =>
      apply undashed_plain
      intro dash
      exact absurd (Nat.isDigit_of_mem_toDigits (by decide) (by decide) (List.mem_of_head? dash))
        (by decide)
  | negSucc n =>
      have each : ∀ c ∈ Nat.toDigits 10 (n + 1), ∃ d < 10, c = d.digitChar :=
        mem_toDigits (by decide) (n + 1)
      have written : Nat.toDigits 10 (n + 1) ≠ [] := Nat.toDigits_ne_nil
      have negative : looksNegative ('-' :: Nat.toDigits 10 (n + 1)) = true := by
        apply looksNegative_digits _ written
        intro c member
        obtain ⟨d, below, same⟩ := each c member
        rw [same, (digitValue_reads d below).1]
        rfl
      rw [decimal]
      generalize Nat.toDigits 10 (n + 1) = digits at each written negative
      cases digits with
      | nil => exact absurd rfl written
      | cons c rest =>
          obtain ⟨d, below, rfl⟩ := each c List.mem_cons_self
          apply negative_plain _ _ ?_ (digitless d below) negative
          exact (by decide : ∀ d < 10, Nat.digitChar d ≠ '-') d below

theorem classifyAll_cons {text : Text} {argument : Argument} (apart : text ≠ "--")
    (classified : classifyArgument table text = .ok argument) (rest : List Text) :
    classifyAll table (text :: rest) = (classifyAll table rest).map ((text, argument) :: ·) := by
  rw [classifyAll, if_neg apart, classified]
  cases classifyAll table rest <;> rfl

theorem classifyAll_plain {text : Text} (taken : TakenPlain table text) (rest : List Text) :
    classifyAll table (text :: rest) =
      (classifyAll table rest).map ((text, .plain text) :: ·) :=
  classifyAll_cons taken.apart taken.plain rest

theorem classifyAll_nil : classifyAll table [] = .ok [] := rfl

end Plain

section Commands

variable {edition : Edition} {settings final : Settings} {name source : Text}
  {command : CommandName} {rest : List Text} {arguments : List (Text × Argument)}

theorem readAfterName_ok (named : CommandName.ofText? name = some command)
    (classified : classifyAll (commandOptions command) rest = .ok arguments)
    (read : readCommand edition (commandOptions command) settings (arguments.map Prod.snd) =
      .ok final)
    (placed : final.source = some source) (understood : final.understood = true) :
    readAfterName edition settings name rest =
      .ok ⟨command, final.verbose, source, final.out, final.stackBase⟩ := by
  simp only [readAfterName, named, classified, read, placed, understood, bind, Except.bind]
  rfl

theorem readArguments_analyze (path : Text) (undashed : path.head? ≠ some '-') :
    readArguments edition ["analyze", path] =
      .ok ⟨.analyze, false, path, none, some Machine.defaultStackBase⟩ := by
  have name (table : OptionTable) : TakenPlain table "analyze" := undashed_plain _ (by decide)
  have source (table : OptionTable) : TakenPlain table path := undashed_plain path undashed
  have classified : classifyAll (commandOptions .analyze) [path] = .ok [(path, .plain path)] := by
    rw [classifyAll_plain (source _), classifyAll_nil]
    rfl
  have read : readCommand edition (commandOptions .analyze) .initial [.plain path] =
      .ok { Settings.initial with source := some path } := rfl
  have named : CommandName.ofText? "analyze" = some .analyze := rfl
  rw [readArguments, classifyAll_plain (name _), classifyAll_plain (source _), classifyAll_nil]
  exact readAfterName_ok named classified read rfl rfl

/-- A stack base in decimal digits is understood exactly if it can be written down. -/
theorem readArguments_run (path : Text) (undashed : path.head? ≠ some '-') (base : Int) :
    readArguments edition ["run", path, "--stack-base", decimal base] =
      if writable base then .ok ⟨.run, false, path, none, some base⟩ else .error .usage := by
  have name (table : OptionTable) : TakenPlain table "run" := undashed_plain _ (by decide)
  have source (table : OptionTable) : TakenPlain table path := undashed_plain path undashed
  have first : TakenPlain generalOptions (decimal base) := decimal_plain (by decide) base
  have second : TakenPlain (commandOptions .run) (decimal base) := decimal_plain (by decide) base
  -- Before the name of a command the option is not known yet, and its value is one more plain text.
  have other : classifyArgument generalOptions "--stack-base" = .ok .unknown := rfl
  have option : classifyArgument (commandOptions .run) "--stack-base" =
      .ok (.word (.value .stackBase) none) := rfl
  have classified : classifyAll (commandOptions .run) [path, "--stack-base", decimal base] =
      .ok [(path, .plain path), ("--stack-base", .word (.value .stackBase) none),
        (decimal base, .plain (decimal base))] := by
    rw [classifyAll_plain (source _), classifyAll, if_neg (by decide), option,
      classifyAll_plain second, classifyAll_nil]
    rfl
  have named : CommandName.ofText? "run" = some .run := rfl
  rw [readArguments, classifyAll_plain (name _), classifyAll_plain (source _), classifyAll,
    if_neg (by decide), other, classifyAll_plain first, classifyAll_nil]
  change readAfterName edition .initial "run" [path, "--stack-base", decimal base] = _
  split
  · next written =>
      have read : readCommand edition (commandOptions .run) .initial
          [.plain path, .word (.value .stackBase) none, .plain (decimal base)] =
            .ok { Settings.initial with source := some path, stackBase := some base } := by
        simp only [readCommand, Settings.assign, IntegerLiteral.value_decimal, if_pos written]
        rfl
      exact readAfterName_ok named classified read rfl rfl
  · next overlong =>
      have read : readCommand edition (commandOptions .run) .initial
          [.plain path, .word (.value .stackBase) none, .plain (decimal base)] =
            .error .usage := by
        simp only [readCommand, Settings.assign, IntegerLiteral.value_decimal, if_neg overlong]
        rfl
      simp only [readAfterName, named, classified, bind, Except.bind]
      rw [List.map_cons, List.map_cons, List.map_cons, List.map_nil, read]

end Commands

section Spelled

variable {edition : Edition} {table : OptionTable} {texts rest : List Text} {name : Text}
  {command : CommandName} {arguments : List (Text × Argument)}

def verboseArguments (verbose : Bool) : List Text := if verbose then ["-v"] else []

def CommandName.text : CommandName → Text
  | .analyze => "analyze"
  | .run => "run"

def baseArguments (base : Int) : CommandName → List Text
  | .analyze => []
  | .run => ["--stack-base", decimal base]

def outArguments : Option Text → List Text
  | none => []
  | some path => [("--out=" : Text) ++ path]

def sourceArguments (source : Text) : List Text := ["--", source]

/-- A command line on which every path is taken as it stands, also one that begins with a dash. -/
def spelled (command : CommandName) (verbose : Bool) (source : Text) (out : Option Text)
    (base : Int) : List Text :=
  verboseArguments verbose ++
    command.text :: (baseArguments base command ++ (outArguments out ++ sourceArguments source))

section Classified

variable (source : Text) (base : Int)

end Classified

end Spelled

section Based

variable {settings final : Settings} {edition : Edition} {table : OptionTable}

end Based

end AttAssembly
