import AttAssembly.Text.Basic
import AttAssembly.Text.LetterCase.Context
import AttAssembly.Text.LetterCase.Table
/-!
Upper and lower case of a whole text. Some letters change into several code points, and a capital
sigma has two lower cases: the final one where it ends a word, the other one elsewhere.
-/
namespace AttAssembly

namespace LetterCase

def Run.move? (run : Run) (code : Nat) : Option Nat :=
  if run.low ≤ code ∧ code ≤ run.high ∧ (code - run.low) % run.stride = 0 then
    some (code + run.distance).toNat
  else none

/-- The other case of a code point outside ASCII, itself when it has none. -/
def change (expansions : List (Nat × List Nat)) (runs : List Run) (c : Char) : Text :=
  match expansions.lookup c.toNat with
  | some codes => codes.map Char.ofNat
  | none =>
      match runs.findSome? (·.move? c.toNat) with
      | some code => [Char.ofNat code]
      | none => [c]

def isIgnorable (c : Char) : Bool :=
  ignorableRanges.any fun range => decide (range.1 ≤ c.toNat) && decide (c.toNat ≤ range.2)

def isCased (c : Char) : Bool :=
  casedRanges.any fun range => decide (range.1 ≤ c.toNat) && decide (c.toNat ≤ range.2)

/-- Whether the nearest letter to the left is cased, after `c` has been passed. -/
def joins (afterLetter : Bool) (c : Char) : Bool :=
  if isIgnorable c then afterLetter else isCased c

/-- No cased letter follows, passing over what is ignorable. -/
def endsWord (rest : Text) : Bool :=
  match rest.find? (!isIgnorable ·) with
  | some c => !isCased c
  | none => true

end LetterCase

open LetterCase

def upperLetter (c : Char) : Text :=
  if c.toNat < 0x80 then [c.toUpper] else change upperExpansions upperRuns c

/-- The lower case of a letter wherever it stands. -/
def lowerLetter (c : Char) : Text :=
  if c.toNat < 0x80 then [c.toLower] else change lowerExpansions lowerRuns c

def upper (text : Text) : Text := text.flatMap upperLetter

/-- `afterLetter` says whether a cased letter stands to the left. -/
def lowerFrom (afterLetter : Bool) : Text → Text
  | [] => []
  | c :: rest =>
      (if c = 'Σ' then [if afterLetter && endsWord rest then 'ς' else 'σ'] else lowerLetter c) ++
        lowerFrom (joins afterLetter c) rest

def lower (text : Text) : Text := lowerFrom false text

end AttAssembly
