import AttAssembly.CommandLine.IntegerLiteral
import AttAssembly.Machine.Basic
/-!
The arguments of the command line. A switch comes first, then the name of a command, and what
follows the name is read with the options of that command. An option may be shortened as long as
one option fits, a value may be joined to its option by an equals sign, and after a double dash
nothing is an option. Options take effect in order: help ends the reading where it stands, whatever
is wrong after it. There are two editions of these conventions.
-/
namespace AttAssembly

/-- The earlier edition drops a double dash that is joined to an option, lets an equals sign stand in
    front of further letters, and refuses a group with an unknown letter. The later one takes a
    double dash for the value, refuses equals signs and dashes among letters, and goes on after an
    unknown letter to report it at the end. -/
inductive Edition where
  | earlier
  | later
  deriving DecidableEq, Repr

inductive Switch where
  | help
  | verbose
  deriving DecidableEq, Repr

inductive ValueOption where
  | out
  | stackBase
  deriving DecidableEq, Repr

inductive OptionName where
  | switch (switch : Switch)
  | value (option : ValueOption)
  deriving DecidableEq, Repr

inductive CommandName where
  | analyze
  | run
  deriving DecidableEq, Repr

def CommandName.ofText? (text : Text) : Option CommandName :=
  if text = ("analyze" : Text) then some .analyze
  else if text = ("run" : Text) then some .run
  else none

/-- The spellings of the options that are understood in one place. Only switches have a spelling of
    one letter. -/
structure OptionTable where
  letters : List (Char × Switch)
  words : List (Text × OptionName)

def generalOptions : OptionTable where
  letters := [('h', .help), ('v', .verbose)]
  words := [("--help", .switch .help), ("--verbose", .switch .verbose)]

def commandOptions : CommandName → OptionTable
  | .analyze =>
    { letters := [('h', .help)]
      words := [("--help", .switch .help), ("--out", .value .out)] }
  | .run =>
    { letters := [('h', .help)]
      words := [("--help", .switch .help), ("--stack-base", .value .stackBase),
        ("--out", .value .out)] }

/-- Why the reading ends early. -/
inductive Stop where
  | help
  | usage
  deriving DecidableEq, Repr

/-- An argument by its outer form. -/
inductive Argument where
  | plain (text : Text)
  | separator
  | unknown
  /-- Letters after one dash; the first of them is known. -/
  | letters (first : Switch) (rest : Text)
  /-- A word after two dashes, with what was joined to it by an equals sign. -/
  | word (option : OptionName) (joined : Option Text)
  deriving DecidableEq, Repr

/-- A number with a minus sign is not an option. One line feed may follow it. -/
def looksNegative (text : Text) : Bool :=
  let isDigit (c : Char) : Bool := (digitValue? c).isSome
  match if text.getLast? = some '\n' then text.dropLast else text with
  | '-' :: digits =>
      match digits.dropWhile isDigit with
      | [] => digits ≠ []
      | '.' :: fraction => fraction ≠ [] && fraction.all isDigit
      | _ => false
  | _ => false

/-- The words that a text is or shortens. A whole word is never taken for a shortened one. -/
def matchingWords (table : OptionTable) (text : Text) : List OptionName :=
  match table.words.lookup text with
  | some option => [option]
  | none => (table.words.filter fun (word, _) => text.isPrefixOf word).map Prod.snd

def classifyOther (text : Text) : Argument :=
  if looksNegative text || text.contains ' ' then .plain text else .unknown

def classifyWord (table : OptionTable) (text : Text) : Except Stop Argument :=
  let joined := match text.dropWhile (· ≠ '=') with
    | [] => none
    | _ :: value => some value
  match matchingWords table (text.takeWhile (· ≠ '=')) with
  | [] => .ok (classifyOther text)
  | [option] => .ok (.word option joined)
  | _ => .error .usage

def classifyArgument (table : OptionTable) (text : Text) : Except Stop Argument :=
  match text with
  | '-' :: '-' :: _ => classifyWord table text
  | '-' :: letter :: rest =>
      match table.letters.lookup letter with
      | some first => .ok (.letters first rest)
      | none => .ok (classifyOther text)
  | _ => .ok (.plain text)

/-- Every argument with its text. After a separator all are plain. -/
def classifyAll (table : OptionTable) : List Text → Except Stop (List (Text × Argument))
  | [] => .ok []
  | text :: rest =>
      if text = ("--" : Text) then
        .ok ((text, .separator) :: rest.map fun other => (other, .plain other))
      else do
        let argument ← classifyArgument table text
        return (text, argument) :: (← classifyAll table rest)

/-- The letters of a group that are switches, up to the first one that is not, and whether they are
    all. -/
def leadingSwitches? (table : OptionTable) : Text → Option (List Switch × Bool)
  | [] => some ([], true)
  | letter :: rest =>
      if letter = '=' ∨ letter = '-' then none
      else match table.letters.lookup letter with
        | none => some ([], false)
        | some switch =>
            (leadingSwitches? table rest).map fun (others, whole) => (switch :: others, whole)

/-- The switches after the first letter of a group, and whether every letter is understood. Some
    groups are refused at once. -/
def furtherSwitches? (edition : Edition) (table : OptionTable) (rest : Text) :
    Option (List Switch × Bool) :=
  match edition with
  | .earlier =>
      let letters := match rest with
        | '=' :: letter :: more => letter :: more
        | other => other
      (letters.mapM fun letter => table.letters.lookup letter).map fun switches => (switches, true)
  | .later => leadingSwitches? table rest

/-- What the arguments say. -/
structure Settings where
  verbose : Bool
  source : Option Text
  out : Option Text
  /-- The option may have been given without a value. -/
  stackBase : Option Int
  /-- Every argument had a place. -/
  understood : Bool
  deriving DecidableEq, Repr

namespace Settings

def initial : Settings := ⟨false, none, none, some Machine.defaultStackBase, true⟩

def flip (settings : Settings) : Switch → Except Stop Settings
  | .help => .error .help
  | .verbose => .ok { settings with verbose := true }

def flipAll (settings : Settings) : List Switch → Except Stop Settings
  | [] => .ok settings
  | switch :: rest => do (← settings.flip switch).flipAll rest

def assign (settings : Settings) (option : ValueOption) (value : Option Text) :
    Except Stop Settings :=
  match option, value with
  | .out, path => .ok { settings with out := path }
  | .stackBase, none => .ok { settings with stackBase := none }
  | .stackBase, some literal =>
      match IntegerLiteral.value? literal with
      | some address => .ok { settings with stackBase := some address }
      | none => .error .usage

def misunderstood (settings : Settings) : Settings := { settings with understood := false }

def letters (settings : Settings) (edition : Edition) (table : OptionTable) (first : Switch)
    (rest : Text) : Except Stop Settings :=
  match furtherSwitches? edition table rest with
  | none => .error .usage
  | some (others, whole) => do
      let flipped ← settings.flipAll (first :: others)
      return if whole then flipped else flipped.misunderstood

end Settings

/-- Takes the first plain argument for the source; there is no place for another one. -/
def Settings.place (settings : Settings) (text : Text) : Settings :=
  match settings.source with
  | none => { settings with source := some text }
  | some _ => settings.misunderstood

/-- The value that was joined to an option by an equals sign. -/
def joinedValue? (edition : Edition) (text : Text) : Option Text :=
  if edition = .earlier ∧ text = ("--" : Text) then none else some text

/-- The arguments of a command. A separator is passed over next to the source, and only there. -/
def readCommand (edition : Edition) (table : OptionTable) (settings : Settings) :
    List Argument → Except Stop Settings
  | [] => .ok settings
  | .plain text :: .separator :: rest => readCommand edition table (settings.place text) rest
  | .separator :: .plain text :: rest => readCommand edition table (settings.place text) rest
  | .plain text :: rest => readCommand edition table (settings.place text) rest
  | .separator :: rest => readCommand edition table settings.misunderstood rest
  | .unknown :: rest => readCommand edition table settings.misunderstood rest
  | .letters first others :: rest => do
      readCommand edition table (← settings.letters edition table first others) rest
  | .word (.switch _) (some _) :: _ => .error .usage
  | .word (.switch switch) none :: rest => do
      readCommand edition table (← settings.flip switch) rest
  | .word (.value option) (some joined) :: rest => do
      readCommand edition table (← settings.assign option (joinedValue? edition joined)) rest
  | .word (.value option) none :: .plain value :: rest => do
      readCommand edition table (← settings.assign option (some value)) rest
  | .word (.value _) none :: _ => .error .usage

/-- What the program is asked to do. -/
structure Invocation where
  command : CommandName
  verbose : Bool
  source : Text
  out : Option Text
  stackBase : Option Int
  deriving DecidableEq, Repr

/-- The arguments after the name of a command. -/
def readAfterName (edition : Edition) (settings : Settings) (name : Text) (rest : List Text) :
    Except Stop Invocation :=
  match CommandName.ofText? name with
  | none => .error .usage
  | some command => do
      let table := commandOptions command
      let arguments ← classifyAll table rest
      let final ← readCommand edition table settings (arguments.map Prod.snd)
      match final.source, final.understood with
      | some source, true =>
          return ⟨command, final.verbose, source, final.out, final.stackBase⟩
      | _, _ => .error .usage

/-- The arguments up to the name of the command. -/
def readGeneral (edition : Edition) (settings : Settings) : List (Text × Argument) → Except Stop Invocation
  | [] => .error .usage
  | (_, .plain name) :: rest => readAfterName edition settings name (rest.map Prod.fst)
  | (_, .unknown) :: rest => readGeneral edition settings.misunderstood rest
  | (_, .letters first others) :: rest => do
      readGeneral edition (← settings.letters edition generalOptions first others) rest
  | (_, .word (.switch switch) none) :: rest => do readGeneral edition (← settings.flip switch) rest
  | _ => .error .usage

def readArguments (edition : Edition) (arguments : List Text) : Except Stop Invocation := do
  readGeneral edition .initial (← classifyAll generalOptions arguments)

end AttAssembly
