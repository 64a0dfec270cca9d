import AttAssembly.Text.Escaped
/-!
A disk: directories and files by their place, a place being the names that lead to it from the
root. Paths are resolved one name after another, so that a missing directory is noticed even where
two dots would leave it again.
-/
namespace AttAssembly

abbrev Location := List Text

inductive Entry where
  | directory
  | file (content : ByteArray)
  /-- A device that is empty when read and keeps nothing that is written. -/
  | emptyDevice

structure Disk where
  entries : List (Location × Entry)
  /-- Where a path without a leading slash begins. -/
  working : Location

inductive FileError where
  | notFound
  | notDirectory
  | isDirectory
  | nameTooLong
  deriving DecidableEq, Repr

namespace FileError

def code : FileError → Nat
  | notFound => 2
  | notDirectory => 20
  | isDirectory => 21
  | nameTooLong => 36

def reason : FileError → Text
  | notFound => "No such file or directory"
  | notDirectory => "Not a directory"
  | isDirectory => "Is a directory"
  | nameTooLong => "File name too long"

/-- The error as it is shown for a path. -/
def message (error : FileError) (path : Text) : Text :=
  "[Errno " ++ decimal error.code ++ "] " ++ error.reason ++ ": " ++ escaped path

end FileError

def encodedLength (text : Text) : Nat := text.foldl (fun length c => length + c.utf8Size) 0

def longestName : Nat := 255

def longestPath : Nat := 4095

/-- The names of a path, and whether it ends in a slash. -/
structure Path where
  absolute : Bool
  names : List Text
  trailingSlash : Bool
  deriving DecidableEq, Repr

def Path.ofText (text : Text) : Path :=
  let (first, others) := splitWhere (· = '/') text
  { absolute := text.head? = some '/'
    names := (first :: others).filter (· ≠ [])
    trailingSlash := text.getLast? = some '/' }

namespace Disk

def entry (disk : Disk) (location : Location) : Option Entry := disk.entries.lookup location

def put (disk : Disk) (location : Location) (entry : Entry) : Disk :=
  { disk with
    entries := (location, entry) :: disk.entries.filter fun (other, _) => other ≠ location }

/-- An empty working directory, beside it the devices and a place for temporary files. -/
def scratch : Disk where
  entries :=
    [ ([], .directory), (["work"], .directory), (["tmp"], .directory), (["dev"], .directory),
      (["dev", "null"], .emptyDevice)]
  working := ["work"]

/-- Puts a directory into the working directory, with those on the way to it. -/
def addDirectory (disk : Disk) (path : Text) : Disk :=
  let names := (Path.ofText path).names
  (List.range names.length).foldl
    (fun disk count => disk.put (disk.working ++ names.take (count + 1)) .directory) disk

def addFile (disk : Disk) (path : Text) (content : ByteArray) : Disk :=
  disk.put (disk.working ++ (Path.ofText path).names) (.file content)

def start (disk : Disk) (path : Path) : Location := if path.absolute then [] else disk.working

/-- Goes from one place on through the names of a path. -/
def follow (disk : Disk) (here : Location) : List Text → Except FileError Location
  | [] => .ok here
  | name :: rest =>
      match disk.entry here with
      | none => .error .notFound
      | some (.file _) | some .emptyDevice => .error .notDirectory
      | some .directory =>
          if name = ['.'] then disk.follow here rest
          else if name = ['.', '.'] then disk.follow here.dropLast rest
          else if longestName < encodedLength name then .error .nameTooLong
          else match disk.entry (here ++ [name]) with
            | none => .error .notFound
            | some _ => disk.follow (here ++ [name]) rest

/-- The content of a file. A slash at the end asks for a directory. -/
def read (disk : Disk) (path : Text) : Except FileError ByteArray :=
  if path = [] then .error .notFound
  else if longestPath < encodedLength path then .error .nameTooLong
  else do
    let parsed := Path.ofText path
    let names := if parsed.trailingSlash then parsed.names ++ [['.']] else parsed.names
    let location ← disk.follow (disk.start parsed) names
    match disk.entry location with
    | some (.file content) => return content
    | some .emptyDevice => return .empty
    | some .directory => throw .isDirectory
    | none => throw .notFound

/-- Writes a file into a directory, over the one that has the name. -/
def writeInto (disk : Disk) (parent : Location) (name : Text) (trailingSlash : Bool)
    (content : ByteArray) : Except FileError Disk :=
  match disk.entry parent with
  | none => .error .notFound
  | some (.file _) | some .emptyDevice => .error .notDirectory
  | some .directory =>
      if trailingSlash ∨ name = ['.'] ∨ name = ['.', '.'] then .error .isDirectory
      else if longestName < encodedLength name then .error .nameTooLong
      else match disk.entry (parent ++ [name]) with
        | some .directory => .error .isDirectory
        | some .emptyDevice => .ok disk
        | _ => .ok (disk.put (parent ++ [name]) (.file content))

/-- Writes a file and makes it if there is none. The directory it goes into has to be there. -/
def write (disk : Disk) (path : Text) (content : ByteArray) : Except FileError Disk :=
  if path = [] then .error .notFound
  else if longestPath < encodedLength path then .error .nameTooLong
  else
    let parsed := Path.ofText path
    match parsed.names.getLast? with
    | none => .error .isDirectory
    | some name => do
        let parent ← disk.follow (disk.start parsed) parsed.names.dropLast
        disk.writeInto parent name parsed.trailingSlash content

/-- The names and contents of the files that stand directly in the working directory. -/
def topFiles (disk : Disk) : List (Text × ByteArray) :=
  disk.entries.filterMap fun (location, entry) =>
    match location.getLast?, entry with
    | some name, .file content =>
        if location = disk.working ++ [name] then some (name, content) else none
    | _, _ => none

def holds (disk : Disk) (location : Location) (content : ByteArray) : Bool :=
  match disk.entry location with
  | some (.file held) => held == content
  | _ => false

/-- The files directly in the working directory that are new or hold something else than before. -/
def changedSince (after before : Disk) : List (Text × ByteArray) :=
  after.topFiles.filter fun (name, content) => !before.holds (before.working ++ [name]) content

end Disk

end AttAssembly
