import ServerTelemetry.Text.Pieces
import ServerTelemetry.Text.Utf8

/-!
# Files by path

A file system is a list of files by where they are. A directory is there because something is in it,
or because it is listed. A path is walked name by name, from the root if a slash is in front and
from the working directory otherwise; a dot or nothing between two slashes stays where it is, two
dots go up. Only directories are walked through, so a slash after the name of a file leads nowhere.
-/

namespace ServerTelemetry

open Text

/-- Why a file cannot be read. -/
inductive FileError where
  | missing
  | forbidden
  /-- What the path goes through is no directory. -/
  | notDirectory
  | directory
  /-- The path or a name in it is too long. -/
  | tooLong
  | nul
  | notText
  deriving DecidableEq, Repr

/-- The wording of the error. -/
def FileError.message : FileError → Text
  | .missing => "No such file or directory (os error 2)".toList
  | .forbidden => "Permission denied (os error 13)".toList
  | .notDirectory => "Not a directory (os error 20)".toList
  | .directory => "Is a directory (os error 21)".toList
  | .tooLong => "File name too long (os error 36)".toList
  | .nul => "file name contained an unexpected NUL byte".toList
  | .notText => "stream did not contain valid UTF-8".toList

/-- How files are read: the bytes at a path, or why there are none. -/
abbrev FileReader := Text → Except FileError (List UInt8)

/-- Where something is: the names that lead to it from the root. -/
abbrev Location := List Text

/-- What is at a location. -/
inductive FileEntry where
  | file (bytes : List UInt8)
  | directory
  deriving DecidableEq, Repr

/-- Files by where they are. -/
structure FileSystem where
  files : List (Location × List UInt8)
  /-- Directories, beside those of the files. -/
  directories : List Location
  /-- Where paths without a slash in front start. -/
  workingDirectory : Location
  deriving DecidableEq, Repr

namespace FileSystem

/-- The most bytes of a name. -/
def nameLimit : Nat := 255

/-- The most bytes of a path. -/
def pathLimit : Nat := 4095

/-- What is at a location, if anything is. -/
def entry? (fs : FileSystem) (here : Location) : Option FileEntry :=
  match fs.files.lookup here with
  | some bytes => some (.file bytes)
  | none =>
    let known := fs.workingDirectory :: fs.directories ++ fs.files.map Prod.fst
    if known.any here.isPrefixOf then some .directory else none

/-- A name leads nowhere else. -/
def staysHere (name : Text) : Bool :=
  name.isEmpty || name == ['.']

/-- From one location to the next by a name. -/
def step (fs : FileSystem) (here : Location) (name : Text) : Except FileError Location :=
  match fs.entry? here with
  | none => .error .missing
  | some (.file _) => .error .notDirectory
  | some .directory =>
    if staysHere name then .ok here
    else if name = ['.', '.'] then .ok here.dropLast
    else if nameLimit < utf8Length name then .error .tooLong
    else if (fs.entry? (here ++ [name])).isSome then .ok (here ++ [name])
    else .error .missing

/-- The location a path leads to. -/
def locate (fs : FileSystem) (path : Text) : Except FileError Location :=
  (pieces '/' path).foldlM fs.step
    (if ['/'].isPrefixOf path then [] else fs.workingDirectory)

/-- The bytes of the file at a path. -/
def read (fs : FileSystem) : FileReader := fun path =>
  if path.contains '\x00' then .error .nul
  else if pathLimit < utf8Length path then .error .tooLong
  else if path.isEmpty then .error .missing
  else do
    match fs.entry? (← fs.locate path) with
    | some (.file bytes) => return bytes
    | some .directory => throw .directory
    | none => throw .missing

/-- The directories every machine has. -/
def standardDirectories : List Location :=
  ["bin", "dev", "etc", "home", "lib", "opt", "proc", "sys", "tmp", "usr", "var"].map
    fun name => [name.toList]

/-- The file that is always empty. -/
def emptyFile : Location :=
  ["dev".toList, "null".toList]

/-- A directory for temporary use; no path has a name for it. -/
def temporary : Location :=
  ["tmp".toList, []]

/-- A working directory with some files in it; of several files of one name the last is there. -/
def ofFiles (files : List (Text × List UInt8)) : FileSystem where
  files := (emptyFile, []) :: files.reverse.map fun (name, bytes) =>
    (temporary ++ (pieces '/' name).filter (! staysHere ·), bytes)
  directories := standardDirectories
  workingDirectory := temporary

end FileSystem

end ServerTelemetry
