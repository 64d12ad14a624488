import TapeCalc.Text.Typed

/-!
Files that can be read by path, as they are seen from a working directory that holds the given
files. Outside of it there are the usual directories of a system, the null device, and standard
input. A path is walked name by name, so the first name that leads nowhere decides what is wrong
with it.
-/

namespace TapeCalc

inductive FileFault
  | notFound
  | notDirectory
  | isDirectory
  | nameTooLong
  | other (reason : Text)
deriving DecidableEq

def FileFault.reason : FileFault → Text
  | notFound => "No such file or directory (os error 2)".toList
  | notDirectory => "Not a directory (os error 20)".toList
  | isDirectory => "Is a directory (os error 21)".toList
  | nameTooLong => "File name too long (os error 36)".toList
  | other reason => reason

inductive Readable
  | file (content : Text)
  | input

inductive Place
  | readable (what : Readable)
  /-- A directory with the names that lead to it from the root. -/
  | directory (trail : List Text)

structure Files where
  /-- What can be read, by the names that lead to it from the root. -/
  readables : List (List Text × Readable)
  /-- Directories that are there whether anything is in them or not. -/
  directories : List (List Text)
  /-- What standard input still holds. -/
  input : Text

namespace Files

/-- The names between the slashes of a path. -/
def names : Text → List Text
  | [] => [[]]
  | c :: rest =>
    if c = '/' then [] :: names rest
    else
      match names rest with
      | [] => [[c]]
      | name :: later => (c :: name) :: later

/-- The trail of the working directory. Its names hold a slash, so that no path spells them. -/
def workingTrail : List Text := ["/".toList, "/".toList]

def origin (path : Text) : List Text :=
  if path.head? = some '/' then [] else workingTrail

def isStay (name : Text) : Bool :=
  name = [] || name = ".".toList

def isUp (name : Text) : Bool :=
  name = "..".toList

def place? (files : Files) (trail : List Text) : Option Place :=
  match files.readables.lookup trail with
  | some what => some (.readable what)
  | none =>
    if files.directories.contains trail then some (.directory trail)
    else if files.readables.any fun entry => trail.isPrefixOf entry.1 then some (.directory trail)
    else none

def maxName : Nat := 255

def maxPath : Nat := 4095

def enter (files : Files) (place : Place) (name : Text) : Except FileFault Place :=
  match place with
  | .readable _ => .error .notDirectory
  | .directory trail =>
    if isStay name then .ok (.directory trail)
    else if isUp name then .ok (.directory trail.dropLast)
    else if maxName < name.byteSize then .error .nameTooLong
    else
      match files.place? (trail ++ [name]) with
      | some place => .ok place
      | none => .error .notFound

def find (files : Files) (path : Text) : Except FileFault Readable :=
  if path = [] then .error .notFound
  else if maxPath < path.byteSize then .error .nameTooLong
  else
    match (names path).foldlM files.enter (.directory (origin path)) with
    | .ok (.readable what) => .ok what
    | .ok (.directory _) => .error .isDirectory
    | .error fault => .error fault

/-- The text at a path. Reading standard input leaves nothing in it. -/
def read (path : Text) : StateM Files (Except FileFault Text) := fun files =>
  match files.find path with
  | .ok (.file content) => (.ok content, files)
  | .ok .input => (.ok files.input, { files with input := [] })
  | .error fault => (.error fault, files)

def trailOf (names : List String) : List Text :=
  names.map String.toList

/-- The null device is an empty file, and standard input has several names. -/
def devices : List (List Text × Readable) := [
  (trailOf ["dev", "null"], .file []),
  (trailOf ["dev", "stdin"], .input),
  (trailOf ["dev", "fd", "0"], .input),
  (trailOf ["proc", "self", "fd", "0"], .input)]

def systemDirectories : List (List Text) :=
  ["bin", "boot", "dev", "etc", "home", "lib", "media", "mnt", "opt", "proc", "root", "run",
    "sbin", "srv", "sys", "tmp", "usr", "var"].map fun name => trailOf [name]

def extend (trail : List Text) (name : Text) : List Text :=
  if isStay name then trail else if isUp name then trail.dropLast else trail ++ [name]

/-- The view from a working directory with these files; of two with one name the later counts. -/
def ofEntries (entries : List (Text × Text)) (input : Text) : Files where
  readables := devices ++ entries.reverse.map fun (path, content) =>
    ((names path).foldl extend (origin path), .file content)
  directories := systemDirectories
  input := input

end Files

end TapeCalc
