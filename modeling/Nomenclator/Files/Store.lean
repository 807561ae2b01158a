import Nomenclator.Files.Path

/-!
# A tree of files

The files that settings and templates are read from and written to, as a value: the directories and
the files of one tree, each by its place below the root, and the place of the working directory. A
path with a root is followed from the root of the tree, any other from the working directory. It is
followed part by part, so `a/../b` needs the directory `a`; two dots lead back by one, and from the
root to itself. A name that is too long is a problem of its own when it is reached, and a path with
a null character leads nowhere and cannot be opened.

With the tree goes how deep a document may nest that is read from one of its files. Documents of
settings nest two deep, and there is always room for those.
-/

namespace Nomenclator

/-- The place of a file or a directory: the names that lead to it from the root. -/
abbrev Place := List String

/-- How deep a document may nest where nothing else is said. -/
def defaultRoom : Nat := 900

theorem two_le_defaultRoom : 2 ≤ defaultRoom := by decide

/-- A tree of directories and files, with the place of the working directory. -/
structure Files where
  /-- The working directory. It is there, and so are the directories on the way to it. -/
  working : Place := ["tmp", "work"]
  directories : List Place := []
  contents : List (Place × ByteArray) := []
  /-- How deep the document in a file may nest. -/
  room : Nat := defaultRoom
  two_le_room : 2 ≤ room := by exact two_le_defaultRoom

/-- What a path leads to. -/
inductive Location where
  | directory (place : Place)
  | file (place : Place) (content : ByteArray)
  /-- Nothing, in a directory that is there. -/
  | vacant (place : Place)
  /-- A directory on the way is not there. -/
  | missing
  /-- A file stands where a directory is needed. -/
  | blocked
  /-- A name on the way, or the path as a whole, is too long. -/
  | tooLong
  /-- The path cannot be written as one. -/
  | malformed

/-- Why a file could not be opened. -/
inductive OpenError where
  | notFound
  | notDirectory
  | isDirectory
  | tooLong
  | malformed
  deriving DecidableEq, Repr

/-- The message of a failure to open a path, which ends with the path where it was looked for. -/
def OpenError.message (e : OpenError) (path : String) : String :=
  match e with
  | notFound => "[Errno 2] No such file or directory: " ++ path
  | notDirectory => "[Errno 20] Not a directory: " ++ path
  | isDirectory => "[Errno 21] Is a directory: " ++ path
  | tooLong => "[Errno 36] File name too long: " ++ path
  | malformed => "embedded null byte"

namespace Files

/-- Whether a place is a directory. The places on the way to the working directory are directories,
the root and the working directory included. -/
def isDirectory (files : Files) (place : Place) : Bool :=
  place.isPrefixOf files.working || files.directories.contains place

/-- The location that the remaining parts lead to from the directory at a place. -/
def follow (files : Files) : Place → List String → Location
  | place, [] => .directory place
  | place, part :: rest =>
    if Path.maxNameBytes < part.utf8ByteSize then .tooLong
    else if part = ".." then follow files place.dropLast rest
    else
      let next := place ++ [part]
      if files.isDirectory next then follow files next rest
      else match files.contents.lookup next with
        | some content => if rest.isEmpty then .file next content else .blocked
        | none => if rest.isEmpty then .vacant next else .missing

/-- The directory that a path is followed from. -/
def start (files : Files) (p : Path) : Place := if p.root = .relative then files.working else []

/-- The location that a path leads to. -/
def locate (files : Files) (p : Path) : Location :=
  if p.hasNull then .malformed
  else if p.isTooLong then .tooLong
  else follow files (files.start p) p.parts

/-- The file that a path leads to. -/
def openFile (files : Files) (p : Path) : Except OpenError ByteArray :=
  match files.locate p with
  | .file _ content => .ok content
  | .directory _ => .error .isDirectory
  | .blocked => .error .notDirectory
  | .vacant _ => .error .notFound
  | .missing => .error .notFound
  | .tooLong => .error .tooLong
  | .malformed => .error .malformed

/-- Whether a path leads to anything; of a path that is too long this cannot be said. -/
def doesExist? (files : Files) (p : Path) : Option Bool :=
  match files.locate p with
  | .file _ _ => some true
  | .directory _ => some true
  | .tooLong => none
  | _ => some false

/-- The files below the directory that a path leads to, by their places in it. -/
def below (files : Files) (p : Path) : List (Place × ByteArray) :=
  match files.locate p with
  | .directory place =>
    files.contents.filterMap fun entry =>
      if place.isPrefixOf entry.1 then some (entry.1.drop place.length, entry.2) else none
  | _ => []

/-- The tree with a content at a place that is free or a file. -/
def put (files : Files) (place : Place) (content : ByteArray) : Files :=
  { files with
    contents := files.contents.filter (fun entry => entry.1 != place) ++ [(place, content)] }

/-- Writes a content to a path whose directory is there. -/
def write (files : Files) (p : Path) (content : ByteArray) : Except OpenError Files :=
  match files.locate p with
  | .file place _ => .ok (files.put place content)
  | .vacant place => .ok (files.put place content)
  | .directory _ => .error .isDirectory
  | .blocked => .error .notDirectory
  | .missing => .error .notFound
  | .tooLong => .error .tooLong
  | .malformed => .error .malformed

/-- The place that parts lead to from another, when every directory on the way is there. -/
def placeFrom (start : Place) (parts : List String) : Place :=
  parts.foldl (fun place part => if part = ".." then place.dropLast else place ++ [part]) start

/-- The places on the way to where some parts lead, the last included. -/
def placesTo (start : Place) (parts : List String) : List Place :=
  (List.range parts.length).map fun n => placeFrom start (parts.take (n + 1))

/-- The tree with the directory that some parts lead to and all those on the way. -/
def makeDirectories (files : Files) (start : Place) (parts : List String) : Files :=
  { files with
    directories :=
      files.directories ++ (placesTo start parts).filter fun place => !files.isDirectory place }

/-- The tree with the directory that a path leads to and all those on the way. -/
def makeDirectory (files : Files) (p : Path) : Files :=
  files.makeDirectories (files.start p) p.parts

/-- The tree with a file at a path, its directories made where they are not there. -/
def place (files : Files) (p : Path) (content : ByteArray) : Files :=
  let start := files.start p
  (files.makeDirectories start p.parts.dropLast).put (placeFrom start p.parts) content

/-- What is wrong with the names that a path writes, whatever files there are. -/
def nameProblem? (p : Path) : Option OpenError :=
  if p.hasNull then some .malformed
  else if p.isTooLong || p.parts.any fun part => Path.maxNameBytes < part.utf8ByteSize then
    some .tooLong
  else none

end Files

end Nomenclator
