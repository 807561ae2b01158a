import Nomenclator.Text.Case
import Nomenclator.Text.Pieces

/-!
# Paths

A path is a root and the parts below it. Parts that are empty or a single dot are not kept, so
`a//b` and `./a/b/` are the same path; two dots are a part like any other. One slash at the
beginning is the root, exactly two are a root of their own, and more than two count as one.
-/

namespace Nomenclator

/-- Where a path starts. -/
inductive Root where
  | relative
  | slash
  | doubleSlash
  deriving DecidableEq, Repr

/-- A path. -/
structure Path where
  root : Root
  parts : List String
  deriving DecidableEq, Repr

namespace Path

/-- The root that a text starts with. -/
def rootOf (cs : List Char) : Root :=
  match (cs.takeWhile (· = '/')).length with
  | 0 => .relative
  | 2 => .doubleSlash
  | _ => .slash

/-- Whether a part is kept. -/
def isKept (part : List Char) : Bool := !part.isEmpty && part != ['.']

/-- The path that a text writes. -/
def ofText (s : String) : Path :=
  { root := rootOf s.toList
    parts := ((Text.segments '/' s.toList).filter isKept).map String.ofList }

/-- A path continued by another. A path with a root replaces what is before it. -/
def join (a b : Path) : Path :=
  if b.root = .relative then { a with parts := a.parts ++ b.parts } else b

/-- The text of a root. -/
def rootText : Root → String
  | .relative => ""
  | .slash => "/"
  | .doubleSlash => "//"

/-- The text of a path; a relative path without parts is a dot. -/
def toText (p : Path) : String :=
  let s := rootText p.root ++ "/".intercalate p.parts
  if s = "" then "." else s

/-! ## What names can be written -/

/-- How many bytes the name of a file or a directory may have. -/
def maxNameBytes : Nat := 255

/-- How many bytes a path may have. -/
def maxPathBytes : Nat := 4095

/-- Whether a path as a whole is too long to be followed. -/
def isTooLong (p : Path) : Bool := maxPathBytes < p.toText.utf8ByteSize

/-- Whether a path holds a null character, with which no name can be written. -/
def hasNull (p : Path) : Bool := p.parts.any fun part => part.toList.contains '\x00'

/-! ## Suffixes -/

/-- The suffix of a name from its last dot on, unless the dot is its first or last character. -/
def suffixOf (name : List Char) : List Char :=
  let tail := name.reverse.takeWhile (· ≠ '.')
  if tail.isEmpty || name.length ≤ tail.length + 1 then [] else '.' :: tail.reverse

/-- The suffix of the last part. -/
def suffix (p : Path) : List Char :=
  match p.parts.getLast? with
  | none => []
  | some name => suffixOf name.toList

/-- Whether the suffix is that of JSON files, in capital or small letters. -/
def isJson (p : Path) : Bool := Text.lower p.suffix = ".json".toList

end Path

end Nomenclator
