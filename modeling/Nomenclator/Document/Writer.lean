import Nomenclator.Number.Shortest
import Nomenclator.Text.Quoted
import Nomenclator.Value

/-!
# Writing JSON documents

`Document.write` writes a value on lines of its own: every item and every field on a line, two
spaces further in than its bracket, an empty list or record as a pair of brackets. Characters are
written as they are, except the quote, the backslash and the controls.
-/

namespace Nomenclator.Document

/-- One character of a written text. -/
def writeChar (c : Char) : List Char :=
  match c with
  | '\x22' => ['\\', '\x22']
  | '\\' => ['\\', '\\']
  | '\n' => ['\\', 'n']
  | '\r' => ['\\', 'r']
  | '\t' => ['\\', 't']
  | '\x0c' => ['\\', 'f']
  | '\x08' => ['\\', 'b']
  | c => if c.toNat < 0x20 then '\\' :: 'u' :: Text.hexDigits 4 c.toNat else [c]

/-- A text between quotes. -/
def writeText (cs : List Char) : List Char := '\x22' :: cs.flatMap writeChar ++ ['\x22']

/-- A floating-point number; the three that have no digits are written as words. -/
def writeReal : Binary64 → List Char
  | .nan => "NaN".toList
  | .infinite negative => if negative then "-Infinity".toList else "Infinity".toList
  | x => x.display.toList

/-- The beginning of a line at a depth. -/
def newLine (depth : Nat) : List Char := '\n' :: List.replicate (2 * depth) ' '

mutual

/-- A value whose brackets stand at a depth. -/
def writeValue (depth : Nat) : Value → List Char
  | .null => "null".toList
  | .bool b => if b then "true".toList else "false".toList
  | .int n => (toString n).toList
  | .real x => writeReal x
  | .text s => writeText s.toList
  | .list [] => ['[', ']']
  | .list (v :: vs) => '[' :: writeItems (depth + 1) (v :: vs) ++ newLine depth ++ [']']
  | .record [] => ['\x7b', '\x7d']
  | .record (f :: fs) =>
    '\x7b' :: writeFields (depth + 1) (f :: fs) ++ newLine depth ++ ['\x7d']

/-- Items on lines of their own, a comma after each but the last. -/
def writeItems (depth : Nat) : List Value → List Char
  | [] => []
  | [v] => newLine depth ++ writeValue depth v
  | v :: w :: rest =>
    newLine depth ++ writeValue depth v ++ [','] ++ writeItems depth (w :: rest)

/-- Fields on lines of their own, a comma after each but the last. -/
def writeFields (depth : Nat) : List (String × Value) → List Char
  | [] => []
  | [(k, v)] => newLine depth ++ writeText k.toList ++ [':', ' '] ++ writeValue depth v
  | (k, v) :: next :: rest =>
    newLine depth ++ writeText k.toList ++ [':', ' '] ++ writeValue depth v ++ [',']
      ++ writeFields depth (next :: rest)

end

/-- The text of a value. -/
def write (v : Value) : String := String.ofList (writeValue 0 v)

end Nomenclator.Document
