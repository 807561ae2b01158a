import Nomenclator.Text.Pieces
import Nomenclator.Value

/-!
# Characters that identifiers cannot hold

A transcoder makes identifier characters out of any text. First the entries of its table are
replaced, one after another; then every run of characters that are still not allowed becomes one
underscore. A digit at the beginning gets an underscore in front of it, and a result of underscores
alone, which the language reserves, is replaced by a word.
-/

namespace Nomenclator.Kotlin

/-- The replacements of a transcoder, in the order in which they are made. -/
structure Transcoder where
  replacements : List (String × String)
  deriving DecidableEq, Repr

namespace Transcoder

/-- Whether an entry is kept: an empty key or an underscore is not replaced. -/
def isKept (entry : String × String) : Bool := entry.1 != "" && entry.1 != "_"

/-- The transcoder of a table. -/
def ofTable (entries : List (String × String)) : Transcoder := ⟨entries.filter isKept⟩

/-- Whether an entry of values is kept: a key that is not present or an underscore is not replaced.
-/
def isKeptValue (entry : Value × Value) : Bool :=
  entry.1.isPresent && !entry.1.isSameKey (.text "_")

/-- An entry of texts. -/
def textEntry (entry : Value × Value) : Except Mismatch (String × String) := do
  return (← entry.1.asText, ← entry.2.asText)

/-- The transcoder of a table of values, all of whose kept entries have to be texts. -/
def ofValues (entries : List (Value × Value)) : Except Mismatch Transcoder :=
  ((entries.filter isKeptValue).mapM textEntry).map fun texts => ⟨texts⟩

/-- The text after the replacements of the table. -/
def replace (entries : List (String × String)) (w : List Char) : List Char :=
  entries.foldl (fun w entry => Text.replaceAll entry.1.toList entry.2.toList w) w

/-- Every run of characters that are not allowed becomes one underscore. `inRun` says that such a
run has been written already. -/
def collapse (inRun : Bool) : List Char → List Char
  | [] => []
  | c :: cs =>
    if Text.isWordChar c then c :: collapse false cs
    else if inRun then collapse true cs
    else '_' :: collapse true cs

/-- An underscore in front of a digit that begins the word. -/
def guardDigit (w : List Char) : List Char :=
  match w with
  | c :: _ => if c.isDigit then '_' :: w else w
  | [] => []

/-- The word for a name of underscores only. -/
def underscoreWord : List Char := "Underscore".toList

/-- A word of underscores only, replaced. -/
def nameUnderscores (w : List Char) : List Char :=
  if !w.isEmpty && w.all (· = '_') then underscoreWord else w

/-- A text transcoded to identifier characters. -/
def sanitize (t : Transcoder) (w : List Char) : List Char :=
  nameUnderscores (guardDigit (collapse false (replace t.replacements w)))

end Transcoder

end Nomenclator.Kotlin
