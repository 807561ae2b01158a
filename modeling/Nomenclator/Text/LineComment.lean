import Nomenclator.Text.Blank
import Nomenclator.Text.Pieces

/-!
# Line comments

A text is made a comment by putting a marker and a space in front of each of its lines that is not
blank. Lines end at line feeds.
-/

namespace Nomenclator.Text

/-- A line behind a marker, unless it is blank. -/
def commentLine (marker line : List Char) : List Char :=
  if isBlank line then line else marker ++ ' ' :: line

/-- A text with every line that is not blank behind a marker. -/
def commentLines (marker cs : List Char) : List Char :=
  ['\n'].intercalate ((segments '\n' cs).map (commentLine marker))

end Nomenclator.Text
