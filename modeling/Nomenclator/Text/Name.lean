import Nomenclator.Text.Case
import Nomenclator.Text.NameTable
import Nomenclator.Text.Pieces

/-!
# Names

A name is a letter or an underscore followed by letters, digits, marks and underscores, of any
script. A word is a longest run of such characters and of a few others, with any of them first; so
not every word is a name. The youngest marks end a word, so a name that is cut as a word has none.
-/

namespace Nomenclator.Text

/-- The characters that a name may begin with. -/
def isNameStart (c : Char) : Bool :=
  if c.toNat < 128 then c.isAlpha || c = '_' else inRanges nameStartRanges c.toNat

/-- The characters that a name may continue with. -/
def isNameInner (c : Char) : Bool :=
  if c.toNat < 128 then isWordChar c else isNameStart c || inRanges nameInnerRanges c.toNat

/-- The characters of words. -/
def isInWord (c : Char) : Bool :=
  (isNameInner c && !inRanges lateMarkRanges c.toNat) || inRanges foreignWordRanges c.toNat

/-- Whether a text is a name. -/
def isName : List Char → Bool
  | [] => false
  | c :: cs => isNameStart c && cs.all isNameInner

end Nomenclator.Text
