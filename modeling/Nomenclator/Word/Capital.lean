import Nomenclator.Text.Case

/-!
# Capital first letters

A word is worked on as its list of characters. Changing the case of a first character may change the
length of the word, since a capital form can take several characters.
-/

namespace Nomenclator

/-- A word: the characters of a name, or of a part of one. -/
abbrev Word := List Char

namespace Word

/-- The word with its first character in capital form, the rest as it is. -/
def capitalize : Word → Word
  | [] => []
  | c :: cs => Text.upperChar c ++ cs

/-- The word with its first character in small form, the rest as it is. -/
def decapitalize : Word → Word
  | [] => []
  | c :: cs => Text.lowerChar c ++ cs

end Word

end Nomenclator
