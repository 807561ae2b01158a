import Nomenclator.Text.Pieces

/-!
# Reduction to identifier characters

`reduce` turns the marks that separate words in a schema name into underscores and drops whatever is
left that no plain identifier can hold. It works in passes over the whole name: pairs of brackets
vanish first, then each kind of bracket, the dots, the hyphens and the spaces are replaced in turn,
and a last pass keeps ASCII letters, digits and underscores only. The name `$` stands for a value.
-/

namespace Nomenclator.Word

/-- The replacements in the order in which they are made. -/
def markReplacements : List (List Char × List Char) :=
  [(['[', ']'], []), (['['], ['_']), ([']'], []), (['('], ['_']), ([')'], []), (['.'], ['_']),
   (['-'], ['_']), ([' '], ['_'])]

/-- The passes of `reduce`, without its one exception. -/
def reduceMarks (w : List Char) : List Char :=
  (markReplacements.foldl (fun w pass => Text.replaceAll pass.1 pass.2 w) w).filter Text.isWordChar

/-- A name reduced to identifier characters. -/
def reduce (w : List Char) : List Char :=
  if w = ['$'] then "value".toList else reduceMarks w

/-- What stands for a name that is missing. -/
def missingName : List Char := "ERROR_UNKNOWN".toList

/-- A name that may be missing, reduced to identifier characters. -/
def reduceNamed : Option (List Char) → List Char
  | none => missingName
  | some w => reduce w

end Nomenclator.Word
