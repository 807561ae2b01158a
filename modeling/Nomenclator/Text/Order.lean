/-!
# Sorted texts

Texts in the order of their code points, each of them once. `sortedSet` gives the members of a list
in this form; the order and the repetitions of the list leave no trace in the result.
-/

namespace Nomenclator.Text

/-- A text put at its place in a sorted list, unless it stands there already. -/
def insertSorted (s : String) : List String → List String
  | [] => [s]
  | t :: rest =>
    if s < t then s :: t :: rest
    else if s = t then t :: rest
    else t :: insertSorted s rest

/-- The members of a list in order, each of them once. -/
def sortedSet (texts : List String) : List String := texts.foldr insertSorted []

end Nomenclator.Text
