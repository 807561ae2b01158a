import Nomenclator.Text.Case
import Nomenclator.Text.Pieces

/-!
# Snake case

`snake` puts underscores at the boundaries inside a word and lowers it. Two passes find the
boundaries, each over ASCII letters and digits only: the first parts a run of capitals from a
capital that starts a lower-case word (`XMLHttp`), the second parts a small letter or a digit from
the capital behind it (`petId`). Dots turn into slashes, dollar signs into two underscores, hyphens
and spaces into one.
-/

namespace Nomenclator.Word

/-- An underscore before the last capital of every run of two or more that a small letter follows.
`run` holds the capitals read so far, last first. -/
def partRuns (run : List Char) : List Char → List Char
  | [] => run.reverse
  | c :: cs =>
    if c.isUpper then partRuns (c :: run) cs
    else
      let before := match run with
        | last :: first :: more =>
          if c.isLower then (first :: more).reverse ++ ['_', last] else run.reverse
        | _ => run.reverse
      before ++ c :: partRuns [] cs

/-- An underscore between a small letter or a digit and the capital behind it. -/
def partCapitals : List Char → List Char
  | a :: b :: cs =>
    if (a.isLower || a.isDigit) && b.isUpper then a :: '_' :: b :: partCapitals cs
    else a :: partCapitals (b :: cs)
  | cs => cs

/-- Dots turn into slashes and dollar signs into two underscores. -/
def openSigns (w : List Char) : List Char :=
  w.flatMap fun c => if c = '.' then ['/'] else if c = '$' then ['_', '_'] else [c]

/-- Hyphens and spaces turn into underscores. -/
def joinWords (w : List Char) : List Char :=
  w.map fun c => if c = '-' ∨ c = ' ' then '_' else c

/-- The word in snake case. -/
def snake (w : List Char) : List Char :=
  Text.lower (joinWords (partCapitals (partRuns [] (openSigns w))))

end Nomenclator.Word
