/-!
# Pieces of a text

Replacing, splitting and joining, over lists of characters. `replaceAll` replaces the occurrences of
a pattern from left to right without overlap; what it writes is not looked at again.
-/

namespace Nomenclator.Text

/-- One scan of `replaceAll`: the first `skip` characters belong to an occurrence that has been
replaced already. -/
def replaceFrom (pattern replacement : List Char) : Nat → List Char → List Char
  | _, [] => []
  | skip + 1, _ :: cs => replaceFrom pattern replacement skip cs
  | 0, c :: cs =>
    if pattern.isPrefixOf (c :: cs) then
      replacement ++ replaceFrom pattern replacement (pattern.length - 1) cs
    else c :: replaceFrom pattern replacement 0 cs

/-- Every occurrence of a nonempty pattern replaced, from left to right. -/
def replaceAll (pattern replacement cs : List Char) : List Char :=
  replaceFrom pattern replacement 0 cs

/-- Whether a pattern occurs in a text. -/
def occursIn (pattern : List Char) : List Char → Bool
  | [] => pattern.isEmpty
  | c :: cs => pattern.isPrefixOf (c :: cs) || occursIn pattern cs

/-- The stretches between the separators: one more than there are separators. -/
def segments (separator : Char) : List Char → List (List Char)
  | [] => [[]]
  | c :: cs =>
    if c = separator then [] :: segments separator cs
    else match segments separator cs with
      | [] => [[c]]
      | s :: rest => (c :: s) :: rest

/-- What follows the last separator, or the whole text where there is none. -/
def lastSegment (separator : Char) (cs : List Char) : List Char :=
  (segments separator cs).getLastD []

/-- Line ends of every kind become a single line feed: a carriage return and a line feed together
count as one. -/
def unifyLineEnds : List Char → List Char
  | '\r' :: '\n' :: cs => '\n' :: unifyLineEnds cs
  | '\r' :: cs => '\n' :: unifyLineEnds cs
  | c :: cs => c :: unifyLineEnds cs
  | [] => []

/-- The characters of a plain identifier: ASCII letters and digits, and the underscore. -/
def isWordChar (c : Char) : Bool := c.isAlphanum || c = '_'

end Nomenclator.Text
