import Nomenclator.Text.DecompositionTable
import Nomenclator.Text.Digit
import Nomenclator.Text.Pieces

/-!
# Decomposing characters

Characters that look or read alike can stand for the same letter: `ﬁ` for `fi`, `ª` for `a`, a
letter with an accent for the letter followed by the accent. `decompose` brings a text into the form
without such variants, so that two texts are variants of each other when their decompositions agree.

A syllable of Hangul is decomposed by its place in the block of the syllables; all others come from
a table. Marks stay in the order in which they are written.
-/

namespace Nomenclator.Text

/-! ## The table -/

/-- Consecutive characters with decompositions that differ in the first character alone. -/
structure DecompositionRun where
  first : Nat
  /-- How many characters follow the first one. -/
  more : Nat
  /-- The decomposition of the first character. -/
  image : List Nat

/-- The run that an entry of the table describes. -/
def DecompositionRun.ofEntry (cs : List Char) : DecompositionRun :=
  let number (digits : List Char) : Nat := (hexNumber? digits).getD 0
  let codes := cs.takeWhile (· ≠ ':')
  { first := number (codes.takeWhile (· ≠ '+'))
    more := number ((codes.dropWhile (· ≠ '+')).drop 1)
    image := (segments '.' (cs.drop (codes.length + 1))).map number }

/-- The runs, by ascending codes. -/
def decompositionRuns : Array DecompositionRun :=
  (decompositionLines.flatMap fun line =>
    (segments ' ' line.toList).map DecompositionRun.ofEntry).toArray

/-- The last run that begins at or before a code, of those between two places; `fuel` bounds the
number of halvings. -/
def runBefore? (runs : Array DecompositionRun) (n : Nat) :
    Nat → Nat → Nat → Option DecompositionRun
  | 0, low, _ => runs[low]?
  | fuel + 1, low, high =>
    if high ≤ low + 1 then runs[low]?
    else
      let middle := (low + high) / 2
      match runs[middle]? with
      | some r =>
        if r.first ≤ n then runBefore? runs n fuel middle high
        else runBefore? runs n fuel low middle
      | none => none

/-- The decomposition that the table has for a character. -/
def tabledDecomposition? (n : Nat) : Option (List Nat) :=
  match runBefore? decompositionRuns n decompositionRuns.size 0 decompositionRuns.size with
  | some r =>
    if r.first ≤ n && n ≤ r.first + r.more then
      match r.image with
      | head :: rest => some ((head + (n - r.first)) :: rest)
      | [] => none
    else none
  | none => none

/-! ## Syllables of Hangul -/

/-- The first syllable. -/
def firstSyllable : Nat := 0xac00

/-- How many syllables there are. -/
def syllableCount : Nat := 11172

/-- The letters of a syllable: a leading consonant, a vowel and perhaps a trailing consonant. -/
def syllableLetters (n : Nat) : List Nat :=
  let place := n - firstSyllable
  let trailing := place % 28
  [0x1100 + place / 588, 0x1161 + place % 588 / 28]
    ++ if trailing = 0 then [] else [0x11a7 + trailing]

/-! ## Decomposing -/

/-- The decomposition of a character, which is the character alone if it has none. -/
def decomposeChar (c : Char) : List Char :=
  let n := c.toNat
  if n < 128 then [c]
  else if firstSyllable ≤ n && n < firstSyllable + syllableCount then
    (syllableLetters n).map Char.ofNat
  else
    match tabledDecomposition? n with
    | some ns => ns.map Char.ofNat
    | none => [c]

/-- The decomposition of a text. -/
def decompose (cs : List Char) : List Char := cs.flatMap decomposeChar

end Nomenclator.Text
