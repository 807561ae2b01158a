import Nomenclator.Text.CaseTable

/-!
# Upper and lower case of a text

`upper` and `lower` are the full case mappings of Unicode: a character may map to several (`ß` to
`SS`), and a capital sigma is lowered by its surroundings. ASCII characters are mapped without the
tables.

A capital sigma takes its final form when the nearest character before it that counts is cased and
the nearest one after it that counts is not; the ignorable characters do not count.
-/

namespace Nomenclator.Text

/-- The image of a code point under one run. -/
def CaseRun.image? (r : CaseRun) (n : Nat) : Option Nat :=
  if r.first ≤ n ∧ n ≤ r.last ∧ (n - r.first) % r.step = 0 then some (r.target + (n - r.first))
  else none

/-- The image of a character beyond ASCII under the expansions first and the runs second; a
character that neither mentions is its own image. -/
def mapCase (expansions : List (Nat × List Nat)) (runs : List CaseRun) (c : Char) : List Char :=
  match expansions.lookup c.toNat with
  | some ns => ns.map Char.ofNat
  | none =>
    match runs.findSome? (·.image? c.toNat) with
    | some n => [Char.ofNat n]
    | none => [c]

/-- The capital form of a character. -/
def upperChar (c : Char) : List Char :=
  if c.toNat < 128 then [c.toUpper] else mapCase upperExpansions upperRuns c

/-- The small form of a character that stands alone. -/
def lowerChar (c : Char) : List Char :=
  if c.toNat < 128 then [c.toLower] else mapCase lowerExpansions lowerRuns c

/-- Whether a code point lies in one of the ranges. -/
def inRanges (ranges : List CodeRange) (n : Nat) : Bool :=
  ranges.any fun r => r.first ≤ n && n ≤ r.last

/-- Whether a character is passed over when the neighbours of a sigma are looked for. -/
def isIgnorable (c : Char) : Bool := inRanges ignorableRanges c.toNat

/-- Whether a character has a case. -/
def isCased (c : Char) : Bool :=
  if c.toNat < 128 then c.isAlpha else inRanges casedRanges c.toNat

/-- Whether the first character that counts is cased. -/
def leadsCased (cs : List Char) : Bool :=
  match cs.dropWhile isIgnorable with
  | [] => false
  | c :: _ => isCased c

/-- The capital form of a text. -/
def upper (cs : List Char) : List Char := cs.flatMap upperChar

/-- The small form of a text whose part before it ended in a cased character, or not. -/
def lowerAfter (afterCased : Bool) : List Char → List Char
  | [] => []
  | c :: cs =>
    let small :=
      if c = 'Σ' then (if afterCased && !leadsCased cs then ['ς'] else ['σ']) else lowerChar c
    small ++ lowerAfter (if isIgnorable c then afterCased else isCased c) cs

/-- The small form of a text. -/
def lower (cs : List Char) : List Char := lowerAfter false cs

end Nomenclator.Text
