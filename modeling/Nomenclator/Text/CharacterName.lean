import Nomenclator.Text.CharacterName.Aliases
import Nomenclator.Text.CharacterName.Alphabets
import Nomenclator.Text.CharacterName.Forms
import Nomenclator.Text.CharacterName.Pictures
import Nomenclator.Text.CharacterName.Scripts
import Nomenclator.Text.CharacterName.Signs
import Nomenclator.Text.CharacterName.Symbols
import Nomenclator.Text.Digit
import Nomenclator.Text.Pieces

/-!
# Characters by their names

Unicode gives every character a name of words in capital letters, and some characters further ones.
`namedChar?` finds the character of a name: ideographs and syllables of Hangul by a rule, the others
in tables, where small letters are as good as capital ones.
-/

namespace Nomenclator.Text

/-! ## Tables -/

/-- The tables of names. -/
def nameTables : List (List String) :=
  [alphabetNames, signNames, pictureNames, symbolNames, scriptNames, formNames, aliasNames]

/-- The code and the words of an entry, from those of the entry before. -/
def readNameEntry (before : Nat × List (List Char)) (entry : List Char) :
    Nat × List (List Char) :=
  let place := entry.takeWhile (· ≠ ':')
  let (code, named) :=
    if place.length = entry.length then (before.1 + 1, entry)
    else ((hexNumber? place).getD 0, entry.drop (place.length + 1))
  match named with
  | shared :: words =>
    let kept := before.2.take ((digitValue? shared).getD 0)
    (code, kept ++ if words.isEmpty then [] else segments ' ' words)
  | [] => (code, [])

/-- The code of the name that has the given words, among entries behind a given one. -/
def codeAmong? (target : List (List Char)) :
    Nat × List (List Char) → List (List Char) → Option Nat
  | _, [] => none
  | before, entry :: rest =>
    let found := readNameEntry before entry
    if found.2 = target then some found.1 else codeAmong? target found rest

/-- The code of a name in the tables. -/
def tabledCode? (name : List Char) : Option Nat :=
  let target := segments ' ' (name.map Char.toUpper)
  nameTables.findSome? fun lines =>
    codeAmong? target (0, []) (lines.flatMap fun line => segments ';' line.toList)

/-! ## Ideographs -/

/-- The unified ideographs. -/
def ideographRanges : List (Nat × Nat) :=
  [(0x3400, 0x4dbf), (0x4e00, 0x9fff), (0x20000, 0x2a6df), (0x2a700, 0x2b738), (0x2b740, 0x2b81d),
   (0x2b820, 0x2cea1), (0x2ceb0, 0x2ebe0), (0x30000, 0x3134a)]

/-- The ideographs that are kept for compatibility. -/
def formerIdeographRanges : List (Nat × Nat) :=
  [(0xf900, 0xfa6d), (0xfa70, 0xfad9), (0x2f800, 0x2fa1d)]

/-- The code that is written at the end of a name, if it lies in one of the ranges. -/
def codeWithin? (ranges : List (Nat × Nat)) (digits : List Char) : Option Nat :=
  if digits.length = 4 || digits.length = 5 then
    (hexNumber? digits).filter fun n => ranges.any fun range => range.1 ≤ n && n ≤ range.2
  else none

/-! ## Syllables of Hangul -/

/-- The names of the leading consonants of syllables. -/
def leadingNames : List String :=
  ["G", "GG", "N", "D", "DD", "R", "M", "B", "BB", "S", "SS", "", "J", "JJ", "C", "K", "T", "P",
   "H"]

/-- The names of the vowels of syllables. -/
def vowelNames : List String :=
  ["A", "AE", "YA", "YAE", "EO", "E", "YEO", "YE", "O", "WA", "WAE", "OE", "YO", "U", "WEO", "WE",
   "WI", "YU", "EU", "YI", "I"]

/-- The names of the trailing consonants of syllables. -/
def trailingNames : List String :=
  ["", "G", "GG", "GS", "N", "NJ", "NH", "D", "L", "LG", "LM", "LB", "LS", "LT", "LP", "LH", "M",
   "B", "BS", "S", "SS", "NG", "J", "C", "K", "T", "P", "H"]

/-- The place of the longest name that a text begins with, and what follows it in the text. -/
def longestName? (names : List String) (cs : List Char) : Option (Nat × List Char) :=
  names.zipIdx.foldl (fun best entry =>
    let rest := cs.drop entry.1.length
    let isLonger := match best with
      | some (_, kept) => rest.length < kept.length
      | none => true
    if entry.1.toList.isPrefixOf cs && isLonger then some (entry.2, rest) else best) none

/-- The code of the syllable that is written by the names of its letters. -/
def syllableCode? (cs : List Char) : Option Nat := do
  let (leading, cs) ← longestName? leadingNames cs
  let (vowel, cs) ← longestName? vowelNames cs
  let (trailing, cs) ← longestName? trailingNames cs
  if cs.isEmpty then some (0xac00 + (leading * 21 + vowel) * 28 + trailing) else none

/-! ## Names -/

/-- What follows the beginning of a text, where the text begins so. -/
def behind? (beginning : String) (cs : List Char) : Option (List Char) :=
  if beginning.toList.isPrefixOf cs then some (cs.drop beginning.length) else none

/-- The character of a name. The names that follow a rule are in capital letters. -/
def namedChar? (name : List Char) : Option Char :=
  let code? :=
    match behind? "HANGUL SYLLABLE " name, behind? "CJK UNIFIED IDEOGRAPH-" name with
    | some letters, _ => syllableCode? letters
    | none, some digits =>
      if digits.any Char.isLower then none else codeWithin? ideographRanges digits
    | none, none =>
      match behind? "CJK COMPATIBILITY IDEOGRAPH-" (name.map Char.toUpper) with
      | some digits => codeWithin? formerIdeographRanges digits
      | none => tabledCode? name
  code?.map Char.ofNat

end Nomenclator.Text
