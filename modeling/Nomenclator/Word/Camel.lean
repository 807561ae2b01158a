import Nomenclator.Text.Pieces
import Nomenclator.Word.Capital

/-!
# Camel case

`upperCamel` joins the parts of a word and raises the first letter of each; `lowerCamel` lowers the
first letter of the result. It proceeds in four steps:

* slashes and dots separate parts; empty parts vanish, every other one is capitalized;
* the first ASCII letter, digit or underscore of the joined parts is raised;
* an underscore in front of a character is dissolved into it, then the same for hyphens;
* for `lowerCamel`, the first character is lowered.

Dissolving takes the leftmost mark it can and starts over after every step, and its two marks
differ. A hyphen and the character behind it become the capital form of that character. So do an
underscore and the character behind it when the capital form is another text; when it is the same
character, it is the *first* underscore of the word that vanishes, which need not be the one that
was found: an underscore at the end of a line is not followed by a character of its line and is
never found itself. Every step takes one mark away, so the number of marks bounds the steps.
-/

namespace Nomenclator.Word

/-- The nonempty parts of a word between slashes and dots. -/
def parts (w : Word) : List Word :=
  (Text.segments '.' (w.map fun c => if c = '/' then '.' else c)).filter fun part => !part.isEmpty

/-- The parts of a word, capitalized and put together. -/
def joinParts (w : Word) : Word := (parts w).flatMap capitalize

/-- The word with its first ASCII letter, digit or underscore raised. -/
def raiseFirst : Word → Word
  | [] => []
  | c :: cs => if Text.isWordChar c then c.toUpper :: cs else c :: raiseFirst cs

/-- The first occurrence of a mark that a character of the same line follows: what stands before the
mark, the character, and what stands behind it. -/
def findMark (mark : Char) : Word → Option (Word × Char × Word)
  | m :: c :: rest =>
    if m = mark ∧ c ≠ '\n' then some ([], c, rest)
    else (findMark mark (c :: rest)).map fun (before, x, after) => (m :: before, x, after)
  | _ => none

/-- One dissolving step for underscores, `none` when no underscore has a character behind it. -/
def dissolveUnderscore (w : Word) : Option Word :=
  (findMark '_' w).map fun (before, c, after) =>
    if Text.upperChar c = [c] then w.erase '_' else before ++ Text.upperChar c ++ after

/-- One dissolving step for hyphens, `none` when no hyphen has a character behind it. -/
def dissolveHyphen (w : Word) : Option Word :=
  (findMark '-' w).map fun (before, c, after) => before ++ Text.upperChar c ++ after

/-- Steps taken from a word as long as there is one, at most `bound` of them. -/
def exhaust (step : Word → Option Word) : Nat → Word → Word
  | 0, w => w
  | bound + 1, w =>
    match step w with
    | none => w
    | some next => exhaust step bound next

/-- The word after all its underscores that can be dissolved have been. -/
def withoutUnderscores (w : Word) : Word := exhaust dissolveUnderscore (w.count '_') w

/-- The word after all its hyphens that can be dissolved have been. -/
def withoutHyphens (w : Word) : Word := exhaust dissolveHyphen (w.count '-') w

/-- The word in camel case with a capital first letter. -/
def upperCamel (w : Word) : Word := withoutHyphens (withoutUnderscores (raiseFirst (joinParts w)))

/-- The word in camel case with a small first letter. -/
def lowerCamel (w : Word) : Word := decapitalize (upperCamel w)

end Nomenclator.Word
