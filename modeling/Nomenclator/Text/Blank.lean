import Nomenclator.Text.CaseTable

/-!
# Blank lines

A line is blank when it holds white space only. White space is every character of the Unicode class
and the four information separators of ASCII.
-/

namespace Nomenclator.Text

/-- The white space characters. -/
def blankRanges : List CodeRange :=
  [⟨0x9, 0xd⟩, ⟨0x1c, 0x20⟩, ⟨0x85, 0x85⟩, ⟨0xa0, 0xa0⟩, ⟨0x1680, 0x1680⟩, ⟨0x2000, 0x200a⟩,
   ⟨0x2028, 0x2029⟩, ⟨0x202f, 0x202f⟩, ⟨0x205f, 0x205f⟩, ⟨0x3000, 0x3000⟩]

/-- Whether a character is white space. -/
def isBlankChar (c : Char) : Bool :=
  blankRanges.any fun r => r.first ≤ c.toNat && c.toNat ≤ r.last

/-- Whether a line holds nothing but white space. -/
def isBlank (cs : List Char) : Bool := cs.all isBlankChar

end Nomenclator.Text
