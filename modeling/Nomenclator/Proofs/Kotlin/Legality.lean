import Nomenclator.Kotlin.Identifier
import Nomenclator.Proofs.Word.CamelCase

/-!
# Legal names

A word can be used as a name as it stands, or between backticks.  As it stands it has to begin with
a letter or an underscore, go on with letters, digits and underscores, be more than underscores, and
not be reserved.  Between backticks anything but the empty word will do that is made of these
characters.

Every reserved word is in small letters.  So a word with a capital, a digit or an underscore in it
is free, which spares most words the look-up.
-/

namespace Nomenclator.Kotlin

variable {w : Word} {c : Char}

/-- A word that is a name as it stands. -/
structure IsBare (w : Word) : Prop where
  begins : ∃ c, w.head? = some c ∧ (c.isAlpha = true ∨ c = '_')
  chars : ∀ c ∈ w, Text.isWordChar c = true
  solid : ∃ c ∈ w, c ≠ '_'
  free : isReserved w = false

/-- A word of identifier characters between backticks. -/
def IsQuoted (w : Word) : Prop :=
  ∃ v, v ≠ [] ∧ (∀ c ∈ v, Text.isWordChar c = true) ∧ w = escape v

/-- A name that a declaration can use. -/
def IsLegal (w : Word) : Prop := IsBare w ∨ IsQuoted w

/-! ## Reserved words -/

lemma mem_reservedWords (h : isReserved w = true) : String.ofList w ∈ reservedWords := by
  simpa [isReserved, isReservedIn] using h

lemma all_isLower_reservedWords :
    (reservedWords.all fun word => word.toList.all Char.isLower) = true := by
  decide +kernel

lemma isLower_of_isReserved (h : isReserved w = true) (hc : c ∈ w) : c.isLower = true := by
  have hword := List.all_eq_true.mp all_isLower_reservedWords _ (mem_reservedWords h)
  rw [String.toList_ofList] at hword
  exact List.all_eq_true.mp hword c hc

lemma isReserved_eq_false (hc : c ∈ w) (hlower : c.isLower = false) : isReserved w = false := by
  rw [← Bool.not_eq_true]
  intro hreserved
  rw [isLower_of_isReserved hreserved hc] at hlower
  exact absurd hlower (by decide)

lemma isWordChar_of_isReserved (h : isReserved w = true) : ∀ c ∈ w, Text.isWordChar c = true := by
  intro c hc
  have hlower : c.isLower = true := isLower_of_isReserved h hc
  simp [Text.isWordChar, Char.isAlphanum, Char.isAlpha, hlower]

/-! ## Beginnings -/

lemma startsWithDigit_iff :
    startsWithDigit w = true ↔ ∃ c, w.head? = some c ∧ c.isDigit = true := by
  cases w with
  | nil => simp [startsWithDigit]
  | cons c w => simp [startsWithDigit]

/-- Of identifier characters only digits cannot begin a name. -/
lemma IsBare.of_not_startsWithDigit (hchars : ∀ c ∈ w, Text.isWordChar c = true)
    (hdigit : startsWithDigit w = false) (hsolid : ∃ c ∈ w, c ≠ '_')
    (hfree : isReserved w = false) : IsBare w := by
  refine ⟨?_, hchars, hsolid, hfree⟩
  cases w with
  | nil => exact absurd hsolid (by simp)
  | cons c w =>
    have hc : Text.isWordChar c = true := hchars c List.mem_cons_self
    rw [startsWithDigit] at hdigit
    rw [Text.isWordChar, Char.isAlphanum, hdigit, Bool.or_false, Bool.or_eq_true,
      decide_eq_true_eq] at hc
    exact ⟨c, rfl, hc⟩

lemma IsBare.startsWithDigit_eq_false (h : IsBare w) : startsWithDigit w = false := by
  obtain ⟨c, hhead, hc⟩ := h.begins
  rw [← Bool.not_eq_true, startsWithDigit_iff]
  rintro ⟨x, hx, hdigit⟩
  obtain rfl : c = x := Option.some.inj (hhead.symm.trans hx)
  rcases hc with halpha | rfl
  · rw [Word.isDigit_eq_false_of_isAlpha halpha] at hdigit
    exact absurd hdigit (by decide)
  · exact absurd hdigit (by decide)

/-! ## Backticks -/

lemma mem_escape_iff : c ∈ escape w ↔ c ∈ w ∨ c = escapeMark := by
  rw [escape, List.cons_append, List.mem_cons, List.mem_append, List.mem_singleton]
  tauto

/-- A word of identifier characters has no backticks around it. -/
lemma ne_escape (hw : ∀ c ∈ w, Text.isWordChar c = true) (v : Word) : w ≠ escape v := by
  rintro rfl
  exact absurd (hw escapeMark List.mem_cons_self) (by decide)

lemma unescape_escape (w : Word) : unescape (escape w) = w := by
  simp [escape, unescape]

lemma isEscaped_escape (w : Word) : isEscaped (escape w) = true := by
  have hlength : (escape w).length = w.length + 2 := by simp [escape]
  rw [isEscaped, unescape_escape, bne_iff_ne]
  intro heq
  rw [← heq] at hlength
  omega

lemma isEscaped_of_isWordChar (hw : ∀ c ∈ w, Text.isWordChar c = true) : isEscaped w = false := by
  cases w with
  | nil => rfl
  | cons c w =>
    have hc : c ≠ escapeMark := by
      rintro rfl
      exact absurd (hw escapeMark List.mem_cons_self) (by decide)
    simp [isEscaped, unescape, hc]

lemma isLegal_iff_isBare (hw : ∀ c ∈ w, Text.isWordChar c = true) : IsLegal w ↔ IsBare w := by
  refine or_iff_left ?_
  rintro ⟨v, -, -, hv⟩
  exact ne_escape hw v hv

end Nomenclator.Kotlin
