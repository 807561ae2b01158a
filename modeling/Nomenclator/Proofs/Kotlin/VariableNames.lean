import Nomenclator.Proofs.Kotlin.Folding
import Nomenclator.Proofs.Kotlin.Legality
import Nomenclator.Proofs.Word.Reduction

/-!
# Names of variables

A variable is named in one of three ways: a reduced name of capitals and underscores stays as it is,
any other is put in lower camel case, and that is put between backticks where it is reserved or
begins with a digit.

The result is legal as soon as there is a letter or a digit to name the variable by.  A name of
capitals and underscores is then neither reserved nor without substance, and lower camel case begins
with the first letter or digit, a small letter or a digit: a small letter can only be wrong by being
part of a reserved word, a digit is wrong always, and both are met by the backticks.  What is left
are the names of underscores only, which are spelled like constants.

Naming a variable by the name of a variable changes nothing.  Reducing takes away the backticks and
nothing else, lower camel case is its own lower camel case, and it is never spelled like a constant,
so the second time the name goes the same way as the first.
-/

namespace Nomenclator.Kotlin

variable {w : Word}

/-! ## The three ways -/

lemma variableOfWord_of_isConstant (h : isConstant w = true) : variableOfWord w = w := if_pos h

lemma variableOfWord_of_not_isConstant (h : isConstant w = false) :
    variableOfWord w
      = if isReserved (Word.lowerCamel w) || startsWithDigit (Word.lowerCamel w)
        then escape (Word.lowerCamel w) else Word.lowerCamel w := by
  rw [variableOfWord, if_neg (by simp [h])]

lemma isConstant_iff : isConstant w = true ↔ ∀ c ∈ w, c.isUpper = true ∨ c = '_' := by
  simp [isConstant]

lemma exists_solid_of_not_isConstant (h : isConstant w = false) : ∃ c ∈ w, c ≠ '_' := by
  rw [← Bool.not_eq_true, isConstant_iff] at h
  push Not at h
  obtain ⟨c, hc, -, hne⟩ := h
  exact ⟨c, hc, hne⟩

/-- A constant with substance is a name as it stands. -/
lemma isBare_of_isConstant (h : isConstant w = true) (hsolid : ∃ c ∈ w, c ≠ '_') : IsBare w := by
  rw [isConstant_iff] at h
  have hchars : ∀ c ∈ w, Text.isWordChar c = true := by
    intro c hc
    rcases h c hc with hupper | rfl
    · simp [Text.isWordChar, Char.isAlphanum, Char.isAlpha, hupper]
    · decide
  have hdigit : startsWithDigit w = false := by
    rw [← Bool.not_eq_true, startsWithDigit_iff]
    rintro ⟨c, hhead, hdigit⟩
    rcases h c (List.mem_of_head? hhead) with hupper | rfl
    · have halpha : c.isAlpha = true := by rw [Char.isAlpha, hupper, Bool.true_or]
      rw [Word.isDigit_eq_false_of_isAlpha halpha] at hdigit
      exact absurd hdigit (by decide)
    · exact absurd hdigit (by decide)
  obtain ⟨c, hc, hne⟩ := hsolid
  have hlower : c.isLower = false :=
    Bool.not_eq_true _ ▸ Char.not_isLower_of_isUpper ((h c hc).resolve_right hne)
  exact .of_not_startsWithDigit hchars hdigit ⟨c, hc, hne⟩ (isReserved_eq_false hc hlower)

section LowerCamel

variable (hw : ∀ c ∈ w, Text.isWordChar c = true) (h : isConstant w = false)

include hw h

/-- A word that is not spelled like a constant has a letter or a digit, and its lower camel case
begins with a small letter or a digit. -/
lemma exists_head_lowerCamel :
    ∃ c, (Word.lowerCamel w).head? = some c ∧ (c.isLower = true ∨ c.isDigit = true) := by
  obtain ⟨c, hc⟩ := Word.exists_find?_isAlphanum hw (exists_solid_of_not_isConstant h)
  have halnum : c.isAlpha = true ∨ c.isDigit = true := by
    simpa [Char.isAlphanum] using List.find?_some hc
  refine ⟨c.toLower, Word.head?_lowerCamel hw hc, ?_⟩
  rwa [Char.isLower_toLower_eq_isAlpha, Word.isDigit_toLower]

lemma isConstant_lowerCamel : isConstant (Word.lowerCamel w) = false := by
  obtain ⟨c, hhead, hc⟩ := exists_head_lowerCamel hw h
  rw [← Bool.not_eq_true, isConstant_iff]
  intro hconstant
  rcases hconstant c (List.mem_of_head? hhead) with hupper | rfl
  · have halpha : c.isAlpha = true := by rw [Char.isAlpha, hupper, Bool.true_or]
    rcases hc with hlower | hdigit
    · exact Char.not_isLower_of_isUpper hupper hlower
    · rw [Word.isDigit_eq_false_of_isAlpha halpha] at hdigit
      exact absurd hdigit (by decide)
  · exact absurd hc (by decide)

lemma exists_solid_lowerCamel : ∃ c ∈ Word.lowerCamel w, c ≠ '_' := by
  obtain ⟨c, hhead, hc⟩ := exists_head_lowerCamel hw h
  refine ⟨c, List.mem_of_head? hhead, ?_⟩
  rintro rfl
  exact absurd hc (by decide)

/-- Lower camel case is legal, between backticks where it has to be. -/
lemma isLegal_variableOfWord_of_not_isConstant : IsLegal (variableOfWord w) := by
  have hchars := (Word.isCamel_lowerCamel hw).chars
  have hsolid := exists_solid_lowerCamel hw h
  rw [variableOfWord_of_not_isConstant h]
  split <;> rename_i hescape
  · obtain ⟨c, hc, -⟩ := hsolid
    exact Or.inr ⟨_, List.ne_nil_of_mem hc, hchars, rfl⟩
  · rw [Bool.or_eq_true, not_or, Bool.not_eq_true, Bool.not_eq_true] at hescape
    exact Or.inl (.of_not_startsWithDigit hchars hescape.2 hsolid hescape.1)

/-- The name of a variable is named like the variable. -/
lemma variableOfWord_lowerCamel : variableOfWord (Word.lowerCamel w) = variableOfWord w := by
  rw [variableOfWord_of_not_isConstant (isConstant_lowerCamel hw h), Word.lowerCamel_lowerCamel hw,
    variableOfWord_of_not_isConstant h]

end LowerCamel

/-! ## Legality -/

lemma isLegal_variableOfWord_iff (hw : ∀ c ∈ w, Text.isWordChar c = true) :
    IsLegal (variableOfWord w) ↔ ∃ c ∈ w, c ≠ '_' := by
  cases h : isConstant w with
  | true =>
    rw [variableOfWord_of_isConstant h, isLegal_iff_isBare hw]
    exact ⟨IsBare.solid, isBare_of_isConstant h⟩
  | false =>
    exact iff_of_true (isLegal_variableOfWord_of_not_isConstant hw h)
      (exists_solid_of_not_isConstant h)

/-- A name leaves a letter or a digit when it has one, and `$` leaves a word. -/
lemma exists_solid_reduce_iff (name : Word) :
    (∃ c ∈ Word.reduce name, c ≠ '_')
      ↔ (∃ c ∈ name, c.isAlphanum = true) ∨ name = ['$'] := by
  rw [Word.reduce]
  split <;> rename_i hdollar
  · exact iff_of_true ⟨'v', by simp, by decide⟩ (Or.inr hdollar)
  · have hchars : ∀ c ∈ Word.reduceMarks name, Text.isWordChar c = true :=
      fun c hc => (List.mem_filter.mp hc).2
    rw [or_iff_left hdollar, ← Word.exists_isAlphanum_iff hchars]
    constructor
    · rintro ⟨c, hc, halnum⟩
      exact ⟨c, (Word.mem_reduceMarks_iff halnum name).mp hc, halnum⟩
    · rintro ⟨c, hc, halnum⟩
      exact ⟨c, (Word.mem_reduceMarks_iff halnum name).mpr hc, halnum⟩

/-- Which names stand between backticks. -/
lemma exists_variableOfWord_eq_escape_iff (hw : ∀ c ∈ w, Text.isWordChar c = true) :
    (∃ v, variableOfWord w = escape v) ↔ isConstant w = false ∧
      (isReserved (Word.lowerCamel w) = true ∨ startsWithDigit (Word.lowerCamel w) = true) := by
  cases h : isConstant w with
  | true =>
    rw [variableOfWord_of_isConstant h]
    exact iff_of_false (fun ⟨v, hv⟩ => ne_escape hw v hv) (by simp)
  | false =>
    rw [variableOfWord_of_not_isConstant h, ← Bool.or_eq_true]
    split <;> rename_i hescape
    · exact iff_of_true ⟨_, rfl⟩ ⟨rfl, hescape⟩
    · exact iff_of_false (fun ⟨v, hv⟩ => ne_escape (Word.isCamel_lowerCamel hw).chars v hv)
        fun h => hescape h.2

/-- A name without backticks that is not a constant is in lower camel case. -/
lemma variableOfWord_form (hw : ∀ c ∈ w, Text.isWordChar c = true)
    (hbare : ∀ v, variableOfWord w ≠ escape v) (hconstant : isConstant (variableOfWord w) = false) :
    (∃ c, (variableOfWord w).head? = some c ∧ c.isLower = true) ∧
      '_' ∉ (variableOfWord w).dropLast := by
  cases h : isConstant w with
  | true =>
    rw [variableOfWord_of_isConstant h, h] at hconstant
    exact absurd hconstant (by decide)
  | false =>
    have hescape : ¬(isReserved (Word.lowerCamel w) || startsWithDigit (Word.lowerCamel w)) := by
      intro hescape
      exact hbare (Word.lowerCamel w) ((variableOfWord_of_not_isConstant h).trans (if_pos hescape))
    rw [variableOfWord_of_not_isConstant h, if_neg hescape]
    rw [Bool.or_eq_true, not_or, startsWithDigit_iff] at hescape
    obtain ⟨c, hhead, hc⟩ := exists_head_lowerCamel hw h
    have hlower : c.isLower = true := hc.resolve_right fun hdigit => hescape.2 ⟨c, hhead, hdigit⟩
    exact ⟨⟨c, hhead, hlower⟩, (Word.isCamel_lowerCamel hw).inner⟩

/-! ## Names of names -/

/-- The patterns that reducing looks for have characters that no name of a variable has. -/
lemma markReplacements_not_names :
    (Word.markReplacements.all fun pass =>
      pass.1.any fun x => !Text.isWordChar x && x != escapeMark) = true := by
  decide

/-- Reducing a name of a variable takes away its backticks and nothing else. -/
lemma reduce_eq_filter (hw : ∀ c ∈ w, Text.isWordChar c = true ∨ c = escapeMark) :
    Word.reduce w = w.filter Text.isWordChar := by
  have hdollar : w ≠ ['$'] := by
    rintro rfl
    exact absurd (hw '$' List.mem_cons_self) (by decide)
  rw [Word.reduce, if_neg hdollar]
  refine Word.reduceMarks_eq_filter fun pass hpass => ?_
  obtain ⟨x, hx, hnone⟩ :=
    List.any_eq_true.mp (List.all_eq_true.mp markReplacements_not_names pass hpass)
  rw [Bool.and_eq_true, Bool.not_eq_true', bne_iff_ne] at hnone
  refine ⟨x, hx, fun hmem => ?_⟩
  rcases hw x hmem with hword | hmark
  · rw [hword] at hnone
    exact absurd hnone.1 (by decide)
  · exact hnone.2 hmark

lemma reduce_of_isWordChar (hw : ∀ c ∈ w, Text.isWordChar c = true) : Word.reduce w = w := by
  rw [reduce_eq_filter fun c hc => Or.inl (hw c hc), List.filter_eq_self.mpr hw]

lemma reduce_escape (hw : ∀ c ∈ w, Text.isWordChar c = true) : Word.reduce (escape w) = w := by
  have hchars : ∀ c ∈ escape w, Text.isWordChar c = true ∨ c = escapeMark := by
    intro c hc
    exact (mem_escape_iff.mp hc).imp_left (hw c)
  have hmark : ¬Text.isWordChar escapeMark = true := by decide
  rw [reduce_eq_filter hchars, escape, List.cons_append, List.filter_cons_of_neg hmark,
    List.filter_append, List.filter_eq_self.mpr hw, List.filter_cons_of_neg hmark, List.filter_nil,
    List.append_nil]

lemma variableName_variableOfWord (hw : ∀ c ∈ w, Text.isWordChar c = true) :
    Kotlin.variableName (some (variableOfWord w)) = variableOfWord w := by
  rw [Kotlin.variableName, Word.reduceNamed]
  cases h : isConstant w with
  | true =>
    rw [variableOfWord_of_isConstant h, reduce_of_isWordChar hw, variableOfWord_of_isConstant h]
  | false =>
    have hchars := (Word.isCamel_lowerCamel hw).chars
    have hreduced : Word.reduce (variableOfWord w) = Word.lowerCamel w := by
      rw [variableOfWord_of_not_isConstant h]
      split
      · exact reduce_escape hchars
      · exact reduce_of_isWordChar hchars
    rw [hreduced, variableOfWord_lowerCamel hw h]

namespace Generator

lemma toList_variableName (name : String) :
    (variableName (some name)).toList = variableOfWord (Word.reduce name.toList) :=
  String.toList_ofList

/-- The name of a variable is legal exactly when there is a letter or a digit to name it by, or the
name is `$`; otherwise it is made of underscores, if of anything.  Without backticks it is a
constant or in lower camel case, and it has them exactly when lower camel case is reserved or begins
with a digit. -/
theorem isLegal_variableName_iff (name : String) :
    let word := Word.reduce name.toList
    let result := (variableName (some name)).toList
    (IsLegal result ↔ (∃ c ∈ name.toList, c.isAlphanum = true) ∨ name = "$") ∧
    (¬IsLegal result → ∀ c ∈ result, c = '_') ∧
    ((∀ v, result ≠ escape v) → isConstant result = false →
      (∃ c, result.head? = some c ∧ c.isLower = true) ∧ '_' ∉ result.dropLast) ∧
    ((∃ v, result = escape v) ↔ isConstant word = false ∧
      (isReserved (Word.lowerCamel word) = true ∨
        startsWithDigit (Word.lowerCamel word) = true)) := by
  intro word result
  have hw : ∀ c ∈ word, Text.isWordChar c = true :=
    fun c hc => @isWordChar_of_mem_reduceNamed (some name.toList) c hc
  have hresult : result = variableOfWord word := toList_variableName name
  have hdollar : name.toList = ['$'] ↔ name = "$" :=
    ⟨fun h => String.toList_inj.mp h, fun h => congrArg String.toList h⟩
  have hlegal : IsLegal result ↔ ∃ c ∈ word, c ≠ '_' := by
    rw [hresult, isLegal_variableOfWord_iff hw]
  refine ⟨?_, ?_, ?_, ?_⟩
  · rw [hlegal, exists_solid_reduce_iff, hdollar]
  · intro hnot c hc
    rw [hlegal] at hnot
    push Not at hnot
    have hconstant : isConstant word = true :=
      isConstant_iff.mpr fun c hc => Or.inr (hnot c hc)
    rw [hresult, variableOfWord_of_isConstant hconstant] at hc
    exact hnot c hc
  · rw [hresult]
    exact variableOfWord_form hw
  · rw [hresult]
    exact exists_variableOfWord_eq_escape_iff hw

/-- A name that begins with a digit behind its marks, a reserved one, and one that is all marks. -/
theorem isLegal_variableName_iff_digit :
    (variableName (some "[9] lives_") = "\x609Lives_\x60" ∧
      IsLegal (variableName (some "[9] lives_")).toList) ∧
    (variableName (some "In") = "\x60in\x60" ∧ IsLegal (variableName (some "In")).toList) ∧
    (variableName (some "[-]") = "__" ∧ ¬IsLegal (variableName (some "[-]")).toList) := by
  obtain ⟨hlives, -, -, -⟩ := isLegal_variableName_iff "[9] lives_"
  obtain ⟨hin, -, -, -⟩ := isLegal_variableName_iff "In"
  obtain ⟨hmarks, -, -, -⟩ := isLegal_variableName_iff "[-]"
  refine ⟨⟨by decide +kernel, hlives.mpr ?_⟩, ⟨by decide +kernel, hin.mpr ?_⟩,
    ⟨by decide +kernel, hmarks.not.mpr ?_⟩⟩
  · exact Or.inl ⟨'9', by decide +kernel, by decide⟩
  · exact Or.inl ⟨'I', by decide +kernel, by decide⟩
  · rintro (⟨c, hc, halnum⟩ | hdollar)
    · exact absurd (List.any_eq_true.mpr ⟨c, hc, halnum⟩) (by decide +kernel)
    · exact absurd hdollar (by decide)

/-- Naming a variable by the name of a variable changes nothing. -/
theorem variableName_variableName (name : Option String) :
    variableName (some (variableName name)) = variableName name := by
  have hw : ∀ c ∈ Word.reduceNamed (name.map String.toList), Text.isWordChar c = true :=
    fun c hc => isWordChar_of_mem_reduceNamed hc
  have hname : (variableName name).toList
      = variableOfWord (Word.reduceNamed (name.map String.toList)) := String.toList_ofList
  calc variableName (some (variableName name))
      = String.ofList (Kotlin.variableName (some (variableName name).toList)) := rfl
    _ = String.ofList (variableOfWord (Word.reduceNamed (name.map String.toList))) := by
        rw [hname, variableName_variableOfWord hw]
    _ = variableName name := rfl

end Generator

end Nomenclator.Kotlin
