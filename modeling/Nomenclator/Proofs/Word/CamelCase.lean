import Nomenclator.Proofs.Word.ClosingUp

/-!
# Camel case of identifier characters

A word of ASCII letters, digits and underscores has no parts and no line ends, so camel case of it
is one pass: its underscores are closed up, as if one stood in front of the word.  What comes out is
in `IsCamel` form, letters and digits with an underscore at most behind them, and begins with the
first letter or digit of the word.  So an underscore in front of a word makes no difference, not
even one that keeps a digit away from the beginning.

A word that has the form already changes by its first letter only.
-/

namespace Nomenclator.Word

variable {w : Word} {c : Char}

/-! ## Identifier characters -/

lemma isDigit_eq_false_of_isAlpha (hc : c.isAlpha = true) : c.isDigit = false := by
  simp [Char.isAlpha, Char.isUpper, Char.isLower, Char.isDigit, UInt32.le_iff_toNat_le] at hc ⊢
  omega

lemma isDigit_toUpper (c : Char) : c.toUpper.isDigit = c.isDigit := by
  by_cases hc : c.isAlpha = true
  · rw [isDigit_eq_false_of_isAlpha hc, isDigit_eq_false_of_isAlpha (by simpa using hc)]
  · have hlower : ¬c.isLower := fun hlower => hc (by simp [Char.isAlpha, hlower])
    rw [Char.toUpper_eq_of_not_isLower hlower]

lemma isDigit_toLower (c : Char) : c.toLower.isDigit = c.isDigit := by
  rw [← isDigit_toUpper c.toLower, Char.toUpper_toLower_eq_toUpper, isDigit_toUpper]

lemma isWordChar_of_isAlphanum (hc : c.isAlphanum = true) : Text.isWordChar c = true := by
  rw [Text.isWordChar, hc, Bool.true_or]

lemma isAlphanum_iff (hc : Text.isWordChar c = true) : c.isAlphanum = true ↔ c ≠ '_' := by
  rw [Text.isWordChar, Bool.or_eq_true, decide_eq_true_eq] at hc
  constructor
  · rintro halnum rfl
    exact absurd halnum (by decide)
  · exact hc.resolve_right

lemma isAlphanum_toUpper (c : Char) : c.toUpper.isAlphanum = c.isAlphanum := by
  rw [Char.isAlphanum, Char.isAlpha_toUpper_eq_isAlpha, isDigit_toUpper, Char.isAlphanum]

lemma isAlphanum_toLower (c : Char) : c.toLower.isAlphanum = c.isAlphanum := by
  rw [Char.isAlphanum, Char.isAlpha_toLower_eq_isAlpha, isDigit_toLower, Char.isAlphanum]

lemma isWordChar_toUpper (hc : Text.isWordChar c = true) : Text.isWordChar c.toUpper = true := by
  by_cases halnum : c.isAlphanum = true
  · exact isWordChar_of_isAlphanum ((isAlphanum_toUpper c).trans halnum)
  · obtain rfl : c = '_' := not_not.mp ((isAlphanum_iff hc).not.mp halnum)
    decide

lemma isWordChar_toLower (hc : Text.isWordChar c = true) : Text.isWordChar c.toLower = true := by
  by_cases halnum : c.isAlphanum = true
  · exact isWordChar_of_isAlphanum ((isAlphanum_toLower c).trans halnum)
  · obtain rfl : c = '_' := not_not.mp ((isAlphanum_iff hc).not.mp halnum)
    decide

/-- A word of identifier characters has none of the other characters. -/
lemma not_mem_of_isWordChar {x : Char} (hw : ∀ c ∈ w, Text.isWordChar c = true)
    (hx : Text.isWordChar x = false) : x ∉ w := by
  intro hmem
  rw [hw x hmem] at hx
  exact absurd hx (by decide)

/-- What is left of a word of identifier characters without underscores are letters and digits. -/
lemma exists_isAlphanum_iff (hw : ∀ c ∈ w, Text.isWordChar c = true) :
    (∃ c ∈ w, c.isAlphanum = true) ↔ ∃ c ∈ w, c ≠ '_' :=
  ⟨fun ⟨c, hc, halnum⟩ => ⟨c, hc, (isAlphanum_iff (hw c hc)).mp halnum⟩,
    fun ⟨c, hc, hne⟩ => ⟨c, hc, (isAlphanum_iff (hw c hc)).mpr hne⟩⟩

lemma exists_find?_isAlphanum (hw : ∀ c ∈ w, Text.isWordChar c = true) (h : ∃ c ∈ w, c ≠ '_') :
    ∃ c, w.find? Char.isAlphanum = some c :=
  Option.isSome_iff_exists.mp (List.find?_isSome.mpr ((exists_isAlphanum_iff hw).mpr h))

lemma capitalize_cons (hc : Text.isWordChar c = true) (w : Word) :
    capitalize (c :: w) = c.toUpper :: w := by
  rw [capitalize, Text.upperChar_of_ascii (ascii_of_isWordChar hc), List.singleton_append]

lemma decapitalize_cons (hc : Text.isWordChar c = true) (w : Word) :
    decapitalize (c :: w) = c.toLower :: w := by
  rw [decapitalize, Text.lowerChar_of_ascii (ascii_of_isWordChar hc), List.singleton_append]

lemma isWordChar_of_mem_capitalize (hw : ∀ c ∈ w, Text.isWordChar c = true) :
    ∀ c ∈ capitalize w, Text.isWordChar c = true := by
  cases w with
  | nil => exact hw
  | cons c w =>
    rw [List.forall_mem_cons] at hw
    rw [capitalize_cons hw.1, List.forall_mem_cons]
    exact ⟨isWordChar_toUpper hw.1, hw.2⟩

lemma capitalize_capitalize (hw : ∀ c ∈ w, Text.isWordChar c = true) :
    capitalize (capitalize w) = capitalize w := by
  cases w with
  | nil => rfl
  | cons c w =>
    have hc : Text.isWordChar c = true := hw c List.mem_cons_self
    rw [capitalize_cons hc, capitalize_cons (isWordChar_toUpper hc),
      Char.toUpper_toUpper_eq_toUpper]

lemma decapitalize_capitalize (hw : ∀ c ∈ w, Text.isWordChar c = true) :
    decapitalize (capitalize w) = decapitalize w := by
  cases w with
  | nil => rfl
  | cons c w =>
    have hc : Text.isWordChar c = true := hw c List.mem_cons_self
    rw [capitalize_cons hc, decapitalize_cons (isWordChar_toUpper hc), decapitalize_cons hc,
      Char.toLower_toUpper_eq_toLower]

lemma decapitalize_decapitalize (hw : ∀ c ∈ w, Text.isWordChar c = true) :
    decapitalize (decapitalize w) = decapitalize w := by
  cases w with
  | nil => rfl
  | cons c w =>
    have hc : Text.isWordChar c = true := hw c List.mem_cons_self
    rw [decapitalize_cons hc, decapitalize_cons (isWordChar_toLower hc),
      Char.toLower_toLower_eq_toLower]

lemma head?_capitalize (hw : ∀ c ∈ w, Text.isWordChar c = true) :
    (capitalize w).head? = w.head?.map Char.toUpper := by
  cases w with
  | nil => rfl
  | cons c w =>
    rw [capitalize_cons (hw c List.mem_cons_self)]
    rfl

lemma head?_decapitalize (hw : ∀ c ∈ w, Text.isWordChar c = true) :
    (decapitalize w).head? = w.head?.map Char.toLower := by
  cases w with
  | nil => rfl
  | cons c w =>
    rw [decapitalize_cons (hw c List.mem_cons_self)]
    rfl

lemma capitalize_of_head? (hw : ∀ c ∈ w, Text.isWordChar c = true)
    (h : ∀ c ∈ w.head?, c.isLower = false) : capitalize w = w := by
  cases w with
  | nil => rfl
  | cons c w =>
    have hc : ¬c.isLower = true := Bool.eq_false_iff.mp (h c rfl)
    rw [capitalize_cons (hw c List.mem_cons_self), Char.toUpper_eq_of_not_isLower hc]

lemma decapitalize_of_head? (hw : ∀ c ∈ w, Text.isWordChar c = true)
    (h : ∀ c ∈ w.head?, c.isUpper = false) : decapitalize w = w := by
  cases w with
  | nil => rfl
  | cons c w =>
    have hc : ¬c.isUpper = true := Bool.eq_false_iff.mp (h c rfl)
    rw [decapitalize_cons (hw c List.mem_cons_self), Char.toLower_eq_of_not_isUpper hc]

/-! ## One pass -/

/-- The first letter is capital already when the first identifier character is to be raised. -/
lemma raiseFirst_capitalize (hw : ∀ c ∈ w, Text.isWordChar c = true) :
    raiseFirst (capitalize w) = capitalize w := by
  cases w with
  | nil => rfl
  | cons c w =>
    have hc : Text.isWordChar c = true := hw c List.mem_cons_self
    rw [capitalize_cons hc, raiseFirst, if_pos (isWordChar_toUpper hc),
      Char.toUpper_toUpper_eq_toUpper]

lemma upperCamel_eq_closeUp (hw : ∀ c ∈ w, Text.isWordChar c = true) :
    upperCamel w = closeUp '_' false (capitalize w) := by
  have hchars := isWordChar_of_mem_capitalize hw
  have hhyphen : '-' ∉ closeUp '_' false (capitalize w) := fun hmem =>
    not_mem_of_isWordChar hchars (by decide) (mem_of_mem_closeUp (by decide) (by decide) hmem)
  rw [upperCamel, joinParts_of_not_mem (not_mem_of_isWordChar hw (by decide))
    (not_mem_of_isWordChar hw (by decide)), raiseFirst_capitalize hw,
    withoutUnderscores_eq_closeUp (not_mem_of_isWordChar hchars (by decide)),
    withoutHyphens_of_not_mem hhyphen]

/-- The first letter or digit is raised like one behind an underscore. -/
lemma upperCamel_eq_pending (hw : ∀ c ∈ w, Text.isWordChar c = true) (hne : w ≠ []) :
    upperCamel w = closeUp '_' true w := by
  obtain ⟨c, w, rfl⟩ := List.exists_cons_of_ne_nil hne
  have hc : Text.isWordChar c = true := hw c List.mem_cons_self
  rw [upperCamel_eq_closeUp hw, capitalize_cons hc]
  by_cases hmark : c = '_'
  · subst hmark
    rw [closeUp_mark]
    exact closeUp_mark false w
  · have hraised : c.toUpper ≠ '_' := (Text.toUpper_eq_iff (by decide)).not.mpr hmark
    rw [closeUp_cons hraised, closeUp_pending hmark,
      Text.upperChar_of_ascii (ascii_of_isWordChar hc), List.singleton_append]

/-- An underscore in front of a word makes no difference. -/
lemma upperCamel_underscore (hw : ∀ c ∈ w, Text.isWordChar c = true) (hne : w ≠ []) :
    upperCamel ('_' :: w) = upperCamel w := by
  have hw' : ∀ c ∈ '_' :: w, Text.isWordChar c = true :=
    List.forall_mem_cons.mpr ⟨by decide, hw⟩
  rw [upperCamel_eq_pending hw' (List.cons_ne_nil _ _), closeUp_mark, upperCamel_eq_pending hw hne]

lemma capitalize_upperCamel (hw : ∀ c ∈ w, Text.isWordChar c = true) :
    capitalize (upperCamel w) = upperCamel w := by
  by_cases hne : w = []
  · subst hne
    rfl
  · rw [upperCamel_eq_pending hw hne]
    clear hne
    induction w with
    | nil => rfl
    | cons c w ih =>
      rw [List.forall_mem_cons] at hw
      by_cases hc : c = '_'
      · subst hc
        rw [closeUp_mark]
        exact ih hw.2
      · rw [closeUp_pending hc, Text.upperChar_of_ascii (ascii_of_isWordChar hw.1),
          List.singleton_append, capitalize_cons (isWordChar_toUpper hw.1),
          Char.toUpper_toUpper_eq_toUpper]

/-- Raising the first letter beforehand makes no difference. -/
lemma upperCamel_capitalize (hw : ∀ c ∈ w, Text.isWordChar c = true) :
    upperCamel (capitalize w) = upperCamel w := by
  rw [upperCamel_eq_closeUp (isWordChar_of_mem_capitalize hw), capitalize_capitalize hw,
    upperCamel_eq_closeUp hw]

/-- The result begins with the first letter or digit of the word. -/
lemma head?_upperCamel (hw : ∀ c ∈ w, Text.isWordChar c = true)
    (hc : w.find? Char.isAlphanum = some c) : (upperCamel w).head? = some c.toUpper := by
  have hne : w ≠ [] := by
    rintro rfl
    simp at hc
  rw [upperCamel_eq_pending hw hne]
  clear hne
  induction w with
  | nil => simp at hc
  | cons x w ih =>
    rw [List.forall_mem_cons] at hw
    by_cases hx : x = '_'
    · subst hx
      rw [closeUp_mark]
      exact ih hw.2 hc
    · rw [List.find?_cons_of_pos ((isAlphanum_iff hw.1).mpr hx)] at hc
      obtain rfl := Option.some.inj hc
      rw [closeUp_pending hx, Text.upperChar_of_ascii (ascii_of_isWordChar hw.1)]
      rfl

/-! ## Camel form -/

/-- Letters and digits, with an underscore at most behind them. -/
structure IsCamel (w : Word) : Prop where
  chars : ∀ c ∈ w, Text.isWordChar c = true
  inner : '_' ∉ w.dropLast

namespace IsCamel

/-- The first character in another case. -/
lemma recase {x : Char} (h : IsCamel (c :: w)) (hx : Text.isWordChar x = true)
    (hmark : x = '_' → c = '_') : IsCamel (x :: w) where
  chars := List.forall_mem_cons.mpr ⟨hx, (List.forall_mem_cons.mp h.chars).2⟩
  inner := by
    cases w with
    | nil => exact List.not_mem_nil
    | cons y w =>
      have hinner := h.inner
      rw [List.dropLast_cons_cons, List.mem_cons, not_or] at hinner ⊢
      exact ⟨fun heq => hinner.1 (hmark heq.symm).symm, hinner.2⟩

lemma capitalize (h : IsCamel w) : IsCamel (capitalize w) := by
  cases w with
  | nil => exact h
  | cons c w =>
    have hc : Text.isWordChar c = true := h.chars c List.mem_cons_self
    rw [capitalize_cons hc]
    exact h.recase (isWordChar_toUpper hc) (Text.toUpper_eq_iff (by decide)).mp

lemma decapitalize (h : IsCamel w) : IsCamel (decapitalize w) := by
  cases w with
  | nil => exact h
  | cons c w =>
    have hc : Text.isWordChar c = true := h.chars c List.mem_cons_self
    rw [decapitalize_cons hc]
    exact h.recase (isWordChar_toLower hc) (Text.toLower_eq_iff (by decide)).mp

/-- A word in camel form changes by its first letter only. -/
lemma upperCamel_eq (h : IsCamel w) : upperCamel w = Word.capitalize w := by
  rw [upperCamel_eq_closeUp h.chars, closeUp_eq_self h.capitalize.inner]

lemma lowerCamel_eq (h : IsCamel w) : lowerCamel w = Word.decapitalize w := by
  rw [lowerCamel, h.upperCamel_eq, decapitalize_capitalize h.chars]

end IsCamel

lemma isCamel_upperCamel (hw : ∀ c ∈ w, Text.isWordChar c = true) : IsCamel (upperCamel w) := by
  have hchars := isWordChar_of_mem_capitalize hw
  rw [upperCamel_eq_closeUp hw]
  refine ⟨fun x hx => ?_, not_mem_dropLast_closeUp (by decide) false _⟩
  rcases mem_closeUp hx with rfl | hx | ⟨c, hc, hx⟩
  · decide
  · exact hchars x hx
  · rw [Text.upperChar_of_ascii (ascii_of_isWordChar (hchars c hc)), List.mem_singleton] at hx
    exact hx ▸ isWordChar_toUpper (hchars c hc)

lemma isCamel_lowerCamel (hw : ∀ c ∈ w, Text.isWordChar c = true) : IsCamel (lowerCamel w) :=
  (isCamel_upperCamel hw).decapitalize

lemma head?_lowerCamel (hw : ∀ c ∈ w, Text.isWordChar c = true)
    (hc : w.find? Char.isAlphanum = some c) : (lowerCamel w).head? = some c.toLower := by
  obtain ⟨rest, hrest⟩ : ∃ rest, upperCamel w = c.toUpper :: rest :=
    List.head?_eq_some_iff.mp (head?_upperCamel hw hc)
  have hword : Text.isWordChar c = true := hw c (List.mem_of_find?_eq_some hc)
  rw [lowerCamel, hrest, decapitalize_cons (isWordChar_toUpper hword),
    Char.toLower_toUpper_eq_toLower, List.head?_cons]

/-- Lower camel case of a word is its own lower camel case. -/
lemma lowerCamel_lowerCamel (hw : ∀ c ∈ w, Text.isWordChar c = true) :
    lowerCamel (lowerCamel w) = lowerCamel w := by
  rw [(isCamel_lowerCamel hw).lowerCamel_eq, lowerCamel,
    decapitalize_decapitalize (isCamel_upperCamel hw).chars]

end Nomenclator.Word
