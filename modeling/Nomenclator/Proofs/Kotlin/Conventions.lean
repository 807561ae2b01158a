import Nomenclator.Proofs.Kotlin.ConstantNames

/-!
# Conventions are stable

A convention gives its words a form: no underscore in front of the last character and a first letter
that is not a capital, or not a small one; no capitals at all; no small letters at all.  A word of
identifier characters that has the form stays as it is, so naming by a convention twice is naming by
it once.

The name of a constant can be the value of another one.  Then it is transcoded before it is named
again.  Transcoding has little to do: a name is made of identifier characters and is more than
underscores, so an underscore is put in front of a digit, and that is all.  But a name begins with a
digit in camel case only, and there an underscore in front of a word makes no difference.  So the
name of a name is the name, as long as there are no backticks.

Backticks do not come back.  They are transcoded to underscores, and no convention takes both of
them away, so what comes out is not reserved.
-/

namespace Nomenclator.Kotlin

variable {w : Word}

/-! ## Forms -/

/-- The form of the words that a convention makes of identifier characters. -/
def HasForm : Convention → Word → Prop
  | .unchanged, _ => True
  | .camelCase, w => '_' ∉ w.dropLast ∧ ∀ c ∈ w.head?, c.isUpper = false
  | .pascalCase, w => '_' ∉ w.dropLast ∧ ∀ c ∈ w.head?, c.isLower = false
  | .snakeCase, w => ∀ c ∈ w, c.isUpper = false
  | .upperCase, w => ∀ c ∈ w, c.isLower = false

section Forms

variable (hw : ∀ c ∈ w, Text.isWordChar c = true)

include hw

lemma hasForm_applyWord (convention : Convention) :
    HasForm convention (convention.applyWord w) := by
  have hcamel : Word.IsCamel (Word.upperCamel w) := Word.isCamel_upperCamel hw
  cases convention with
  | unchanged => trivial
  | camelCase =>
    refine ⟨hcamel.decapitalize.inner, fun c hc => ?_⟩
    rw [Convention.applyWord, Word.lowerCamel, Word.head?_decapitalize hcamel.chars] at hc
    obtain ⟨x, -, rfl⟩ := Option.mem_map.mp hc
    exact Char.isUpper_toLower_eq_false x
  | pascalCase =>
    refine ⟨hcamel.capitalize.inner, fun c hc => ?_⟩
    rw [Convention.applyWord, Word.head?_capitalize hcamel.chars] at hc
    obtain ⟨x, -, rfl⟩ := Option.mem_map.mp hc
    exact Char.isLower_toUpper_eq_false x
  | snakeCase => exact Word.isUpper_of_mem_snake hw
  | upperCase =>
    intro c hc
    rw [Convention.applyWord,
      Text.upper_of_ascii fun c hc => Word.ascii_of_isWordChar (hw c hc)] at hc
    obtain ⟨x, -, rfl⟩ := List.mem_map.mp hc
    exact Char.isLower_toUpper_eq_false x

/-- A word that has the form of a convention stays as it is. -/
lemma applyWord_of_hasForm {convention : Convention} (h : HasForm convention w) :
    convention.applyWord w = w := by
  cases convention with
  | unchanged => rfl
  | camelCase =>
    have hcamel : Word.IsCamel w := ⟨hw, h.1⟩
    have hsmall : Word.decapitalize w = w := Word.decapitalize_of_head? hw h.2
    exact hcamel.lowerCamel_eq.trans hsmall
  | pascalCase =>
    have hcamel : Word.IsCamel w := ⟨hw, h.1⟩
    have hraised : Word.capitalize w = w := Word.capitalize_of_head? hw h.2
    rw [Convention.applyWord, hcamel.upperCamel_eq, hraised, hraised]
  | snakeCase => exact Word.snake_of_small h hw
  | upperCase =>
    rw [Convention.applyWord, Text.upper_of_ascii fun c hc => Word.ascii_of_isWordChar (hw c hc)]
    refine (List.map_congr_left fun c hc => ?_).trans (List.map_id w)
    exact Char.toUpper_eq_of_not_isLower (Bool.eq_false_iff.mp (h c hc))

/-- Naming twice is naming once. -/
lemma applyWord_applyWord (convention : Convention) :
    convention.applyWord (convention.applyWord w) = convention.applyWord w :=
  applyWord_of_hasForm (isWordChar_of_mem_applyWord hw convention) (hasForm_applyWord hw convention)

/-- In camel case an underscore in front makes no difference. -/
lemma applyWord_underscore {convention : Convention} (hne : w ≠ [])
    (hcamel : convention = .camelCase ∨ convention = .pascalCase) :
    convention.applyWord ('_' :: w) = convention.applyWord w := by
  rcases hcamel with rfl | rfl
  · rw [Convention.applyWord, Word.lowerCamel, Word.upperCamel_underscore hw hne,
      Convention.applyWord, Word.lowerCamel]
  · rw [Convention.applyWord, Word.upperCamel_underscore hw hne, Convention.applyWord]

/-- Of the underscores on either side of a word one is left by every convention. -/
lemma underscore_mem_applyWord (hne : w ≠ []) (hmark : '_' ∉ w) (convention : Convention) :
    '_' ∈ convention.applyWord ('_' :: (w ++ ['_'])) := by
  have hchars : ∀ c ∈ w ++ ['_'], Text.isWordChar c = true :=
    List.forall_mem_append.mpr ⟨hw, List.forall_mem_singleton.mpr (by decide)⟩
  have hquoted : ∀ c ∈ '_' :: (w ++ ['_']), Text.isWordChar c = true :=
    List.forall_mem_cons.mpr ⟨by decide, hchars⟩
  have hcamel : Word.IsCamel (w ++ ['_']) := ⟨hchars, by rwa [List.dropLast_concat]⟩
  have hnonempty : w ++ ['_'] ≠ [] := List.append_ne_nil_of_left_ne_nil hne _
  obtain ⟨c, v, rfl⟩ := List.exists_cons_of_ne_nil hne
  have hc : Text.isWordChar c = true := hw c List.mem_cons_self
  cases convention with
  | unchanged => exact List.mem_cons_self
  | camelCase =>
    rw [applyWord_underscore hchars hnonempty (Or.inl rfl), Convention.applyWord,
      hcamel.lowerCamel_eq, List.cons_append, Word.decapitalize_cons hc]
    simp
  | pascalCase =>
    rw [applyWord_underscore hchars hnonempty (Or.inr rfl), Convention.applyWord,
      Word.capitalize_upperCamel hchars, hcamel.upperCamel_eq, List.cons_append,
      Word.capitalize_cons hc]
    simp
  | snakeCase => exact List.mem_of_head? (Word.head?_snake hquoted)
  | upperCase =>
    rw [Convention.applyWord,
      Text.upper_of_ascii fun c hc => Word.ascii_of_isWordChar (hquoted c hc)]
    exact List.mem_cons_self

end Forms

/-! ## Names of names -/

section Again

lemma constantWord_of_ne_nil (t : Transcoder) (hne : w ≠ []) : constantWord t w = t.sanitize w :=
  if_neg (by simpa using hne)

/-- Without backticks, a name leads to itself. -/
lemma applyWord_constantWord_again (convention : Convention) (value : Word) :
    let name := convention.applyWord (constantWord (.ofTable defaultReplacements) value)
    convention.applyWord (constantWord (.ofTable defaultReplacements) name) = name := by
  intro name
  have hword := isWordChar_of_mem_constantWord (.ofTable defaultReplacements) value
  have hname : ∀ c ∈ name, Text.isWordChar c = true := isWordChar_of_mem_applyWord hword convention
  have hsolid : ∃ c ∈ name, c ≠ '_' :=
    exists_solid_applyWord hword (exists_solid_constantWord value) convention
  have hstable : convention.applyWord name = name := applyWord_applyWord hword convention
  have hne : name ≠ [] := by
    obtain ⟨c, hc, -⟩ := hsolid
    exact List.ne_nil_of_mem hc
  rw [constantWord_of_ne_nil _ hne, Transcoder.sanitize_default hname hsolid]
  split <;> rename_i hdigit
  · have hcamel : convention = .camelCase ∨ convention = .pascalCase :=
      ((startsWithDigit_applyWord_constantWord convention value).mp hdigit).1
    rw [applyWord_underscore hname hne hcamel, hstable]
  · exact hstable

/-- A name between backticks does not lead to itself. -/
lemma constantName_escape_ne (convention : Convention) (hreserved : isReserved w = true) :
    constantName (.ofTable defaultReplacements) convention (escape w) ≠ escape w := by
  have hw : ∀ c ∈ w, Text.isWordChar c = true := isWordChar_of_isReserved hreserved
  have hmark : '_' ∉ w := fun hmem => absurd (isLower_of_isReserved hreserved hmem) (by decide)
  have hne : w ≠ [] := by
    rintro rfl
    exact absurd hreserved (by decide)
  have hsolid : ∃ c ∈ w, c ≠ '_' := by
    obtain ⟨c, v, rfl⟩ := List.exists_cons_of_ne_nil hne
    exact ⟨c, List.mem_cons_self, fun heq => hmark (heq ▸ List.mem_cons_self)⟩
  have hword : constantWord (.ofTable defaultReplacements) (escape w) = '_' :: (w ++ ['_']) :=
    (constantWord_of_ne_nil _ (List.cons_ne_nil _ _)).trans (Transcoder.sanitize_escape hw hsolid)
  have hfree : isReserved (convention.applyWord ('_' :: (w ++ ['_']))) = false :=
    isReserved_eq_false (underscore_mem_applyWord hw hne hmark convention) (by decide)
  have hchars : ∀ c ∈ convention.applyWord ('_' :: (w ++ ['_'])), Text.isWordChar c = true := by
    rw [← hword]
    exact isWordChar_of_mem_applyWord (isWordChar_of_mem_constantWord _ _) convention
  rw [constantName_eq, hword, escapeReserved, hfree]
  exact ne_escape hchars w

lemma constantName_constantName_iff (convention : Convention) (value : Word) :
    let name := constantName (.ofTable defaultReplacements) convention value
    constantName (.ofTable defaultReplacements) convention name = name
      ↔ isEscaped name = false := by
  intro name
  have hchars := isWordChar_of_mem_applyWord
    (isWordChar_of_mem_constantWord (.ofTable defaultReplacements) value) convention
  have hname : name = escapeReserved
      (convention.applyWord (constantWord (.ofTable defaultReplacements) value)) :=
    constantName_eq _ convention value
  cases hreserved : isReserved
      (convention.applyWord (constantWord (.ofTable defaultReplacements) value)) with
  | true =>
    rw [escapeReserved, if_pos hreserved] at hname
    rw [hname, isEscaped_escape]
    exact iff_of_false (constantName_escape_ne convention hreserved) (by decide)
  | false =>
    rw [escapeReserved, hreserved, if_neg (by decide)] at hname
    rw [hname, isEscaped_of_isWordChar hchars, constantName_eq,
      applyWord_constantWord_again convention value, escapeReserved, hreserved]
    exact iff_of_true rfl rfl

end Again

namespace Generator

/-- Naming identifier characters by a convention twice is naming them once.  With the default
replacements, the name of a constant is its own name under every convention, unless it is between
backticks, and then it is not. -/
theorem conventions_stable :
    (∀ (convention : Convention) (token : String), (∀ c ∈ token.toList, Text.isWordChar c = true) →
      convention.apply (convention.apply token) = convention.apply token) ∧
    ∀ (s : Settings) (flavor : Flavor), (Tables.ofSettings s).replacements = defaultReplacements →
      ∀ value, let g := ofSettings s flavor
        g.constantName (g.constantName value) = g.constantName value ↔
          isEscaped (g.constantName value).toList = false := by
  refine ⟨fun convention token hchars => ?_, fun s flavor hreplacements value => ?_⟩
  · rw [Convention.apply, Convention.apply, onText, onText, String.toList_ofList,
      applyWord_applyWord hchars]
  · intro g
    have htranscoder : g.tables.transcoder = .ofTable defaultReplacements :=
      congrArg Transcoder.ofTable hreplacements
    have hname (value : String) : (g.constantName value).toList
        = Kotlin.constantName (.ofTable defaultReplacements) s.enumNaming value.toList := by
      rw [← htranscoder]
      exact String.toList_ofList
    rw [← String.toList_inj, hname, hname]
    exact constantName_constantName_iff s.enumNaming value.toList

/-- A word with boundaries in snake case, and constants in camel case: one without a value, one that
begins with a digit, and one that is reserved. -/
theorem conventions_stable_wheels :
    Convention.snakeCase.apply (Convention.snakeCase.apply "HTTPServer2Go_")
      = Convention.snakeCase.apply "HTTPServer2Go_" ∧
    let g := ofSettings { enumNaming := .camelCase }
    (g.constantName "" = "eMPTY" ∧ g.constantName "eMPTY" = "eMPTY") ∧
    (g.constantName "2 wheels" = "2Wheels" ∧ g.constantName "2Wheels" = "2Wheels") ∧
    (g.constantName "Object" = "\x60object\x60" ∧
      g.constantName "\x60object\x60" ≠ "\x60object\x60") := by
  obtain ⟨hword, hconstant⟩ := conventions_stable
  have hchars : "HTTPServer2Go_".toList.all Text.isWordChar = true := by decide
  refine ⟨hword .snakeCase _ (List.all_eq_true.mp hchars), ?_⟩
  intro g
  have hstable (value : String) : g.constantName (g.constantName value) = g.constantName value ↔
      isEscaped (g.constantName value).toList = false :=
    hconstant { enumNaming := .camelCase } {} rfl value
  have hempty : g.constantName "" = "eMPTY" := by decide +kernel
  have hwheels : g.constantName "2 wheels" = "2Wheels" := by decide +kernel
  have hobject : g.constantName "Object" = "\x60object\x60" := by decide +kernel
  have hempty' := hstable ""
  have hwheels' := hstable "2 wheels"
  have hobject' := hstable "Object"
  rw [hempty] at hempty'
  rw [hwheels] at hwheels'
  rw [hobject] at hobject'
  exact ⟨⟨hempty, hempty'.mpr (by decide)⟩, ⟨hwheels, hwheels'.mpr (by decide)⟩, hobject,
    hobject'.not.mpr (by decide)⟩

end Generator

end Nomenclator.Kotlin
