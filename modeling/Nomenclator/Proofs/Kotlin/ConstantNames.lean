import Nomenclator.Proofs.Kotlin.Transcoding
import Nomenclator.Proofs.Resolution.Completeness
import Nomenclator.Proofs.Word.SnakeCase

/-!
# Names of constants

The value of a constant is transcoded, cased by a convention, and put between backticks where it is
reserved.  Transcoding makes a legal name, and it keeps a digit away from the beginning by an
underscore; but the convention comes afterwards, and camel case takes underscores away.  Unlike
names of variables, names of constants are not asked again whether they begin with a digit.

`isLegalConstant_constantName_iff` says for which values and conventions this goes wrong.  Nothing
else can: no convention takes all letters and digits away, the conventions that keep underscores
keep the first character, and a reserved word is escaped whichever way it came about.
-/

namespace Nomenclator.Kotlin

variable {w : Word}

/-- A name that an enum can give to a constant: a name as it stands, or a reserved word between
backticks. -/
def IsLegalConstant (w : Word) : Prop :=
  IsBare w ∨ ∃ word, isReserved word = true ∧ w = escape word

/-- A word with substance is legal, if it does not begin with a digit, once it is escaped. -/
lemma isLegalConstant_escapeReserved_iff (hw : ∀ c ∈ w, Text.isWordChar c = true)
    (hsolid : ∃ c ∈ w, c ≠ '_') :
    IsLegalConstant (escapeReserved w) ↔ startsWithDigit w = false := by
  rw [escapeReserved]
  cases hreserved : isReserved w with
  | true =>
    refine iff_of_true (Or.inr ⟨w, hreserved, rfl⟩) ?_
    rw [← Bool.not_eq_true, startsWithDigit_iff]
    rintro ⟨c, hhead, hdigit⟩
    have hlower : c.isLower = true := isLower_of_isReserved hreserved (List.mem_of_head? hhead)
    have halpha : c.isAlpha = true := by rw [Char.isAlpha, hlower, Bool.or_true]
    rw [Word.isDigit_eq_false_of_isAlpha halpha] at hdigit
    exact absurd hdigit (by decide)
  | false =>
    rw [if_neg (by decide)]
    constructor
    · rintro (hbare | ⟨word, -, heq⟩)
      · exact hbare.startsWithDigit_eq_false
      · exact absurd heq (ne_escape hw word)
    · intro hdigit
      exact Or.inl (.of_not_startsWithDigit hw hdigit hsolid hreserved)

/-! ## Conventions -/

lemma startsWithDigit_eq (w : Word) : startsWithDigit w = w.head?.any Char.isDigit := by
  cases w <;> rfl

/-- Casing a first character does not make it a digit. -/
lemma startsWithDigit_of_head? {v : Word} {f : Char → Char} (h : v.head? = w.head?.map f)
    (hf : ∀ c, (f c).isDigit = c.isDigit) : startsWithDigit v = startsWithDigit w := by
  rw [startsWithDigit_eq, startsWithDigit_eq, h]
  cases w with
  | nil => rfl
  | cons c w => exact hf c

section Conventions

variable (hw : ∀ c ∈ w, Text.isWordChar c = true)

include hw

lemma isWordChar_of_mem_applyWord (convention : Convention) :
    ∀ c ∈ convention.applyWord w, Text.isWordChar c = true := by
  cases convention with
  | unchanged => exact hw
  | camelCase => exact (Word.isCamel_lowerCamel hw).chars
  | pascalCase => exact (Word.isCamel_upperCamel hw).capitalize.chars
  | snakeCase => exact Word.isWordChar_of_mem_snake hw
  | upperCase =>
    rw [Convention.applyWord, Text.upper_of_ascii fun c hc => Word.ascii_of_isWordChar (hw c hc)]
    intro c hc
    obtain ⟨x, hx, rfl⟩ := List.mem_map.mp hc
    exact Word.isWordChar_toUpper (hw x hx)

/-- Casing keeps the spelling, so it leaves more than underscores. -/
lemma exists_solid_applyWord (hsolid : ∃ c ∈ w, c ≠ '_') (convention : Convention) :
    ∃ c ∈ convention.applyWord w, c ≠ '_' := by
  have hspelling (v : Word) : (∃ c ∈ v, c ≠ '_') ↔ Word.spelling v ≠ [] := by
    rw [Word.spelling, ne_eq, List.map_eq_nil_iff, List.filter_eq_nil_iff]
    push Not
    simp
  rw [hspelling, ((respells_of_isWordChar hw).applyWord convention).same, ← hspelling]
  exact hsolid

/-- Camel case begins with the first letter or digit, the other conventions with the first
character. -/
lemma startsWithDigit_applyWord (hsolid : ∃ c ∈ w, c ≠ '_') (convention : Convention) :
    startsWithDigit (convention.applyWord w)
      = if convention = .camelCase ∨ convention = .pascalCase
        then (w.find? Char.isAlphanum).any Char.isDigit else startsWithDigit w := by
  obtain ⟨c, hc⟩ := Word.exists_find?_isAlphanum hw hsolid
  have hmem : c ∈ w := List.mem_of_find?_eq_some hc
  cases convention with
  | unchanged => rfl
  | camelCase =>
    rw [if_pos (Or.inl rfl), startsWithDigit_eq, Convention.applyWord, Word.head?_lowerCamel hw hc,
      hc]
    exact Word.isDigit_toLower c
  | pascalCase =>
    obtain ⟨rest, hrest⟩ := List.head?_eq_some_iff.mp (Word.head?_upperCamel hw hc)
    rw [if_pos (Or.inr rfl), startsWithDigit_eq, Convention.applyWord, hrest,
      Word.capitalize_cons (Word.isWordChar_toUpper (hw c hmem)), Char.toUpper_toUpper_eq_toUpper,
      hc]
    exact Word.isDigit_toUpper c
  | snakeCase =>
    rw [if_neg (by decide)]
    exact startsWithDigit_of_head? (Word.head?_snake hw) Word.isDigit_toLower
  | upperCase =>
    rw [if_neg (by decide), Convention.applyWord,
      Text.upper_of_ascii fun c hc => Word.ascii_of_isWordChar (hw c hc)]
    exact startsWithDigit_of_head? List.head?_map Word.isDigit_toUpper

end Conventions

/-! ## Values -/

/-- Whether the first letter or digit that a value leaves is a digit.  A semicolon leaves a word. -/
def leadsWithDigit (value : Word) : Bool :=
  (value.find? fun c => c.isAlphanum || c = ';').any Char.isDigit

/-- The word that the name of a constant is made from. -/
def constantWord (t : Transcoder) (value : Word) : Word :=
  if value.isEmpty then emptyConstant else t.sanitize value

lemma constantName_eq (t : Transcoder) (convention : Convention) (value : Word) :
    constantName t convention value
      = escapeReserved (convention.applyWord (constantWord t value)) := rfl

section ConstantWord

variable (t : Transcoder) (value : Word)

lemma isWordChar_of_mem_constantWord : ∀ c ∈ constantWord t value, Text.isWordChar c = true := by
  rw [constantWord]
  split
  · exact List.all_eq_true.mp (by decide : emptyConstant.all Text.isWordChar = true)
  · exact t.isWordChar_of_mem_sanitize value

lemma startsWithDigit_constantWord : startsWithDigit (constantWord t value) = false := by
  rw [constantWord]
  split
  · rfl
  · exact t.startsWithDigit_sanitize value

lemma exists_solid_constantWord :
    ∃ c ∈ constantWord (.ofTable defaultReplacements) value, c ≠ '_' := by
  rw [constantWord]
  split <;> rename_i hempty
  · exact ⟨'E', by decide, by decide⟩
  · exact Transcoder.exists_solid_sanitize
      (Transcoder.replace_default_ne_nil (by simpa using hempty))

lemma any_isDigit_constantWord :
    ((constantWord (.ofTable defaultReplacements) value).find? Char.isAlphanum).any Char.isDigit
      = leadsWithDigit value := by
  rw [constantWord]
  split <;> rename_i hempty
  · rw [List.isEmpty_iff.mp hempty]
    rfl
  · rw [Transcoder.find?_sanitize (Transcoder.replace_default_ne_nil (by simpa using hempty)),
      Transcoder.find?_replace_default, leadsWithDigit]
    cases value.find? fun c => c.isAlphanum || c = ';' with
    | none => rfl
    | some c =>
      by_cases hsemicolon : c = ';'
      · subst hsemicolon
        rfl
      · simp [hsemicolon]

end ConstantWord

lemma startsWithDigit_applyWord_constantWord (convention : Convention) (value : Word) :
    startsWithDigit
        (convention.applyWord (constantWord (.ofTable defaultReplacements) value)) = true
      ↔ (convention = .camelCase ∨ convention = .pascalCase) ∧ leadsWithDigit value = true := by
  rw [startsWithDigit_applyWord (isWordChar_of_mem_constantWord _ value)
    (exists_solid_constantWord value), any_isDigit_constantWord, startsWithDigit_constantWord]
  split <;> simp [*]

namespace Generator

/-- With the default replacements, the name of a constant is legal unless camel case brings a digit
to the beginning: that of a value whose first letter or digit is a digit, with a capital or without.
Then the name begins with the digit.  The type that the constant is declared with has no part in its
name. -/
theorem isLegalConstant_constantName_iff (s : Settings) (flavor : Flavor)
    (hreplacements : (Tables.ofSettings s).replacements = defaultReplacements) (value : String) :
    let g := ofSettings s flavor
    let result := (g.constantName value).toList
    let misled := (s.enumNaming = .camelCase ∨ s.enumNaming = .pascalCase) ∧
      leadsWithDigit value.toList = true
    (IsLegalConstant result ↔ ¬misled) ∧ (misled → startsWithDigit result = true) ∧
    ∀ type, ∃ constant, g.constant (.text type) (.text value) = .ok constant ∧
      constant.name.toList = result := by
  intro g result misled
  have htranscoder : g.tables.transcoder = .ofTable defaultReplacements :=
    congrArg Transcoder.ofTable hreplacements
  have hresult : result = escapeReserved (s.enumNaming.applyWord
      (constantWord (.ofTable defaultReplacements) value.toList)) := by
    rw [← htranscoder, ← constantName_eq]
    exact String.toList_ofList
  have hchars := isWordChar_of_mem_applyWord
    (isWordChar_of_mem_constantWord (.ofTable defaultReplacements) value.toList) s.enumNaming
  have hsolid := exists_solid_applyWord
    (isWordChar_of_mem_constantWord (.ofTable defaultReplacements) value.toList)
    (exists_solid_constantWord value.toList) s.enumNaming
  have hdigit := startsWithDigit_applyWord_constantWord s.enumNaming value.toList
  have hlegal : IsLegalConstant result ↔ ¬misled := by
    rw [hresult, isLegalConstant_escapeReserved_iff hchars hsolid, ← Bool.not_eq_true, hdigit]
  refine ⟨hlegal, fun hmisled => ?_, fun type => ⟨_, g.constant_text type value, rfl⟩⟩
  have hfree : isReserved (s.enumNaming.applyWord
      (constantWord (.ofTable defaultReplacements) value.toList)) = false := by
    rw [← Bool.not_eq_true]
    intro hreserved
    rw [hresult, escapeReserved, if_pos hreserved] at hlegal
    exact hlegal.mp (Or.inr ⟨_, hreserved, rfl⟩) hmisled
  rw [hresult, escapeReserved, hfree]
  exact hdigit.mpr hmisled

/-- A value that begins with a letter, a reserved one, and one that begins with a digit behind its
marks, in camel case. -/
theorem isLegalConstant_constantName_iff_wheels :
    let g := ofSettings { enumNaming := .camelCase }
    (g.constantName "two-wheels" = "twoWheels" ∧
      IsLegalConstant (g.constantName "two-wheels").toList) ∧
    (g.constantName "Object" = "\x60object\x60" ∧
      IsLegalConstant (g.constantName "Object").toList) ∧
    (g.constantName "(2) wheels" = "2Wheels" ∧
      ¬IsLegalConstant (g.constantName "(2) wheels").toList) := by
  intro g
  have hdefault : (Tables.ofSettings { enumNaming := .camelCase }).replacements
      = defaultReplacements := rfl
  obtain ⟨hwheels, -, -⟩ :=
    isLegalConstant_constantName_iff { enumNaming := .camelCase } {} hdefault "two-wheels"
  obtain ⟨hobject, -, -⟩ :=
    isLegalConstant_constantName_iff { enumNaming := .camelCase } {} hdefault "Object"
  obtain ⟨hdigit, -, -⟩ :=
    isLegalConstant_constantName_iff { enumNaming := .camelCase } {} hdefault "(2) wheels"
  refine ⟨⟨by decide +kernel, hwheels.mpr ?_⟩, ⟨by decide +kernel, hobject.mpr ?_⟩,
    ⟨by decide +kernel, hdigit.not.mpr (not_not.mpr ?_)⟩⟩
  all_goals decide +kernel

/-- Not every name of a constant is legal: the value `1` has nothing that camel case could begin
with but the digit. -/
theorem constantName_begins_with_digit :
    ¬∀ s flavor, (Tables.ofSettings s).replacements = defaultReplacements →
      ∀ value, IsLegalConstant ((ofSettings s flavor).constantName value).toList := by
  intro hall
  have hlegal := hall { enumNaming := .camelCase } {} rfl "1"
  have hname : ((ofSettings { enumNaming := .camelCase } {}).constantName "1").toList = ['1'] := by
    decide +kernel
  rw [hname] at hlegal
  rcases hlegal with hbare | ⟨word, -, heq⟩
  · exact absurd hbare.startsWithDigit_eq_false (by decide)
  · exact ne_escape (List.forall_mem_singleton.mpr (by decide)) word heq

end Generator

end Nomenclator.Kotlin
