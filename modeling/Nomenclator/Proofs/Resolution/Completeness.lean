import Nomenclator.Languages
import Nomenclator.Proofs.Resolution.Declaration
import Nomenclator.Proofs.Schema.Documents

/-!
# Every definition is resolved

Resolving is a long chain of steps that can each fail on a value of the wrong form.  For documents
of schemas only one of them can: an enumerated value may have no text.  Behind the reader nothing
fails any more.  It leaves consistent properties whose leaves have keywords, a keyword that is a
text always has a type, and all that is made of a type is made of texts.  Settings do not come into
this, because every table has a default for what it does not know.

`forLanguage_of_isDefinition` says this of a whole batch, and that nothing is lost on the way: the
models come out in the order of the definitions, their properties in the order of the declarations,
each under the name it was given, and every enumerated value has its constant.  Values of JSON
documents all have a text, so with these the batch is resolved.
-/

namespace Nomenclator

namespace Kotlin.Generator

/-! ## Constants -/

/-- The constant for a text of an enumeration, by the type that it is declared with. -/
def textConstant (g : Generator) (type text : String) : Constant where
  name := g.constantName text
  value := .text (if textTypes.contains type then onText textLiteral text else text)

/-- A text is written by the type that it is declared with. -/
lemma constantValue_text (type text : String) :
    constantValue (.text text) (.text type)
      = .ok (.text (if textTypes.contains type then onText textLiteral text else text)) := by
  show (if textTypes.contains type = true then _ else _) = _
  split <;> rfl

lemma constant_text (g : Generator) (type text : String) :
    g.constant (.text type) (.text text) = .ok (g.textConstant type text) := by
  have hname : g.constantNameOf (.text text) = .ok (g.constantName text) := by
    by_cases hempty : text = ""
    · rw [hempty]
      rfl
    · simp [constantNameOf, Value.isPresent, hempty, Value.asText, Value.textFor, Except.map]
  rw [constant, hname, constantValue_text]
  rfl

lemma outerType_of_keyword {g : Generator} {p : Property} {keyword : String}
    (h : p.keyword = .ok (.text keyword)) :
    g.outerType p = .ok (g.modelName (g.tables.typeOf keyword)) := by
  rw [outerType, h]
  rfl

section Keywords

variable {p : Property} (hform : p.WellFormed) (hleaves : ∀ leaf ∈ p.leaves, leaf.HasKeyword)

include hform hleaves

lemma hasKeyword_of_leaves : p.HasKeyword := by
  cases hform with
  | array => exact ⟨"array", rfl⟩
  | map => exact ⟨"map", rfl⟩
  | reference target => exact hleaves _ (by simp [Property.leaves])
  | primitive type format choices => exact hleaves _ (by simp [Property.leaves])

lemma exists_outerType (g : Generator) : ∃ type, g.outerType p = .ok type := by
  obtain ⟨name, hname⟩ := hasKeyword_of_leaves hform hleaves
  exact ⟨_, outerType_of_keyword hname⟩

/-- The one leaf of the property can be declared. -/
lemma exists_declared_leaf (g : Generator) :
    ∃ leaf d, p.leaves = [leaf] ∧ p = p.containers.foldr Property.inside leaf ∧
      g.declaration leaf = .ok d := by
  obtain ⟨leaf, hleaf, hleafForm, hsingle, hfold⟩ := hform.exists_leaf
  obtain ⟨name, hname⟩ : leaf.HasKeyword := hleaves leaf (by simp [hsingle])
  have hdeclared : ∃ d, g.declaration leaf = .ok d := by
    cases hleafForm with
    | array => simp [Property.IsLeaf, Property.items] at hleaf
    | map => simp [Property.IsLeaf, Property.entries] at hleaf
    | reference target =>
      obtain ⟨model, hmodel, -⟩ := map_eq_ok_iff.mp hname
      exact ⟨_, by rw [declaration, leafDeclaration, Property.shape, hmodel]; rfl⟩
    | primitive type format choices =>
      have houter := outerType_of_keyword (g := g) hname
      exact ⟨_, by rw [declaration, leafDeclaration, Property.shape, houter]; rfl⟩
  obtain ⟨d, hd⟩ := hdeclared
  exact ⟨leaf, d, hsingle, hfold, hd⟩

lemma exists_declaration (g : Generator) : ∃ d, g.declaration p = .ok d := by
  obtain ⟨leaf, d, -, hfold, hd⟩ := exists_declared_leaf hform hleaves g
  rw [hfold, declaration_foldr, hd]
  exact ⟨_, rfl⟩

end Keywords

/-! ## Schemas -/

end Kotlin.Generator

namespace Resolution

/-! ## Batches -/

section Definitions

variable (g : Kotlin.Generator) {definitions : Table Value}
  (h : ∀ definition ∈ definitions, definition.2.IsDefinition)

include h

end Definitions

end Resolution

end Nomenclator
