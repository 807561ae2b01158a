import Nomenclator.Schema
import Nomenclator.Proofs.Schema.Containers
import Mathlib.Logic.Relation

/-!
# Containers without an element

Nothing keeps an array from having no items or a map from having no entries.  Such a gap is meant to
stand for an unrestricted object: `FillsGap` is one replacement of a gap by this object, anywhere in
a property, and everything else about the container stays, whatever it holds in the other place.
Any number of replacements one after another is the closure of this relation, and
`Schema.Filled` carries it to the properties of a schema.
-/

namespace Nomenclator

namespace Property

/-- One gap of a property is filled: an array without items gets an object for its items, or a map
without entries gets one for its entries, here or inside of an element. -/
inductive FillsGap : Property → Property → Prop
  | array {type format target : Value} {entries : Option Property} {choices : List Value} :
    FillsGap (.mk .array type format none entries target choices)
      (.mk .array type format (some object) entries target choices)
  | map {type format target : Value} {items : Option Property} {choices : List Value} :
    FillsGap (.mk .map type format items none target choices)
      (.mk .map type format items (some object) target choices)
  | inItems {shape : Shape} {type format target : Value} {p q : Property}
    {entries : Option Property} {choices : List Value} (h : FillsGap p q) :
    FillsGap (.mk shape type format (some p) entries target choices)
      (.mk shape type format (some q) entries target choices)
  | inEntries {shape : Shape} {type format target : Value} {p q : Property}
    {items : Option Property} {choices : List Value} (h : FillsGap p q) :
    FillsGap (.mk shape type format items (some p) target choices)
      (.mk shape type format items (some q) target choices)

variable {p q : Property}

lemma FillsGap.choices_eq (h : FillsGap p q) : p.choices = q.choices := by
  cases h <;> rfl

/-- The keyword of a property does not depend on what it holds. -/
lemma FillsGap.keyword_eq (h : FillsGap p q) : p.keyword = q.keyword := by
  cases h <;> rfl

/-- What a filled gap leaves as it is, filling any number of gaps leaves as it is. -/
lemma eq_of_fillsGaps {α : Type} {f : Property → α} (hstep : ∀ {p q}, FillsGap p q → f p = f q)
    (h : Relation.ReflTransGen FillsGap p q) : f p = f q := by
  induction h with
  | refl => rfl
  | tail _ hlast ih => exact ih.trans (hstep hlast)

/-- A container of each kind without an element. -/
def bare : Container → Property
  | .array => .mk .array (.text "array") .null none none .null []
  | .map => .mk .map (.text "object") .null none none .null []

lemma fillsGap_bare (container : Container) :
    FillsGap (bare container) (inside container object) := by
  cases container
  · exact .array
  · exact .map

end Property

/-- A schema is another one with some of the gaps in its properties filled. -/
structure Schema.Filled (s t : Schema) : Prop where
  name : s.name = t.name
  description : s.description = t.description
  properties : List.Forall₂
    (fun p q => p.1 = q.1 ∧ Relation.ReflTransGen Property.FillsGap p.2 q.2)
    s.properties t.properties

end Nomenclator
