import Nomenclator.Schema.Reading
import Nomenclator.Proofs.Journal
import Nomenclator.Proofs.Schema.Leaves
import Nomenclator.Proofs.Table

/-!
# The form of a property that has been read

The fields of a property are independent of each other, so nothing in the type keeps an array from
having no items, or a primitive property from having some.  A property that is read from a document
has none of this: `WellFormed` lists the four forms that there are, and `wellFormed_of_ofDocument`
says that every property of a document has one of them, and so have those inside it.

It follows that such a property is a single leaf inside of some containers.  `containers` lists them
from the outside in, and `WellFormed.exists_leaf` puts the property together again from the list and
the leaf.  What is declared of a property can then be said by recursion on a list.
-/

namespace Nomenclator

/-- The kinds of property that hold another. -/
inductive Container where
  | array
  | map
  deriving DecidableEq, Repr

namespace Property

/-- The form of a property is consistent, at every level: an array has items and nothing else, a map
has entries and nothing else, a reference has a target and nothing else, and a primitive property
holds no other and enumerates texts. -/
inductive WellFormed : Property → Prop
  | array {items : Property} (hitems : items.WellFormed) :
    WellFormed (.mk .array (.text "array") .null (some items) none .null [])
  | map {entries : Property} (hentries : entries.WellFormed) :
    WellFormed (.mk .map (.text "object") .null none (some entries) .null [])
  | reference (target : Value) :
    WellFormed (.mk .reference (.text "") .null none none target [])
  | primitive (type format : Value) (choices : List String) :
    WellFormed (.mk .primitive type format none none .null (choices.map .text))

lemma wellFormed_object : object.WellFormed := .primitive _ _ []

/-- What each field is as a property is what its value is as one. -/
lemma lookup_ofFields (fields : Table Value) (key : String) :
    (ofFields fields).lookup key = (fields.lookup key).map ofDocument := by
  induction fields with
  | nil => rfl
  | cons field rest ih =>
    obtain ⟨first, v⟩ := field
    rw [ofFields, List.lookup_cons, List.lookup_cons]
    cases key == first
    · exact ih
    · rfl

/-- The values that a record enumerates. -/
def enumerated (fields : Table Value) : Except Mismatch (List Value) :=
  match fields.lookup "enum" with
  | none => .ok []
  | some v => v.members

/-- What a record without a target describes, once the texts that it enumerates are known. -/
def described (fields : Table Value) (children : List (String × Except Mismatch Property))
    (texts : List String) : Except Mismatch Property :=
  let type := (fields.lookup "type").getD (.text "object")
  match type, fields.lookup "additionalProperties" with
  | .text "array", _ => ((children.lookup "items").getD (.ok object)).map arrayOf
  | .text "object", some (.record _) =>
    ((children.lookup "additionalProperties").getD (.ok object)).map mapOf
  | _, _ => .ok (primitive type ((fields.lookup "format").getD .null) (texts.map .text))

lemma build_eq (fields : Table Value) (children : List (String × Except Mismatch Property)) :
    build fields children = match fields.lookup referenceField with
      | some target => .ok (referenceTo target)
      | none =>
        enumerated fields >>= fun values =>
          values.mapM Value.display >>= described fields children := by
  have hmap : ∀ (x : Except Mismatch Property) (f : Property → Property),
      (x >>= fun p => pure (f p)) = x.map f := by
    intro x f
    cases x <;> rfl
  have hbind : ∀ (x : Except Mismatch (List String)) (f : List Value → Except Mismatch Property),
      (x.map (List.map .text) >>= f) = x >>= fun texts => f (texts.map .text) := by
    intro x f
    cases x <;> rfl
  unfold build enumerated described
  cases fields.lookup referenceField with
  | some target => rfl
  | none =>
    simp only [hmap, ← map_mapM, hbind]
    cases fields.lookup "enum" <;> rfl

/-- A record without a target is read once each value that it enumerates has a text. -/
lemma ofDocument_of_enumerated {fields : Table Value} {values : List Value}
    (htarget : fields.lookup referenceField = none) (hvalues : enumerated fields = .ok values) :
    ofDocument (.record fields)
      = values.mapM Value.display >>= described fields (ofFields fields) := by
  rw [ofDocument, build_eq, htarget, hvalues]
  rfl

/-- A record describes a property of a consistent form if those of its fields that describe one do.
-/
lemma wellFormed_of_build {fields : Table Value}
    {children : List (String × Except Mismatch Property)} {p : Property}
    (hchildren : ∀ key child, children.lookup key = some (.ok child) → child.WellFormed)
    (h : build fields children = .ok p) : p.WellFormed := by
  have helement : ∀ {key : String} {element : Property},
      (children.lookup key).getD (.ok object) = .ok element → element.WellFormed := by
    intro key element h
    cases hkey : children.lookup key with
    | none =>
      rw [hkey, Option.getD_none] at h
      exact Except.ok.inj h ▸ wellFormed_object
    | some child =>
      rw [hkey, Option.getD_some] at h
      exact hchildren key element (h ▸ hkey)
  rw [build_eq] at h
  split at h
  · exact Except.ok.inj h ▸ .reference _
  · obtain ⟨values, -, h⟩ := bind_eq_ok_iff.mp h
    obtain ⟨texts, -, h⟩ := bind_eq_ok_iff.mp h
    unfold described at h
    dsimp only at h
    split at h
    · obtain ⟨items, hitems, rfl⟩ := map_eq_ok_iff.mp h
      exact .array (helement hitems)
    · obtain ⟨entries, hentries, rfl⟩ := map_eq_ok_iff.mp h
      exact .map (helement hentries)
    · exact Except.ok.inj h ▸ .primitive _ _ _

mutual

/-- A property that is read from a document has a consistent form. -/
theorem wellFormed_of_ofDocument : ∀ (v : Value) {p : Property}, ofDocument v = .ok p → p.WellFormed
  | .record fields, _, h => by
    rw [ofDocument] at h
    exact wellFormed_of_build (wellFormed_of_ofFields fields) h
  | .null, _, h => by simp [ofDocument] at h
  | .bool _, _, h => by simp [ofDocument] at h
  | .int _, _, h => by simp [ofDocument] at h
  | .real _, _, h => by simp [ofDocument] at h
  | .text _, _, h => by simp [ofDocument] at h
  | .list _, _, h => by simp [ofDocument] at h

theorem wellFormed_of_ofFields : ∀ (fields : List (String × Value)) (key : String) (p : Property),
    (ofFields fields).lookup key = some (.ok p) → p.WellFormed
  | [], _, _, h => by simp [ofFields] at h
  | (first, v) :: rest, key, p, h => by
    rw [ofFields, List.lookup_cons] at h
    cases hkey : key == first <;> rw [hkey] at h
    · exact wellFormed_of_ofFields rest key p h
    · exact wellFormed_of_ofDocument v (Option.some.inj h)

end

/-! ## Containers around a leaf -/

mutual

/-- The containers around the leaves of a property, from the outside in. -/
def containers : Property → List Container
  | .mk .array _ _ items _ _ _ => .array :: elementContainers items
  | .mk .map _ _ _ entries _ _ => .map :: elementContainers entries
  | .mk .primitive _ _ _ _ _ _ => []
  | .mk .reference _ _ _ _ _ _ => []

/-- The containers inside of a container. -/
def elementContainers : Option Property → List Container
  | none => []
  | some p => containers p

end

/-- A property inside of a container. -/
def inside : Container → Property → Property
  | .array => arrayOf
  | .map => mapOf

@[simp] lemma containers_inside (container : Container) (p : Property) :
    (inside container p).containers = container :: p.containers := by
  cases container <;> simp [inside, arrayOf, mapOf, containers, elementContainers]

@[simp] lemma leaves_inside (container : Container) (p : Property) :
    (inside container p).leaves = p.leaves := by
  cases container
  · exact leaves_arrayOf p
  · exact leaves_mapOf p

/-- A property that holds no other. -/
def IsLeaf (p : Property) : Prop := p.items = none ∧ p.entries = none

/-- A property of a consistent form is a leaf inside of containers. -/
lemma WellFormed.exists_leaf {p : Property} (h : p.WellFormed) :
    ∃ leaf, leaf.IsLeaf ∧ leaf.WellFormed ∧ p.leaves = [leaf] ∧
      p = p.containers.foldr inside leaf := by
  induction h with
  | @array items hitems ih =>
    obtain ⟨leaf, hleaf, hform, hleaves, hitems⟩ := ih
    refine ⟨leaf, hleaf, hform, (leaves_inside .array items).trans hleaves, ?_⟩
    show inside .array items = (inside .array items).containers.foldr inside leaf
    rw [containers_inside, List.foldr_cons, ← hitems]
  | @map entries hentries ih =>
    obtain ⟨leaf, hleaf, hform, hleaves, hentries⟩ := ih
    refine ⟨leaf, hleaf, hform, (leaves_inside .map entries).trans hleaves, ?_⟩
    show inside .map entries = (inside .map entries).containers.foldr inside leaf
    rw [containers_inside, List.foldr_cons, ← hentries]
  | reference target => exact ⟨_, ⟨rfl, rfl⟩, .reference target, rfl, rfl⟩
  | primitive type format choices => exact ⟨_, ⟨rfl, rfl⟩, .primitive type format choices, rfl, rfl⟩

end Property

end Nomenclator
