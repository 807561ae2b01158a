import Nomenclator.Proofs.Resolution.Imports
import Nomenclator.Proofs.Schema.Containers

/-!
# Declarations from the inside out

A property is looked at three times before it is printed: once to read it, once to declare its type,
and once to collect the types that it imports.  The three recursions ask different questions.  The
reader asks for the fields of a record, the declaration for the shape of the property, and the
collection for nothing but which of its elements are there.

They agree because of what the reader makes.  A property that has been read is one leaf inside of
containers, so the types collected from it are the declaration of that leaf and no other
(`typeNames_of_leaf`), and its own declaration is that of the leaf with the notation of a container
around it for each of its containers (`declaration_foldr`).
-/

namespace Nomenclator

/-- The notation of a container around what it holds: the type of arrays, or the name of the type of
maps with the type of their keys. -/
def Container.wrap (arrayType mapHead keyType : String) : Container → String → String
  | .array, inner => arrayType ++ "<" ++ inner ++ ">"
  | .map, inner => mapHead ++ "<" ++ keyType ++ ", " ++ inner ++ ">"

namespace Kotlin

namespace Tables

lemma typeOf_of_lookup {t : Tables} {keyword type : String}
    (h : t.types.lookup keyword = some type) : t.typeOf keyword = type := by
  rw [typeOf, h, Option.getD_some]

/-- The tables of settings have a type for every keyword that the default tables have one for. -/
lemma exists_lookup_types (s : Settings) (keyword : String)
    (h : keyword ∈ Table.keys defaultTypes) :
    ∃ type, (ofSettings s).types.lookup keyword = some type :=
  Table.exists_lookup_iff.mpr (Table.mem_keys_merge.mpr (Or.inl h))

end Tables

namespace Generator

/-- The notation of a container by the tables of a generator. -/
def wrap (g : Generator) : Container → String → String :=
  Container.wrap g.tables.arrayType (g.modelName g.tables.mapType) g.tables.textType

lemma wrap_of_lookup {g : Generator} {arrayType mapType keyType : String}
    (harray : g.tables.types.lookup "array" = some arrayType)
    (hmap : g.tables.types.lookup "map" = some mapType)
    (hkey : g.tables.types.lookup "string" = some keyType) :
    g.wrap = Container.wrap arrayType (g.modelName mapType) keyType := by
  rw [wrap, Tables.arrayType, Tables.mapType, Tables.textType, Tables.typeOf_of_lookup harray,
    Tables.typeOf_of_lookup hmap, Tables.typeOf_of_lookup hkey]

/-- A container is declared when what it holds is, by its notation around the declaration. -/
lemma declaration_inside (g : Generator) (container : Container) (p : Property) :
    g.declaration (Property.inside container p) = (g.declaration p).map (g.wrap container) := by
  cases container with
  | array =>
    rw [Property.inside, Property.arrayOf, declaration, elementDeclaration]
    rfl
  | map =>
    rw [Property.inside, Property.mapOf, declaration, elementDeclaration]
    cases g.declaration p <;> rfl

lemma declaration_foldr (g : Generator) (containers : List Container) (leaf : Property) :
    g.declaration (containers.foldr Property.inside leaf)
      = (g.declaration leaf).map fun d => containers.foldr g.wrap d := by
  induction containers with
  | nil =>
    simp only [List.foldr_nil]
    cases g.declaration leaf <;> rfl
  | cons container containers ih =>
    rw [List.foldr_cons, declaration_inside, ih]
    cases g.declaration leaf <;> rfl

/-- A property with a single leaf refers to the type of this leaf. -/
lemma typeNames_of_leaf {g : Generator} {p leaf : Property} {d : String}
    (hleaves : p.leaves = [leaf]) (hleaf : g.declaration leaf = .ok d) :
    g.typeNames p = .ok [d] := by
  rw [typeNames_eq, hleaves, List.mapM_cons, hleaf]
  rfl

/-- A property that is read from a document is consistent at every level, so it has a single leaf
inside of its containers.  If the leaf can be declared, its declaration is the one type that the
property refers to, and the property is declared as that of the leaf with the notation of each
container around it, the innermost first. -/
theorem declaration_of_ofDocument {v : Value} {p : Property} (h : Property.ofDocument v = .ok p) :
    p.WellFormed ∧ ∃ leaf : Property, leaf.IsLeaf ∧ p.leaves = [leaf] ∧
      p = p.containers.foldr Property.inside leaf ∧
      ∀ (s : Settings) (flavor : Flavor) (d : String),
        let g := ofSettings s flavor
        g.declaration leaf = .ok d →
        g.typeNames p = .ok [d] ∧
        ∃ arrayType mapType keyType,
          g.tables.types.lookup "array" = some arrayType ∧
          g.tables.types.lookup "map" = some mapType ∧
          g.tables.types.lookup "string" = some keyType ∧
          g.declaration p
            = .ok (p.containers.foldr
                (Container.wrap arrayType (g.modelName mapType) keyType) d) := by
  have hform := Property.wellFormed_of_ofDocument v h
  obtain ⟨leaf, hleaf, -, hleaves, hfold⟩ := hform.exists_leaf
  refine ⟨hform, leaf, hleaf, hleaves, hfold, ?_⟩
  intro s flavor d g hdeclared
  obtain ⟨arrayType, harray⟩ := Tables.exists_lookup_types s "array" (by decide)
  obtain ⟨mapType, hmap⟩ := Tables.exists_lookup_types s "map" (by decide)
  obtain ⟨keyType, hkey⟩ := Tables.exists_lookup_types s "string" (by decide)
  refine ⟨typeNames_of_leaf hleaves hdeclared, arrayType, mapType, keyType, harray, hmap, hkey, ?_⟩
  have hwrap : g.wrap = Container.wrap arrayType (g.modelName mapType) keyType :=
    wrap_of_lookup harray hmap hkey
  calc g.declaration p
      = g.declaration (p.containers.foldr Property.inside leaf) := by rw [← hfold]
    _ = (g.declaration leaf).map fun d => p.containers.foldr g.wrap d :=
        declaration_foldr g p.containers leaf
    _ = .ok (p.containers.foldr (Container.wrap arrayType (g.modelName mapType) keyType) d) := by
        rw [hdeclared, hwrap]
        rfl

/-- An array of maps to a model, for which the settings have other types. -/
theorem declaration_of_ofDocument_nested :
    let entries := Value.record [("additionalProperties", .record [("$ref", .text "#/models/tag")])]
    let g := ofSettings { typeMappings := [("array", "List"), ("map", "dictionary")] }
    ∃ p, Property.ofDocument (.record [("type", .text "array"), ("items", entries)]) = .ok p ∧
      g.typeNames p = .ok ["Tag"] ∧ g.declaration p = .ok "List<Dictionary<String, Tag>>" := by
  intro entries g
  refine ⟨.arrayOf (.mapOf (.referenceTo (.text "#/models/tag"))), rfl, ?_⟩
  obtain ⟨-, leaf, -, hleaves, -, hall⟩ := declaration_of_ofDocument
    (v := .record [("type", .text "array"), ("items", entries)]) rfl
  obtain rfl : .referenceTo (.text "#/models/tag") = leaf := by simpa using hleaves
  obtain ⟨htypes, arrayType, mapType, keyType, harray, hmap, hkey, hdeclared⟩ :=
    hall g.settings {} "Tag" (by decide +kernel)
  obtain rfl : "List" = arrayType := Option.some.inj harray
  obtain rfl : "dictionary" = mapType := Option.some.inj hmap
  obtain rfl : "String" = keyType := Option.some.inj hkey
  refine ⟨htypes, hdeclared.trans ?_⟩
  decide +kernel

end Generator

end Kotlin

end Nomenclator
