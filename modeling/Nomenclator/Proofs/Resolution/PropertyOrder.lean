import Nomenclator.Proofs.Resolution.Reference
import Nomenclator.Proofs.Text.Order
import Mathlib.Data.List.FinRange

/-!
# The order of the properties

The properties of a schema are resolved in a row, and what they import is collected from all of them
and put in order.  `properties_independent` says that none of them knows of the others: the schema
with its properties in another order resolves to the same model with the resolved properties in that
order, and its imports are those that the properties have each by itself.

The imports are a list, and could depend on the order or on how often a path is called for.  They do
not because a strictly increasing list is determined by its members.
-/

namespace Nomenclator

namespace Schema

/-- The schema with its properties in another order. -/
def reordered (s : Schema) (order : Equiv.Perm (Fin s.properties.length)) : Schema :=
  { s with properties := List.ofFn fun i => s.properties.get (order i) }

/-- The schema with one property. -/
def only (s : Schema) (property : Option String × Property) : Schema :=
  { s with properties := [property] }

lemma perm_reordered (s : Schema) (order : Equiv.Perm (Fin s.properties.length)) :
    (s.reordered order).properties.Perm s.properties := by
  have hperm := order.ofFn_comp_perm s.properties.get
  rwa [List.ofFn_get] at hperm

end Schema

namespace Kotlin.Generator

variable {g : Generator} {s : Schema} {resolved : ResolvedSchema}

/-- A path is imported where a property calls for it. -/
lemma mem_imports_iff (h : g.resolveSchema s = .ok resolved) {path : String} :
    path ∈ resolved.imports ↔
      ∃ property ∈ s.properties, ∃ paths, g.importsOf property.2 = .ok paths ∧ path ∈ paths := by
  obtain ⟨properties, imports, -, himports, rfl⟩ := resolveSchema_eq_ok_iff.mp h
  simp only [Text.mem_sortedSet, List.mem_flatten, mem_iff_of_mapM_eq_ok himports]
  constructor
  · rintro ⟨paths, ⟨property, hproperty, hpaths⟩, hpath⟩
    exact ⟨property, hproperty, paths, hpaths, hpath⟩
  · rintro ⟨property, hproperty, paths, hpaths, hpath⟩
    exact ⟨paths, ⟨property, hproperty, hpaths⟩, hpath⟩

lemma pairwise_imports (h : g.resolveSchema s = .ok resolved) :
    resolved.imports.Pairwise (· < ·) := by
  obtain ⟨properties, imports, -, -, rfl⟩ := resolveSchema_eq_ok_iff.mp h
  exact Text.pairwise_sortedSet imports.flatten

/-- Schemas with the same properties, in any order, have the same imports. -/
lemma imports_eq {t : Schema} {other : ResolvedSchema} (h : g.resolveSchema s = .ok resolved)
    (h' : g.resolveSchema t = .ok other)
    (hproperties : ∀ property, property ∈ s.properties ↔ property ∈ t.properties) :
    resolved.imports = other.imports := by
  refine (pairwise_imports h).eq_of_mem_iff (pairwise_imports h') fun path => ?_
  simp only [mem_imports_iff h, mem_imports_iff h', hproperties]

/-- Each property of a schema that is resolved is resolved by itself. -/
lemma exists_resolveSchema_only (h : g.resolveSchema s = .ok resolved)
    {property : Option String × Property} (hproperty : property ∈ s.properties) :
    ∃ alone, g.resolveSchema (s.only property) = .ok alone := by
  obtain ⟨properties, imports, hproperties, himports, -⟩ := resolveSchema_eq_ok_iff.mp h
  obtain ⟨result, -, hresult⟩ := exists_of_mapM_eq_ok hproperties hproperty
  obtain ⟨paths, -, hpaths⟩ := exists_of_mapM_eq_ok himports hproperty
  refine ⟨_, resolveSchema_eq_ok_iff.mpr ⟨[result], [paths], ?_, ?_, rfl⟩⟩
  · exact mapM_eq_ok_iff.mpr (.cons hresult .nil)
  · exact mapM_eq_ok_iff.mpr (.cons hpaths .nil)

/-- The schema with its properties in another order resolves to the model with its resolved
properties in that order. -/
lemma resolveSchema_reordered (h : g.resolveSchema s = .ok resolved)
    (hlength : s.properties.length = resolved.properties.length)
    (order : Equiv.Perm (Fin s.properties.length)) :
    g.resolveSchema (s.reordered order) = .ok { resolved with
      properties := List.ofFn fun i => resolved.properties.get (Fin.cast hlength (order i)) } := by
  obtain ⟨properties, imports, hproperties, himports, rfl⟩ := resolveSchema_eq_ok_iff.mp h
  have hreordered := (resolveSchema_eq_ok_iff (g := g) (s := s.reordered order)).mpr
    ⟨_, _, mapM_ofFn_get hproperties order, mapM_ofFn_get himports order, rfl⟩
  have hsame := imports_eq hreordered h fun _ => (s.perm_reordered order).mem_iff
  dsimp only at hsame
  rw [hsame] at hreordered
  exact hreordered

/-- The order of the properties of a schema is all that their order decides: in another one they
resolve to the same model with the resolved properties in that order.  The imports increase
strictly, and a path is among them if one of the properties, kept alone, imports it. -/
theorem properties_independent (g : Generator) {s : Schema} {resolved : ResolvedSchema}
    (h : g.resolveSchema s = .ok resolved) :
    ∃ hlength : s.properties.length = resolved.properties.length,
      (∀ order : Equiv.Perm (Fin s.properties.length),
        g.resolveSchema (s.reordered order) = .ok { resolved with
          properties := List.ofFn fun i => resolved.properties.get (Fin.cast hlength (order i)) }) ∧
      resolved.imports.Pairwise (· < ·) ∧
      (∀ property ∈ s.properties, ∃ alone, g.resolveSchema (s.only property) = .ok alone) ∧
      ∀ path, path ∈ resolved.imports ↔ ∃ property ∈ s.properties, ∃ alone,
        g.resolveSchema (s.only property) = .ok alone ∧ path ∈ alone.imports := by
  obtain ⟨properties, imports, hproperties, -, hresolved⟩ := resolveSchema_eq_ok_iff.mp h
  have hlength : s.properties.length = resolved.properties.length := by
    rw [hresolved]
    exact length_of_mapM_eq_ok hproperties
  refine ⟨hlength, resolveSchema_reordered h hlength, pairwise_imports h,
    fun property => exists_resolveSchema_only h, fun path => ?_⟩
  rw [mem_imports_iff h]
  constructor
  · rintro ⟨property, hproperty, paths, hpaths, hpath⟩
    obtain ⟨alone, halone⟩ := exists_resolveSchema_only h hproperty
    have hlisted : path ∈ alone.imports :=
      (mem_imports_iff halone).mpr ⟨property, List.mem_singleton_self _, paths, hpaths, hpath⟩
    exact ⟨property, hproperty, alone, halone, hlisted⟩
  · rintro ⟨property, hproperty, alone, halone, hpath⟩
    obtain ⟨same, hsame, paths, hpaths, hpath⟩ := (mem_imports_iff halone).mp hpath
    obtain rfl := List.mem_singleton.mp hsame
    exact ⟨same, hproperty, paths, hpaths, hpath⟩

/-- Three references to two definitions, the last property first: the imports stay as they are, and
the definition that is referred to twice is imported once. -/
theorem properties_independent_pets :
    let g := ofSettings { modelPackage := "com.acme" }
    let pet := Property.referenceTo (.text "#/definitions/pet")
    let tag : Option String × Property := (some "tag", .referenceTo (.text "#/definitions/tag"))
    let pets : Option String × Property := (some "pets", .arrayOf pet)
    let best : Option String × Property := (some "best", pet)
    ∃ resolved reordered,
      g.resolveSchema { name := "order", properties := [tag, pets, best] } = .ok resolved ∧
      g.resolveSchema { name := "order", properties := [best, pets, tag] } = .ok reordered ∧
      reordered.className = resolved.className ∧
      reordered.properties.map ResolvedProperty.declaration = ["Pet", "Array<Pet>", "Tag"] ∧
      reordered.imports = ["com.acme.Pet", "com.acme.Tag"] := by
  intro g pet tag pets best
  let order : Schema := { name := "order", properties := [tag, pets, best] }
  obtain ⟨first, second, third, resolved, hresolved, hproperties, hdeclared, himports⟩ :
      ∃ first second third resolved, g.resolveSchema order = .ok resolved ∧
        resolved.properties = [first, second, third] ∧
        [third, second, first].map ResolvedProperty.declaration = ["Pet", "Array<Pet>", "Tag"] ∧
        resolved.imports = ["com.acme.Pet", "com.acme.Tag"] :=
    ⟨_, _, _, _, rfl, rfl, by decide +kernel, by decide +kernel⟩
  obtain ⟨hlength, hreordered, -⟩ := properties_independent g hresolved
  obtain ⟨className, filename, declaredName, properties, imports, description⟩ := resolved
  dsimp only at hproperties
  subst hproperties
  exact ⟨_, _, hresolved, hreordered (Equiv.swap ⟨0, by decide⟩ ⟨2, by decide⟩), rfl, hdeclared,
    himports⟩

end Kotlin.Generator

end Nomenclator
