import Nomenclator.Proofs.Resolution.Reference
import Nomenclator.Proofs.Text.Order

/-!
# What a reference imports

The imports of a property come from its leaves and from nothing else (`typeNames_eq`): containers
have types that every file sees.  A reference is a leaf, and it is declared by the class name of the
definition it points at, so it should import the class of this name from the package of the models.

It does so unless the class name is one of the well-known types.  The table of these is asked twice,
and for two different names: when the class is named, for the name of the definition as it stands,
and when it is imported, for the class name that was made of it.  A definition that only becomes a
well-known name by the change of case is declared as a class of the models and imported as something
else.  `import_of_reference_iff` says so exactly, and `date_imported_from_elsewhere` is an instance.
-/

namespace Nomenclator.Kotlin.Generator

/-! ## Types of the leaves -/

mutual

/-- The types that a property refers to are those of its leaves, in order. -/
theorem typeNames_eq (g : Generator) : ∀ p : Property, g.typeNames p = p.leaves.mapM g.declaration
  | .mk shape type format none none target choices => by
    rw [typeNames, Property.leaves, List.mapM_cons, List.mapM_nil]
    cases g.declaration (.mk shape type format none none target choices) <;> rfl
  | .mk _ _ _ (some items) entries _ _ => by
    rw [typeNames, Property.leaves, List.mapM_append, elementTypeNames_eq, elementTypeNames_eq]
    -- what is left says, of either function, that the property has an element
    all_goals simp
  | .mk _ _ _ none (some entries) _ _ => by
    rw [typeNames, Property.leaves, List.mapM_append, elementTypeNames_eq, elementTypeNames_eq]
    all_goals simp

theorem elementTypeNames_eq (g : Generator) : ∀ element : Option Property,
    g.elementTypeNames element = (Property.elementLeaves element).mapM g.declaration
  | none => by
    rw [elementTypeNames, Property.elementLeaves, List.mapM_nil]
    rfl
  | some p => by
    rw [elementTypeNames, Property.elementLeaves, typeNames_eq]

end

lemma importsOf_eq_ok_iff {g : Generator} {p : Property} {imports : List String} :
    g.importsOf p = .ok imports ↔
      ∃ types, p.leaves.mapM g.declaration = .ok types ∧ g.importsOfTypes types = imports := by
  rw [importsOf, map_eq_ok_iff, typeNames_eq]

/-! ## Imports of a reference -/

/-- A leaf is imported by a path: a property that has no other leaf calls for this import and for no
other, and every schema with the leaf in a property, at any depth, lists it. -/
structure ImportedAs (g : Generator) (leaf : Property) (path : String) : Prop where
  alone : ∀ p : Property, p.leaves = [leaf] → g.importsOf p = .ok [path]
  listed : ∀ s resolved, g.resolveSchema s = .ok resolved →
    ∀ name p, (name, p) ∈ s.properties → leaf ∈ p.leaves → path ∈ resolved.imports

/-- A leaf has one path: it is itself a property with no other leaf. -/
lemma ImportedAs.unique {g : Generator} {leaf : Property} {path path' : String}
    (h : g.ImportedAs leaf path) (h' : g.ImportedAs leaf path') (hleaf : leaf.leaves = [leaf]) :
    path = path' :=
  List.singleton_inj.mp (Except.ok.inj ((h.alone leaf hleaf).symm.trans (h'.alone leaf hleaf)))

/-- A leaf that is declared by a type that needs an import is imported by the path of the type. -/
lemma importedAs_importPath {g : Generator} {leaf : Property} {type : String}
    (hdeclared : g.declaration leaf = .ok type) (hneeds : needsImport type = true) :
    g.ImportedAs leaf (g.importPath type) where
  alone p hleaves := by
    refine importsOf_eq_ok_iff.mpr ⟨[type], ?_, by simp [importsOfTypes, hneeds]⟩
    rw [hleaves, List.mapM_cons, hdeclared]
    rfl
  listed s resolved hresolved name p hp hleaf := by
    obtain ⟨properties, imports, -, himports, rfl⟩ := resolveSchema_eq_ok_iff.mp hresolved
    obtain ⟨ofProperty, hmem, hproperty⟩ := exists_of_mapM_eq_ok himports hp
    obtain ⟨types, htypes, rfl⟩ := importsOf_eq_ok_iff.mp hproperty
    obtain ⟨found, hfound, hleaf⟩ := exists_of_mapM_eq_ok htypes hleaf
    obtain rfl : found = type := Except.ok.inj (hleaf.symm.trans hdeclared)
    have hpath : g.importPath found ∈ g.importsOfTypes types :=
      List.mem_map_of_mem (List.mem_filter.mpr ⟨hfound, hneeds⟩)
    exact Text.mem_sortedSet.mpr (List.mem_flatten.mpr ⟨_, hmem, hpath⟩)

lemma importPath_of_simple {g : Generator} {type : String} (hneeds : needsImport type = true)
    (hdot : '.' ∉ type.toList) (hpackage : g.settings.modelPackage ≠ "") :
    g.importPath type
      = (g.tables.imports.lookup type).getD (g.settings.modelPackage ++ "." ++ type) := by
  unfold importPath
  cases g.tables.imports.lookup type with
  | some known => simp [hneeds]
  | none => simp [hneeds, hdot, hpackage]

/-- With the default table of well-known types and a package for the models, a reference to a
definition is imported from this package exactly when the table does not know the class name as a
type of another place.  Where it does, the reference is imported from that place. -/
theorem import_of_reference_iff (s : Settings) (flavor : Flavor) (hmappings : s.importMappings = [])
    (hpackage : s.modelPackage ≠ "") {name : String} (hname : '/' ∉ name.toList)
    {reference : Property} (href : reference.PointsAt name) (hleaf : reference.leaves = [reference])
    (hdot : '.' ∉ ((ofSettings s flavor).modelName name).toList)
    (hneeds : needsImport ((ofSettings s flavor).modelName name) = true) :
    let g := ofSettings s flavor
    let own := s.modelPackage ++ "." ++ g.modelName name
    (g.ImportedAs reference own ↔
      ∀ known, defaultImports.lookup (g.modelName name) = some known → known = own) ∧
    ∀ known, defaultImports.lookup (g.modelName name) = some known →
      g.ImportedAs reference known := by
  intro g own
  have himports : g.tables.imports = defaultImports := by
    show Table.merge defaultImports s.importMappings = defaultImports
    rw [hmappings, Table.merge_nil]
  have hpath : g.ImportedAs reference ((defaultImports.lookup (g.modelName name)).getD own) := by
    have himport := importPath_of_simple (g := g) hneeds hdot hpackage
    rw [himports] at himport
    exact himport ▸ importedAs_importPath (g.declaration_of_pointsAt href hname) hneeds
  have hknown : ∀ known, defaultImports.lookup (g.modelName name) = some known →
      g.ImportedAs reference known := by
    intro known hlookup
    rwa [hlookup, Option.getD_some] at hpath
  refine ⟨⟨fun hown known hlookup => (hknown known hlookup).unique hown hleaf, fun hfree => ?_⟩,
    hknown⟩
  · cases hlookup : defaultImports.lookup (g.modelName name) with
    | none => rwa [hlookup, Option.getD_none] at hpath
    | some known => exact hfree known hlookup ▸ hknown known hlookup

/-- A definition that no type hides, inside an array of maps. -/
theorem import_of_reference_iff_pet :
    let s : Settings := { modelPackage := "com.acme" }
    let reference := Property.referenceTo (.text "#/definitions/pet")
    (ofSettings s).importsOf (.arrayOf (.mapOf reference)) = .ok ["com.acme.Pet"] := by
  intro s reference
  have hclass : (ofSettings s).modelName "pet" = "Pet" := by decide +kernel
  have hpet := Property.pointsAt_referenceTo "#/definitions" "pet"
  have h := import_of_reference_iff s {} rfl (by decide) (by decide) hpet
    (Property.leaves_referenceTo _) (by rw [hclass]; decide) (by rw [hclass]; decide)
  dsimp only at h
  rw [hclass] at h
  exact (h.1.mpr (by decide)).alone _ (by simp [reference])

/-- A reference to a definition is not always imported from the package of the models, even if no
settings name other imports: the class `Date` of a definition `date` is taken for a well-known type,
and a schema that refers to it lists the path of that type alone. -/
theorem date_imported_from_elsewhere :
    ¬ ∀ (s : Settings) (flavor : Flavor), s.importMappings = [] → s.modelPackage ≠ "" →
      ∀ (name : String) (reference : Property), '/' ∉ name.toList → reference.PointsAt name →
        reference.leaves = [reference] → '.' ∉ ((ofSettings s flavor).modelName name).toList →
        needsImport ((ofSettings s flavor).modelName name) = true →
        ∀ schema resolved, (ofSettings s flavor).resolveSchema schema = .ok resolved →
          ∀ property p, (property, p) ∈ schema.properties → reference ∈ p.leaves →
            s.modelPackage ++ "." ++ (ofSettings s flavor).modelName name ∈ resolved.imports := by
  intro h
  let g := ofSettings { modelPackage := "com.acme" }
  let reference := Property.referenceTo (.text "#/definitions/date")
  let event : Schema := { name := "Event", properties := [(some "when", reference)] }
  have hclass : g.modelName "date" = "Date" := by decide +kernel
  have hdate : reference.PointsAt "date" := Property.pointsAt_referenceTo "#/definitions" "date"
  have hleaf : reference.leaves = [reference] := Property.leaves_referenceTo _
  have hneeds : needsImport (g.modelName "date") = true := by rw [hclass]; decide
  have hpath : g.importPath (g.modelName "date") = "java.util.Date" := by decide +kernel
  have helsewhere := importedAs_importPath (g.declaration_of_pointsAt hdate (by decide)) hneeds
  rw [hpath] at helsewhere
  obtain ⟨resolved, hresolved⟩ : ∃ resolved, g.resolveSchema event = .ok resolved := ⟨_, rfl⟩
  have hown := h { modelPackage := "com.acme" } {} rfl (by decide) "date" reference (by decide)
    hdate hleaf (by rw [hclass]; decide) hneeds event resolved hresolved (some "when") reference
    (by simp [event]) (by simp [hleaf])
  obtain ⟨properties, imports, -, himports, rfl⟩ := resolveSchema_eq_ok_iff.mp hresolved
  obtain rfl : [["java.util.Date"]] = imports := by
    rw [show event.properties = [(some "when", reference)] from rfl, List.mapM_cons,
      helsewhere.alone reference hleaf] at himports
    exact Except.ok.inj himports
  rw [hclass] at hown
  have hlisted : "com.acme" ++ "." ++ "Date" ∈ ["java.util.Date"] := Text.mem_sortedSet.mp hown
  exact absurd hlisted (by decide)

end Nomenclator.Kotlin.Generator
