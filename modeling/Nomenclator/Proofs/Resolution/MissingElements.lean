import Nomenclator.Proofs.Resolution.Declaration
import Nomenclator.Proofs.Resolution.PropertyOrder
import Nomenclator.Proofs.Schema.Gaps

/-!
# Elements that are not stated

A container without an element is declared and made as a container of unrestricted objects; so it
should not matter whether the object is stated.  For everything that is resolved of a property on
its own this is so, step by step through the tree: `resolveProperty_of_fillsGap`.

Imports are collected by another recursion, which asks only what a property holds.  A container
without any element is a leaf to it, and calls for an import of its whole declaration; an array that
holds entries instead of items calls for the imports of the entries and not for that of the object.
The paths that can come and go in this way are the `gapPaths` of the generator.

`resolveSchema_of_filled` says that nothing else is affected, and that nothing at all is exactly if
there are no such paths.  `bare_array_imported` is the smallest case with the default tables where
there are.
-/

namespace Nomenclator.Kotlin.Generator

variable {g : Generator} {p q : Property}

/-! ## Declarations and constants -/

lemma outerType_of_fillsGap (h : p.FillsGap q) : g.outerType p = g.outerType q := by
  rw [outerType, outerType, h.keyword_eq]

/-- An element that is not stated is declared like an object. -/
lemma elementDeclaration_none :
    g.elementDeclaration none = g.elementDeclaration (some .object) := by
  rw [elementDeclaration, elementDeclaration, objectDeclaration, Property.object,
    Property.primitive, declaration]

lemma declaration_of_fillsGap (h : p.FillsGap q) : g.declaration p = g.declaration q := by
  induction h with
  | array => rw [declaration, declaration, elementDeclaration_none]
  | map =>
    rw [declaration, declaration, elementDeclaration_none, outerType_of_fillsGap .map]
  | @inItems shape _ _ _ p q _ _ hinside ih =>
    -- the shape decides which of the two elements is declared; the other does not count
    cases shape with
    | array => rw [declaration, declaration, elementDeclaration, elementDeclaration, ih]
    | map => rw [declaration, declaration, outerType_of_fillsGap (.inItems hinside)]
    | _ => rfl
  | @inEntries shape _ _ _ p q _ _ hinside ih =>
    cases shape with
    | array => rw [declaration, declaration]
    | map =>
      rw [declaration, declaration, elementDeclaration, elementDeclaration, ih,
        outerType_of_fillsGap (.inEntries hinside)]
    | _ => rfl

lemma instantiation_of_fillsGap (h : p.FillsGap q) : g.instantiation p = g.instantiation q := by
  cases h with
  | array =>
    simp only [instantiation, Property.shape, Property.items, elementDeclaration_none]
  | map => rfl
  | @inItems shape _ _ _ p q _ _ hinside =>
    cases shape with
    | array =>
      simp only [instantiation, Property.shape, Property.items, elementDeclaration,
        declaration_of_fillsGap hinside]
    | _ => rfl
  | @inEntries shape _ _ _ p q _ _ hinside =>
    cases shape with
    | map =>
      simp only [instantiation, Property.shape, Property.entries, Option.getD_some,
        outerType_of_fillsGap hinside]
    | _ => rfl

lemma resolveEnum_of_fillsGap (name : Option String) (h : p.FillsGap q) :
    g.resolveEnum name p = g.resolveEnum name q := by
  funext d
  unfold resolveEnum Property.isEnum
  rw [h.choices_eq]

/-- Everything that is resolved of a property on its own is the same when a gap is filled. -/
lemma resolveProperty_of_fillsGap (name : Option String) (h : p.FillsGap q) :
    g.resolveProperty name p = g.resolveProperty name q := by
  rw [resolveProperty, resolveProperty, declaration_of_fillsGap h, instantiation_of_fillsGap h,
    resolveEnum_of_fillsGap name h]

/-! ## Imports -/

/-- The type of an unrestricted object. -/
def objectType (g : Generator) : String :=
  g.tables.typeOf (g.modelName (g.tables.typeOf "object"))

/-- The types by which a gap and the object that fills it differ. -/
def gapTypes (g : Generator) : List String :=
  [g.objectType, g.wrap .array g.objectType, g.wrap .map g.objectType]

/-- The paths by which these types are imported, as far as they are. -/
def gapPaths (g : Generator) : List String := g.importsOfTypes g.gapTypes

/-- The imports of types, without those that filling a gap can change. -/
def otherImports (g : Generator) (types : List String) : List String :=
  (g.importsOfTypes types).filter (· ∉ g.gapPaths)

lemma importsOfTypes_append (types more : List String) :
    g.importsOfTypes (types ++ more) = g.importsOfTypes types ++ g.importsOfTypes more := by
  simp [importsOfTypes]

lemma otherImports_append (types more : List String) :
    g.otherImports (types ++ more) = g.otherImports types ++ g.otherImports more := by
  simp [otherImports, importsOfTypes_append]

lemma otherImports_of_mem_gapTypes {type : String} (h : type ∈ g.gapTypes) :
    g.otherImports [type] = [] := by
  rw [otherImports, List.filter_eq_nil_iff]
  intro path hpath
  have hgap : path ∈ g.gapPaths := by
    obtain ⟨t, ht, rfl⟩ := List.mem_map.mp hpath
    obtain ⟨hmem, hneeds⟩ := List.mem_filter.mp ht
    obtain rfl := List.mem_singleton.mp hmem
    exact List.mem_map_of_mem (List.mem_filter.mpr ⟨h, hneeds⟩)
  simpa using hgap

lemma typeNames_of_element {shape : Shape} {type format target : Value}
    {items entries : Option Property} {choices : List Value}
    (helement : ¬(items = none ∧ entries = none)) :
    g.typeNames (.mk shape type format items entries target choices) = do
      let first ← g.elementTypeNames items
      let second ← g.elementTypeNames entries
      return first ++ second := by
  rw [typeNames]
  exact fun hitems hentries => helement ⟨hitems, hentries⟩

/-- The imports of the element of a container that are not those of a gap. -/
def otherElementImports (g : Generator) (element : Option Property) :
    Except Mismatch (List String) :=
  (g.elementTypeNames element).map g.otherImports

/-- A container without any element is declared by one of the types of a gap. -/
lemma otherImports_of_bare {shape : Shape} {type format target : Value} {choices : List Value}
    (hshape : shape = .array ∨ shape = .map) :
    (g.typeNames (.mk shape type format none none target choices)).map g.otherImports = .ok [] := by
  have hbare : ∃ d ∈ g.gapTypes,
      g.declaration (.mk shape type format none none target choices) = .ok d := by
    rcases hshape with rfl | rfl
    · exact ⟨g.wrap .array g.objectType, by simp [gapTypes], rfl⟩
    · exact ⟨g.wrap .map g.objectType, by simp [gapTypes], rfl⟩
  obtain ⟨d, hd, hdeclared⟩ := hbare
  rw [typeNames, hdeclared]
  exact congrArg Except.ok (otherImports_of_mem_gapTypes hd)

/-- A container calls for what its items and its entries call for, as far as the imports of gaps are
not concerned. -/
lemma otherImports_of_container {shape : Shape} {type format target : Value}
    {items entries : Option Property} {choices : List Value}
    (hcontainer : items = none → entries = none → shape = .array ∨ shape = .map) :
    (g.typeNames (.mk shape type format items entries target choices)).map g.otherImports = do
      let first ← g.otherElementImports items
      let second ← g.otherElementImports entries
      return first ++ second := by
  by_cases hbare : items = none ∧ entries = none
  · obtain ⟨rfl, rfl⟩ := hbare
    exact otherImports_of_bare (hcontainer rfl rfl)
  rw [typeNames_of_element hbare, otherElementImports, otherElementImports]
  cases g.elementTypeNames items with
  | error e => rfl
  | ok first =>
    cases g.elementTypeNames entries with
    | error e => rfl
    | ok second => exact congrArg Except.ok (otherImports_append first second)

/-- An object that fills a gap calls for no import but those of gaps. -/
lemma otherElementImports_object :
    g.otherElementImports (some .object) = g.otherElementImports none := by
  have hobject : g.otherElementImports (some .object) = .ok (g.otherImports [g.objectType]) := rfl
  rw [hobject, otherImports_of_mem_gapTypes (by simp [gapTypes])]
  rfl

lemma otherImports_of_fillsGap (h : p.FillsGap q) :
    (g.typeNames p).map g.otherImports = (g.typeNames q).map g.otherImports := by
  induction h with
  | array =>
    rw [otherImports_of_container (by simp), otherImports_of_container (by simp),
      otherElementImports_object]
  | map =>
    rw [otherImports_of_container (by simp), otherImports_of_container (by simp),
      otherElementImports_object]
  | @inItems _ _ _ _ p q _ _ _ ih =>
    have hinside : g.otherElementImports (some p) = g.otherElementImports (some q) := ih
    rw [otherImports_of_container (by simp), otherImports_of_container (by simp), hinside]
  | @inEntries _ _ _ _ p q _ _ _ ih =>
    have hinside : g.otherElementImports (some p) = g.otherElementImports (some q) := ih
    rw [otherImports_of_container (by simp), otherImports_of_container (by simp), hinside]

/-! ## Schemas -/

/-- A resolved schema without the imports that filling a gap can change. -/
def withoutGapPaths (g : Generator) (resolved : ResolvedSchema) : ResolvedSchema :=
  { resolved with imports := resolved.imports.filter (· ∉ g.gapPaths) }

lemma map_withoutGapPaths (s : Schema) :
    (g.resolveSchema s).map g.withoutGapPaths = do
      let properties ← s.properties.mapM fun p => g.resolveProperty p.1 p.2
      let imports ← s.properties.mapM fun p => (g.typeNames p.2).map g.otherImports
      return { className := g.modelName s.name, filename := g.modelFile s.name,
               declaredName := s.name, properties, imports := Text.sortedSet imports.flatten,
               description := s.description } := by
  have hstep : (fun p : Option String × Property => (g.typeNames p.2).map g.otherImports)
      = fun p => (g.importsOf p.2).map (List.filter (· ∉ g.gapPaths)) := by
    funext p
    rw [importsOf]
    cases g.typeNames p.2 <;> rfl
  rw [hstep, ← map_mapM, resolveSchema]
  cases s.properties.mapM fun p => g.resolveProperty p.1 p.2 with
  | error e => rfl
  | ok properties =>
    cases s.properties.mapM fun p => g.importsOf p.2 with
    | error e => rfl
    | ok imports =>
      show Except.ok _ = Except.ok _
      rw [withoutGapPaths, ← Text.sortedSet_filter, List.filter_flatten]

/-- Filling gaps changes no more of what is resolved than the imports of gaps, and no refusal. -/
lemma map_withoutGapPaths_of_filled {s t : Schema} (h : s.Filled t) :
    (g.resolveSchema s).map g.withoutGapPaths = (g.resolveSchema t).map g.withoutGapPaths := by
  have hproperties : s.properties.mapM (fun p => g.resolveProperty p.1 p.2)
      = t.properties.mapM fun p => g.resolveProperty p.1 p.2 := by
    refine mapM_eq_of_forall₂ (h.properties.imp fun p q hpq => ?_)
    rw [hpq.1]
    exact Property.eq_of_fillsGaps (resolveProperty_of_fillsGap q.1) hpq.2
  have himports : s.properties.mapM (fun p => (g.typeNames p.2).map g.otherImports)
      = t.properties.mapM fun p => (g.typeNames p.2).map g.otherImports :=
    mapM_eq_of_forall₂ (h.properties.imp fun p q hpq =>
      Property.eq_of_fillsGaps otherImports_of_fillsGap hpq.2)
  rw [map_withoutGapPaths, map_withoutGapPaths, hproperties, himports, h.name, h.description]

/-! ## Where the object matters -/

lemma importsOfTypes_eq_nil_iff {types : List String} :
    g.importsOfTypes types = [] ↔ ∀ type ∈ types, needsImport type = false := by
  simp [importsOfTypes]

lemma withoutGapPaths_eq_self (h : g.gapPaths = []) (resolved : ResolvedSchema) :
    g.withoutGapPaths resolved = resolved := by
  simp [withoutGapPaths, h]

/-- The model with a single property. -/
def modelOf (p : Property) : Schema := { name := "Box", properties := [(some "content", p)] }

lemma filled_modelOf (h : p.FillsGap q) : (modelOf p).Filled (modelOf q) where
  name := rfl
  description := rfl
  properties := .cons ⟨rfl, .single h⟩ .nil

/-- Of two models that are resolved alike, neither has an import or both have. -/
lemma needsImport_iff_of_resolveSchema_eq {types types' : List String}
    (hsame : g.resolveSchema (modelOf p) = g.resolveSchema (modelOf q))
    (hp : g.typeNames p = .ok types) (hq : g.typeNames q = .ok types')
    {resolved : ResolvedProperty}
    (hresolved : g.resolveProperty (some "content") p = .ok resolved) :
    (∀ type ∈ types, needsImport type = false) ↔ ∀ type ∈ types', needsImport type = false := by
  have hpaths : g.importsOf p = .ok (g.importsOfTypes types) := by rw [importsOf, hp]; rfl
  have hpaths' : g.importsOf q = .ok (g.importsOfTypes types') := by rw [importsOf, hq]; rfl
  obtain ⟨model, hmodel⟩ : ∃ model, g.resolveSchema (modelOf p) = .ok model :=
    ⟨_, resolveSchema_eq_ok_iff.mpr ⟨[resolved], [g.importsOfTypes types],
      mapM_eq_ok_iff.mpr (.cons hresolved .nil), mapM_eq_ok_iff.mpr (.cons hpaths .nil), rfl⟩⟩
  have hleft (path : String) : path ∈ model.imports ↔ path ∈ g.importsOfTypes types := by
    simp [mem_imports_iff hmodel, modelOf, hpaths]
  have hright (path : String) : path ∈ model.imports ↔ path ∈ g.importsOfTypes types' := by
    simp [mem_imports_iff (hsame ▸ hmodel), modelOf, hpaths']
  simp only [← importsOfTypes_eq_nil_iff (g := g), List.eq_nil_iff_forall_not_mem, ← hleft,
    ← hright]

lemma typeNames_any : g.typeNames (.referenceTo (.text "kotlin.Any")) = .ok ["kotlin.Any"] := by
  have hname : g.modelName "kotlin.Any" = "kotlin.Any" := if_pos (by decide)
  have hany : (Property.referenceTo (.text "kotlin.Any")).PointsAt "kotlin.Any" :=
    ⟨rfl, _, rfl, Or.inl rfl⟩
  refine typeNames_of_leaf (Property.leaves_referenceTo _) ?_
  rw [g.declaration_of_pointsAt hany (by decide), hname]

/-- If no gap matters, none of the types of gaps needs an import.  An array of entries shows it for
the object, and then the bare containers show it for their own types. -/
lemma needsImport_of_mem_gapTypes
    (hsame : ∀ s t : Schema, s.Filled t → g.resolveSchema s = g.resolveSchema t) :
    ∀ type ∈ g.gapTypes, needsImport type = false := by
  have hobject : needsImport g.objectType = false := by
    -- entries that need no import themselves, so that the object is all that is added
    let entries := some (Property.referenceTo (.text "kotlin.Any"))
    have hopen : g.typeNames (.mk .array (.text "array") .null none entries .null [])
        = .ok ["kotlin.Any"] := by
      rw [typeNames_of_element (by simp [entries]), elementTypeNames, elementTypeNames,
        typeNames_any]
      rfl
    have hfilled : g.typeNames (.mk .array (.text "array") .null (some .object) entries .null [])
        = .ok [g.objectType, "kotlin.Any"] := by
      rw [typeNames_of_element (by simp [entries]), elementTypeNames, elementTypeNames,
        typeNames_any]
      rfl
    have hiff := needsImport_iff_of_resolveSchema_eq (hsame _ _ (filled_modelOf .array)) hopen
      hfilled rfl
    exact hiff.mp (by decide) _ (by simp)
  have hcontainer (container : Container) :
      needsImport (g.wrap container g.objectType) = false := by
    have hfilled := filled_modelOf (Property.fillsGap_bare container)
    have hiff : (∀ type ∈ [g.wrap container g.objectType], needsImport type = false) ↔
        ∀ type ∈ [g.objectType], needsImport type = false := by
      cases container
      · exact needsImport_iff_of_resolveSchema_eq (hsame _ _ hfilled) rfl rfl rfl
      · exact needsImport_iff_of_resolveSchema_eq (hsame _ _ hfilled) rfl rfl rfl
    simpa using hiff.mpr (by simpa using hobject)
  simp [gapTypes, hobject, hcontainer]

/-- Filling gaps of a schema, any number of them at any depth, changes nothing that is resolved but
the imports of the types of gaps: models and refusals are the same otherwise.  It changes nothing at
all, for every schema, exactly if none of these types needs an import. -/
theorem resolveSchema_of_filled (g : Generator) :
    (∀ s t : Schema, s.Filled t →
      (g.resolveSchema s).map g.withoutGapPaths = (g.resolveSchema t).map g.withoutGapPaths) ∧
    ((∀ s t : Schema, s.Filled t → g.resolveSchema s = g.resolveSchema t) ↔
      ∀ type ∈ g.gapTypes, needsImport type = false) := by
  refine ⟨fun s t => map_withoutGapPaths_of_filled, needsImport_of_mem_gapTypes,
    fun hgaps s t h => ?_⟩
  have hself : g.withoutGapPaths = id :=
    funext (withoutGapPaths_eq_self (importsOfTypes_eq_nil_iff.mpr hgaps))
  have hsame := map_withoutGapPaths_of_filled (g := g) h
  rwa [hself, Except.map_id, id, id] at hsame

/-- Settings in which the object and the containers are built in. -/
def builtinSettings : Settings :=
  { modelPackage := "com.acme"
    typeMappings := [("object", "kotlin.Any"), ("array", "kotlin.Array"),
      ("map", "kotlin.collections.Map")] }

/-- An array without items and the same array of objects: with the settings above they are resolved
alike, and with a package alone they differ in their imports only. -/
theorem resolveSchema_of_filled_array :
    let bare := modelOf (.bare .array)
    let whole := modelOf (.arrayOf .object)
    let g := ofSettings { modelPackage := "com.acme" }
    bare.Filled whole ∧
      (ofSettings builtinSettings).resolveSchema bare
        = (ofSettings builtinSettings).resolveSchema whole ∧
      g.gapPaths
        = ["com.acme.Empty", "com.acme.Array<Empty>", "com.acme.Map<String, Empty>"] ∧
      (g.resolveSchema bare).map g.withoutGapPaths
        = (g.resolveSchema whole).map g.withoutGapPaths := by
  intro bare whole g
  have hfilled : bare.Filled whole := filled_modelOf (Property.fillsGap_bare .array)
  have hbuiltin : ∀ type ∈ (ofSettings builtinSettings).gapTypes, needsImport type = false := by
    decide +kernel
  exact ⟨hfilled, (resolveSchema_of_filled _).2.mpr hbuiltin _ _ hfilled, by decide +kernel,
    (resolveSchema_of_filled g).1 _ _ hfilled⟩

/-- To state the object of an array without items does not leave all that is resolved as it is: with
the default tables it changes the imports. -/
theorem bare_array_imported :
    ¬ ∀ (s : Settings) (flavor : Flavor) (schema filled : Schema), schema.Filled filled →
      (ofSettings s flavor).resolveSchema schema = (ofSettings s flavor).resolveSchema filled := by
  intro h
  let bare := modelOf (.bare .array)
  let whole := modelOf (.arrayOf .object)
  let g := ofSettings { modelPackage := "com.acme" }
  have hsame : g.resolveSchema bare = g.resolveSchema whole :=
    h _ _ _ _ (filled_modelOf (Property.fillsGap_bare .array))
  have hbare : (g.resolveSchema bare).map (·.imports) = .ok ["com.acme.Array<Empty>"] := by
    decide +kernel
  have hwhole : (g.resolveSchema whole).map (·.imports) = .ok ["com.acme.Empty"] := by
    decide +kernel
  rw [hsame, hwhole] at hbare
  exact absurd hbare (by decide)

end Nomenclator.Kotlin.Generator
