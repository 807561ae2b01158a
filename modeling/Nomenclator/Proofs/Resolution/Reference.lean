import Nomenclator.Resolution
import Nomenclator.Proofs.Journal
import Nomenclator.Proofs.Table
import Nomenclator.Proofs.Schema.Leaves

/-!
# One definition under three names

A definition is named in three places: where a property refers to it, where its class is declared,
and in the name of its file.  Each place makes the name by itself: a reference from the end of its
target, the class from the name of the schema, and the file from that name with its hyphens turned
into underscores first.

`reference_names_class` says that the three are one name.  For the class this is so without
exception.  For the file it has to be said which names are not derived but found: one that begins
like a complete name, and one that the table of well-known types has, with its hyphens or without.
Any other name is derived, and the derivation turns hyphens into underscores in any case, behind the
dots: `classWord_underscored` says that it does not matter that this has been done before.
-/

namespace Nomenclator.Kotlin

/-! ## Hyphens and underscores -/

/-- A character with the underscore in place of the hyphen. -/
def hyphenToUnderscore (c : Char) : Char := if c = '-' then '_' else c

/-- A name with underscores in place of its hyphens. -/
def underscored (name : String) : String := onText (List.map hyphenToUnderscore) name

lemma hyphenToUnderscore_idem (c : Char) :
    hyphenToUnderscore (hyphenToUnderscore c) = hyphenToUnderscore c := by
  unfold hyphenToUnderscore
  split <;> simp [*]

lemma hyphenToUnderscore_eq_iff {c x : Char} (hhyphen : x ≠ '-') (hunderscore : x ≠ '_') :
    hyphenToUnderscore c = x ↔ c = x := by
  unfold hyphenToUnderscore
  split <;> rename_i hc
  · subst hc
    exact ⟨fun h => absurd h.symm hunderscore, fun h => absurd h.symm hhyphen⟩
  · exact Iff.rfl

/-- A beginning without hyphens and underscores is not affected. -/
lemma isPrefixOf_map_hyphenToUnderscore (start : List Char) (hhyphen : '-' ∉ start)
    (hunderscore : '_' ∉ start) (cs : List Char) :
    start.isPrefixOf (cs.map hyphenToUnderscore) = start.isPrefixOf cs := by
  induction start generalizing cs with
  | nil => simp
  | cons x start ih =>
    rw [List.mem_cons, not_or] at hhyphen hunderscore
    cases cs with
    | nil => rfl
    | cons c cs =>
      have hhead : (x == hyphenToUnderscore c) = (x == c) := by
        rw [Bool.eq_iff_iff, beq_iff_eq, beq_iff_eq, eq_comm,
          hyphenToUnderscore_eq_iff (Ne.symm hhyphen.1) (Ne.symm hunderscore.1), eq_comm]
      rw [List.map_cons, List.isPrefixOf, List.isPrefixOf, hhead, ih hhyphen.2 hunderscore.2]

lemma hasBuiltinPrefix_underscored (name : String) :
    hasBuiltinPrefix (underscored name) = hasBuiltinPrefix name := by
  have hkotlin := isPrefixOf_map_hyphenToUnderscore "kotlin.".toList (by decide) (by decide)
    name.toList
  have hjava := isPrefixOf_map_hyphenToUnderscore "java.".toList (by decide) (by decide)
    name.toList
  simp only [hasBuiltinPrefix, builtinPrefixes, underscored, onText, String.toList_ofList,
    List.any_cons, List.any_nil, hkotlin, hjava]

/-- Hyphens that have been turned into underscores beforehand make the same word. -/
lemma classWord_underscored (t : Transcoder) (name : List Char) :
    classWord t (name.map hyphenToUnderscore) = classWord t name := by
  have hdots : (name.map hyphenToUnderscore).filter (· ≠ '.')
      = (name.filter (· ≠ '.')).map hyphenToUnderscore := by
    rw [List.filter_map]
    congr 2
    funext c
    simp [hyphenToUnderscore_eq_iff]
  show t.sanitize (((name.map hyphenToUnderscore).filter (· ≠ '.')).map hyphenToUnderscore)
    = t.sanitize ((name.filter (· ≠ '.')).map hyphenToUnderscore)
  rw [hdots, List.map_map]
  congr 2
  funext c
  exact hyphenToUnderscore_idem c

namespace Generator

/-! ## Names of classes and files -/

lemma modelName_of_derived {g : Generator} {name : String}
    (hbuiltin : hasBuiltinPrefix name = false) (hname : name ∉ g.tables.imports.keys) :
    g.modelName name = onText (className g.tables.transcoder) name := by
  rw [modelName, hbuiltin, Table.lookup_eq_none_iff.mpr hname]
  rfl

/-- The file of a model whose name is derived is named like its class. -/
lemma modelFile_eq_modelName {g : Generator} {name : String}
    (hbuiltin : hasBuiltinPrefix name = false) (hname : name ∉ g.tables.imports.keys)
    (hunderscored : underscored name ∉ g.tables.imports.keys) :
    g.modelFile name = g.modelName name := by
  have hbuiltin' : hasBuiltinPrefix (underscored name) = false := by
    rw [hasBuiltinPrefix_underscored, hbuiltin]
  calc g.modelFile name
      = g.modelName (underscored name) := rfl
    _ = onText (className g.tables.transcoder) (underscored name) :=
        modelName_of_derived hbuiltin' hunderscored
    _ = onText (className g.tables.transcoder) name := by
        simp only [underscored, onText, String.toList_ofList, className, classWord_underscored]
    _ = g.modelName name := (modelName_of_derived hbuiltin hname).symm

/-! ## References and resolved schemas -/

/-- A reference is declared by the class name of what it points at. -/
lemma declaration_of_pointsAt (g : Generator) {reference : Property} {name : String}
    (h : reference.PointsAt name) (hname : '/' ∉ name.toList) :
    g.declaration reference = .ok (g.modelName name) := by
  have htarget := h.targetName hname
  obtain ⟨shape, type, format, items, entries, target, choices⟩ := reference
  obtain rfl : shape = .reference := h.1
  simp only [declaration, leafDeclaration, Property.shape, htarget, Except.map]

/-- A schema is resolved when its properties and their imports are. -/
lemma resolveSchema_eq_ok_iff {g : Generator} {s : Schema} {resolved : ResolvedSchema} :
    g.resolveSchema s = .ok resolved ↔
      ∃ properties imports,
        s.properties.mapM (fun p => g.resolveProperty p.1 p.2) = .ok properties ∧
        s.properties.mapM (fun p => g.importsOf p.2) = .ok imports ∧
        resolved = { className := g.modelName s.name, filename := g.modelFile s.name,
                     declaredName := s.name, properties,
                     imports := Text.sortedSet imports.flatten, description := s.description } := by
  simp only [resolveSchema, bind_eq_ok_iff, pure, Except.pure, Except.ok.injEq]
  constructor
  · rintro ⟨properties, hproperties, imports, himports, rfl⟩
    exact ⟨properties, imports, hproperties, himports, rfl⟩
  · rintro ⟨properties, imports, hproperties, himports, rfl⟩
    exact ⟨properties, hproperties, imports, himports, rfl⟩

/-- A reference to a definition is declared by the name of the class that the definition resolves
to, and that is the name of its file as well where the name is derived. -/
theorem reference_names_class (g : Generator) {name : String} (hname : '/' ∉ name.toList)
    {reference : Property} (href : reference.PointsAt name) :
    ∃ className, g.declaration reference = .ok className ∧
      ∀ s resolved, s.name = name → g.resolveSchema s = .ok resolved →
        resolved.className = className ∧
        (hasBuiltinPrefix name = false → name ∉ g.tables.imports.keys →
          underscored name ∉ g.tables.imports.keys → resolved.filename = className) := by
  refine ⟨g.modelName name, g.declaration_of_pointsAt href hname, ?_⟩
  rintro s resolved rfl hresolved
  obtain ⟨properties, imports, -, -, rfl⟩ := resolveSchema_eq_ok_iff.mp hresolved
  exact ⟨rfl, modelFile_eq_modelName⟩

/-- A definition with a hyphen in its name, and a reference with a path in front of it. -/
theorem reference_names_class_hyphen :
    let g := ofSettings {}
    let reference := Property.referenceTo (.text "#/definitions/pet-tag")
    g.declaration reference = .ok "PetTag" ∧
      ∃ resolved, g.resolveSchema { name := "pet-tag" } = .ok resolved ∧
        resolved.className = "PetTag" ∧ resolved.filename = "PetTag" := by
  intro g reference
  have hpoints := Property.pointsAt_referenceTo "#/definitions" "pet-tag"
  obtain ⟨className, hdeclared, hschemas⟩ := reference_names_class g (by decide) hpoints
  obtain ⟨resolved, hresolved⟩ : ∃ resolved, g.resolveSchema { name := "pet-tag" } = .ok resolved :=
    ⟨_, rfl⟩
  obtain ⟨hname, hfile⟩ := hschemas _ resolved rfl hresolved
  obtain ⟨properties, imports, -, -, rfl⟩ := resolveSchema_eq_ok_iff.mp hresolved
  have hclass : g.modelName "pet-tag" = "PetTag" := by decide +kernel
  obtain rfl : className = "PetTag" := hname.symm.trans hclass
  exact ⟨hdeclared, _, hresolved, hname,
    hfile (by decide +kernel) (by decide +kernel) (by decide +kernel)⟩

end Generator

end Nomenclator.Kotlin
