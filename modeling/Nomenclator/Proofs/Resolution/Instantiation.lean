import Nomenclator.Proofs.Kotlin.ClassNames
import Nomenclator.Proofs.Resolution.Completeness

/-!
# Types in the expressions for default values

The default value of a map is made by a function that is given the types of its keys and values.
These should be the types that the map is declared with, but the two are written by different
functions.  The declaration of a map contains the declaration of its values; the expression contains
only the outermost type of the values, which is what their keyword is looked up as.

`IsWholeType` says for which values the outermost type is the declaration: it depends on the tables
of the generator for a primitive type and for a reference, it takes a table with that very
declaration for an array, and it is never so for a map.  `typeArguments_instantiation_iff` draws the
conclusion for the two texts, and `array_made_without_items` is the smallest case with the default
tables in which they differ.
-/

namespace Nomenclator.Kotlin.Generator

/-! ## Type arguments -/

/-- The text between the outer angle brackets of a type, whose last character is the closing one. -/
def typeArguments (type : String) : String :=
  onText (fun cs => ((cs.dropWhile (· ≠ '<')).drop 1).dropLast) type

/-- What stands between angle brackets behind a name without any. -/
lemma typeArguments_enclosed {head : String} (hhead : '<' ∉ head.toList) (arguments : String) :
    typeArguments (head ++ "<" ++ arguments ++ ">") = arguments := by
  have hdrop : (head.toList ++ ('<' :: (arguments.toList ++ ['>']))).dropWhile (· ≠ '<')
      = '<' :: (arguments.toList ++ ['>']) := by
    rw [List.dropWhile_append_of_pos]
    · simp
    · intro c hc
      simpa using fun heq : c = '<' => hhead (heq ▸ hc)
  have htext : (head ++ "<" ++ arguments ++ ">").toList
      = head.toList ++ ('<' :: (arguments.toList ++ ['>'])) := by
    simp
  rw [typeArguments, onText, htext, hdrop, List.drop_one, List.tail_cons, List.dropLast_concat,
    String.ofList_toList]

/-- A name with the type of keys and a type of values for its arguments. -/
def withValues (g : Generator) (name values : String) : String :=
  name ++ "<" ++ (g.tables.textType ++ ", " ++ values) ++ ">"

/-! ## Outermost types -/

/-- The outermost type of a property is its whole type.  For a primitive property the name of the
type stands for itself in the table of types; for a reference the table does not lead away from the
class of the name; for an array the table of well-known types has the declaration under the type of
arrays. -/
def IsWholeType (g : Generator) (p : Property) : Prop :=
  match p.shape with
  | .primitive => ∃ type, g.outerType p = .ok type ∧ g.tables.typeOf type = type
  | .reference =>
    ∃ name, p.targetName = .ok name ∧ g.modelName (g.tables.typeOf name) = g.modelName name
  | .array =>
    hasBuiltinPrefix g.tables.arrayType = false ∧
      ∃ d, g.declaration p = .ok d ∧ g.tables.imports.lookup g.tables.arrayType = some d
  | .map => False

lemma not_mem_className (t : Transcoder) (name : String) :
    '<' ∉ (onText (className t) name).toList := by
  rw [onText, String.toList_ofList]
  intro hmem
  exact absurd (isWordChar_or_escapeMark_of_mem_className hmem) (by decide)

lemma ne_enclosed (head arguments : String) : head ≠ head ++ "<" ++ arguments ++ ">" := by
  intro heq
  have hlength := congrArg String.length heq
  have hbracket : "<".length = 1 := rfl
  simp only [String.length_append] at hlength
  omega

/-- A name with type arguments is the class name of no model but one that the table has so. -/
lemma modelName_eq_enclosed_iff {g : Generator} {name arguments : String} :
    g.modelName name = name ++ "<" ++ arguments ++ ">" ↔
      hasBuiltinPrefix name = false ∧
        g.tables.imports.lookup name = some (name ++ "<" ++ arguments ++ ">") := by
  unfold modelName
  cases hasBuiltinPrefix name
  · cases g.tables.imports.lookup name with
    | some known => simp
    | none =>
      have hderived : onText (className g.tables.transcoder) name
          ≠ name ++ "<" ++ arguments ++ ">" := by
        intro heq
        exact not_mem_className g.tables.transcoder name (by simp [heq])
      simp [hderived]
  · simpa using ne_enclosed name arguments

/-! ## Outermost types and declarations -/

section Values

variable {g : Generator} {v : Property} {d : String}

lemma declaration_arrayOf (h : g.declaration v = .ok d) :
    g.declaration (.arrayOf v) = .ok (g.tables.arrayType ++ "<" ++ d ++ ">") := by
  rw [← Property.inside, declaration_inside, h]
  rfl

lemma declaration_mapOf (h : g.declaration v = .ok d) :
    g.declaration (.mapOf v) = .ok (g.withValues (g.modelName g.tables.mapType) d) := by
  rw [withValues, ← String.append_assoc, ← String.append_assoc, ← Property.inside,
    declaration_inside, h]
  rfl

lemma instantiation_mapOf {type : String} (h : g.outerType v = .ok type) :
    g.instantiation (.mapOf v) = .ok (some (g.withValues Tables.mapConstructor type)) := by
  rw [withValues, ← String.append_assoc, ← String.append_assoc, instantiation, Property.mapOf,
    Property.shape, Property.entries, Option.getD_some, h]
  rfl

variable (hform : v.WellFormed) (hleaves : ∀ leaf ∈ v.leaves, leaf.HasKeyword)

include hform hleaves

/-- The outermost type of a property is its declaration exactly when it is the whole type. -/
lemma outerType_eq_declaration_iff : g.outerType v = g.declaration v ↔ g.IsWholeType v := by
  obtain ⟨keyword, hkeyword⟩ := hasKeyword_of_leaves hform hleaves
  have houter := outerType_of_keyword (g := g) hkeyword
  cases hform with
  | primitive t format choices =>
    show _ = (g.outerType _).map g.tables.typeOf ↔ ∃ type, g.outerType _ = .ok type ∧ _
    rw [houter]
    simp [Except.map, eq_comm]
  | reference target =>
    obtain ⟨name, hname, hsame⟩ := map_eq_ok_iff.mp hkeyword
    obtain rfl := Value.text.inj hsame
    show _ = (Property.targetName _).map g.modelName ↔ ∃ name, Property.targetName _ = .ok name ∧ _
    rw [houter, hname]
    simp [Except.map]
  | @array items hitems =>
    obtain ⟨d, hd⟩ := exists_declaration hitems (by rwa [← Property.leaves_inside .array]) g
    have hdeclared := declaration_arrayOf hd
    have hmodel : g.outerType (.arrayOf items) = .ok (g.modelName g.tables.arrayType) := rfl
    show g.outerType (.arrayOf items) = g.declaration (.arrayOf items) ↔
      _ ∧ ∃ whole, g.declaration (.arrayOf items) = .ok whole ∧ _
    rw [hmodel, hdeclared, Except.ok.injEq, modelName_eq_enclosed_iff]
    simp
  | @map entries hentries =>
    obtain ⟨d, hd⟩ := exists_declaration hentries (by rwa [← Property.leaves_inside .map]) g
    have hmodel : g.outerType (.mapOf entries) = .ok (g.modelName g.tables.mapType) := rfl
    refine iff_of_false ?_ not_false
    show g.outerType (.mapOf entries) ≠ g.declaration (.mapOf entries)
    rw [hmodel, declaration_mapOf hd, ne_eq, Except.ok.injEq]
    exact ne_enclosed _ _

end Values

/-- A map is declared by a type and made by an expression, and the two have the same type for the
keys.  For the values the declaration has their declaration and the expression their outermost type,
so the arguments are the same exactly when this is the whole type. -/
theorem typeArguments_instantiation_iff (g : Generator) {v : Property} (hform : v.WellFormed)
    (hleaves : ∀ leaf ∈ v.leaves, leaf.HasKeyword) :
    let head := g.modelName g.tables.mapType
    ∃ whole outer, g.declaration v = .ok whole ∧ g.outerType v = .ok outer ∧
      g.declaration (.mapOf v) = .ok (g.withValues head whole) ∧
      g.instantiation (.mapOf v) = .ok (some (g.withValues Tables.mapConstructor outer)) ∧
      (outer = whole ↔ g.IsWholeType v) ∧
      ('<' ∉ head.toList →
        (typeArguments (g.withValues Tables.mapConstructor outer)
          = typeArguments (g.withValues head whole) ↔ g.IsWholeType v)) := by
  intro head
  obtain ⟨outer, houter⟩ := exists_outerType hform hleaves g
  obtain ⟨whole, hwhole⟩ := exists_declaration hform hleaves g
  have hiff : outer = whole ↔ g.IsWholeType v := by
    rw [← outerType_eq_declaration_iff hform hleaves, houter, hwhole, Except.ok.injEq]
  refine ⟨whole, outer, hwhole, houter, declaration_mapOf hwhole, instantiation_mapOf houter, hiff,
    fun hhead => ?_⟩
  rw [withValues, withValues, typeArguments_enclosed (by decide), typeArguments_enclosed hhead,
    ← hiff]
  simp

/-- A map to the models of a definition whose name is no keyword. -/
theorem typeArguments_instantiation_iff_pet :
    let g := ofSettings {}
    let pets := Property.mapOf (.referenceTo (.text "#/definitions/pet"))
    g.declaration pets = .ok "Map<String, Pet>" ∧
      g.instantiation pets = .ok (some "mapOf<String, Pet>") := by
  intro g pets
  have hleaves : ∀ leaf ∈ (Property.referenceTo (.text "#/definitions/pet")).leaves,
      leaf.HasKeyword := by
    simpa using Property.hasKeyword_referenceTo "#/definitions/pet"
  obtain ⟨whole, outer, hwhole, -, hdeclared, hmade, hiff, -⟩ :=
    typeArguments_instantiation_iff g (.reference (.text "#/definitions/pet")) hleaves
  have hpet : g.declaration (.referenceTo (.text "#/definitions/pet")) = .ok "Pet" := by
    decide +kernel
  obtain rfl : whole = "Pet" := Except.ok.inj (hwhole.symm.trans hpet)
  obtain rfl : outer = "Pet" := hiff.mpr ⟨"pet", rfl, by decide +kernel⟩
  exact ⟨hdeclared.trans (by decide +kernel), hmade.trans (by decide +kernel)⟩

/-- The expression for a map does not always have the type arguments of its declaration: that for a
map to arrays of whole numbers has a bare array for the type of the values. -/
theorem array_made_without_items :
    ¬ ∀ (s : Settings) (flavor : Flavor) (v : Property), v.WellFormed →
      (∀ leaf ∈ v.leaves, leaf.HasKeyword) → ∀ declared made,
        (ofSettings s flavor).declaration (.mapOf v) = .ok declared →
        (ofSettings s flavor).instantiation (.mapOf v) = .ok (some made) →
        typeArguments made = typeArguments declared := by
  intro h
  let numbers := Property.arrayOf (.primitive (.text "integer") .null [])
  have hleaves : ∀ leaf ∈ numbers.leaves, leaf.HasKeyword := by
    simpa [numbers, Property.primitive, Property.leaves] using
      Property.hasKeyword_primitive "integer" [] (Or.inl rfl)
  have hsame := h {} {} numbers (.array (.primitive _ _ [])) hleaves "Map<String, Array<Int>>"
    "mapOf<String, Array>" (by decide +kernel) (by decide +kernel)
  exact absurd hsame (by decide +kernel)

end Nomenclator.Kotlin.Generator
