import Nomenclator.Proofs.Resolution.Reference
import Nomenclator.Proofs.Word.Spelling

/-!
# What identifiers have in common with their names

An identifier is made from a name in two stages: the name is reduced to identifier characters, and
what is left is cased and, where the result is reserved, put between backticks.  The second stage
changes case, underscores and backticks and nothing else, for variables, for constants under every
convention and for classes: `fold_variableName`, `fold_constantName` and `fold_className` compare
the identifier with the reduced name when these three do not count.

So names that come out as one identifier were close before they were cased: reduced, they differ in
case and underscores at most, since a reduced name has no backticks.
-/

namespace Nomenclator.Kotlin

/-! ## Folding -/

/-- A word without underscores and backticks, in small letters. -/
def fold (w : Word) : Word := (w.filter fun c => c ≠ '_' ∧ c ≠ escapeMark).map Char.toLower

/-- A text without underscores and backticks, in small letters. -/
def folded (s : String) : String := onText fold s

/-- A text without underscores, in small letters. -/
def spelled (s : String) : String := onText Word.spelling s

lemma fold_eq_filter_spelling (w : Word) :
    fold w = (Word.spelling w).filter (· ≠ escapeMark) := by
  have hmark (c : Char) : c.toLower = escapeMark ↔ c = escapeMark :=
    Text.toLower_eq_iff (by decide)
  rw [fold, Word.spelling, List.filter_map, List.filter_filter]
  congr 2
  funext c
  simp [hmark, and_comm]

lemma fold_of_respells {v w : Word} (h : Word.Respells v w) : fold w = fold v := by
  rw [fold_eq_filter_spelling, h.same, ← fold_eq_filter_spelling]

lemma fold_escape (w : Word) : fold (escape w) = fold w := by
  simp [fold, escape]

lemma fold_escapeReserved (w : Word) : fold (escapeReserved w) = fold w := by
  rw [escapeReserved]
  split
  · exact fold_escape w
  · rfl

/-- Where no backticks are to be left out, only underscores and case make the difference. -/
lemma fold_eq_spelling {w : Word} (hw : ∀ c ∈ w, Text.isWordChar c = true) :
    fold w = Word.spelling w := by
  rw [fold, Word.spelling]
  congr 1
  refine List.filter_congr fun c hc => ?_
  have hne : c ≠ escapeMark := by
    rintro rfl
    exact absurd (hw _ hc) (by decide)
  simp [hne]

lemma folded_eq_folded {v w : Word} (h : fold v = fold w) :
    folded (String.ofList v) = folded (String.ofList w) := by
  rw [folded, folded, onText, onText, String.toList_ofList, String.toList_ofList, h]

lemma spelled_eq_spelled {v w : Word} (hv : ∀ c ∈ v, Text.isWordChar c = true)
    (hw : ∀ c ∈ w, Text.isWordChar c = true)
    (h : folded (String.ofList v) = folded (String.ofList w)) :
    spelled (String.ofList v) = spelled (String.ofList w) := by
  rw [folded, folded, onText, onText, String.toList_ofList, String.toList_ofList,
    fold_eq_spelling hv, fold_eq_spelling hw] at h
  rw [spelled, spelled, onText, onText, String.toList_ofList, String.toList_ofList, h]

/-! ## Reduced names -/

lemma isWordChar_of_mem_reduceNamed {name : Option Word} {c : Char}
    (hc : c ∈ Word.reduceNamed name) : Text.isWordChar c = true := by
  cases name with
  | none =>
    exact List.all_eq_true.mp (by decide : Word.missingName.all Text.isWordChar = true) c hc
  | some w =>
    rw [Word.reduceNamed, Word.reduce] at hc
    split at hc
    · exact List.all_eq_true.mp (by decide : "value".toList.all Text.isWordChar = true) c hc
    · exact (List.mem_filter.mp hc).2

namespace Transcoder

lemma isWordChar_of_mem_collapse {inRun : Bool} {w : Word} {c : Char}
    (hc : c ∈ collapse inRun w) : Text.isWordChar c = true := by
  induction w generalizing inRun with
  | nil => exact absurd hc List.not_mem_nil
  | cons x w ih =>
    rw [collapse] at hc
    split at hc <;> rename_i hx
    · rcases List.mem_cons.mp hc with rfl | hc
      · exact hx
      · exact ih hc
    · split at hc
      · exact ih hc
      · rcases List.mem_cons.mp hc with rfl | hc
        · decide
        · exact ih hc

lemma isWordChar_of_mem_guardDigit {w : Word} (hw : ∀ c ∈ w, Text.isWordChar c = true) :
    ∀ c ∈ guardDigit w, Text.isWordChar c = true := by
  unfold guardDigit
  split
  · split
    · exact List.forall_mem_cons.mpr ⟨by decide, hw⟩
    · exact hw
  · exact hw

/-- A transcoder makes identifier characters only. -/
lemma isWordChar_of_mem_sanitize (t : Transcoder) (w : Word) :
    ∀ c ∈ t.sanitize w, Text.isWordChar c = true := by
  have hguarded : ∀ c ∈ guardDigit (collapse false (replace t.replacements w)),
      Text.isWordChar c = true :=
    isWordChar_of_mem_guardDigit fun _ hc => isWordChar_of_mem_collapse hc
  rw [sanitize, nameUnderscores]
  split
  · exact List.all_eq_true.mp (by decide : underscoreWord.all Text.isWordChar = true)
  · exact hguarded

end Transcoder

/-! ## Identifiers -/

variable {w : Word}

lemma respells_of_isWordChar (hw : ∀ c ∈ w, Text.isWordChar c = true) : Word.Respells w w :=
  Word.Respells.refl fun c hc => Word.isPlain_of_isWordChar (hw c hc)

/-- Backticks leave a word plain. -/
lemma respells_escapeReserved (hw : ∀ c ∈ w, Text.isWordChar c = true) :
    Word.Respells (escapeReserved w) (escapeReserved w) := by
  refine Word.Respells.refl fun c hc => ?_
  rw [escapeReserved] at hc
  split at hc
  · rw [escape, List.cons_append, List.mem_cons, List.mem_append, List.mem_singleton] at hc
    rcases hc with rfl | hc | rfl
    · decide
    · exact Word.isPlain_of_isWordChar (hw c hc)
    · decide
  · exact Word.isPlain_of_isWordChar (hw c hc)

lemma fold_variableOfWord (hw : ∀ c ∈ w, Text.isWordChar c = true) :
    fold (variableOfWord w) = fold w := by
  have hcamel : fold (Word.lowerCamel w) = fold w :=
    fold_of_respells (respells_of_isWordChar hw).lowerCamel
  rw [variableOfWord]
  split
  · rfl
  · dsimp only
    split
    · rw [fold_escape, hcamel]
    · exact hcamel

lemma fold_variableName (name : Option Word) :
    fold (variableName name) = fold (Word.reduceNamed name) :=
  fold_variableOfWord fun _ hc => isWordChar_of_mem_reduceNamed hc

lemma fold_constantName (t : Transcoder) (convention : Convention) {value : Word}
    (hvalue : value ≠ []) : fold (constantName t convention value) = fold (t.sanitize value) := by
  have hword : (if value.isEmpty then emptyConstant else t.sanitize value) = t.sanitize value :=
    if_neg (by simpa using hvalue)
  have hcased : Word.Respells (t.sanitize value) (convention.applyWord (t.sanitize value)) :=
    (respells_of_isWordChar (t.isWordChar_of_mem_sanitize value)).applyWord convention
  rw [constantName, hword, fold_escapeReserved, fold_of_respells hcased]

lemma fold_classOfWord (hw : ∀ c ∈ w, Text.isWordChar c = true) :
    fold (classOfWord w) = fold w :=
  calc fold (classOfWord w)
      = fold (escapeReserved w) :=
        fold_of_respells (respells_escapeReserved hw).capitalize.upperCamel.capitalize
    _ = fold w := fold_escapeReserved w

lemma fold_className (t : Transcoder) (name : Word) :
    fold (className t name) = fold (classWord t name) :=
  fold_classOfWord (t.isWordChar_of_mem_sanitize _)

namespace Generator

/-! ## Identifiers of a generator -/

lemma folded_variableName (name : Option String) :
    folded (variableName name) = folded (Naming.reduce name) :=
  folded_eq_folded (fold_variableName (name.map String.toList))

lemma folded_constantName (g : Generator) {value : String} (hvalue : value ≠ "") :
    folded (g.constantName value) = folded (onText g.tables.transcoder.sanitize value) :=
  folded_eq_folded (fold_constantName _ _ fun h => hvalue (String.toList_eq_nil_iff.mp h))

lemma folded_modelName (g : Generator) {name : String} (hbuiltin : hasBuiltinPrefix name = false)
    (hname : name ∉ g.tables.imports.keys) :
    folded (g.modelName name) = folded (onText (classWord g.tables.transcoder) name) := by
  rw [modelName_of_derived hbuiltin hname]
  exact folded_eq_folded (fold_className _ _)

/-- Identifiers have everything but case, underscores and backticks in common with the reduced names
that they are made from, and names that get the same identifier, reduced, differ in case and
underscores at most. -/
theorem folded_identifiers (g : Generator) :
    (∀ name, folded (variableName name) = folded (Naming.reduce name)) ∧
    (∀ value, value ≠ "" →
      folded (g.constantName value) = folded (onText g.tables.transcoder.sanitize value)) ∧
    (∀ name, hasBuiltinPrefix name = false → name ∉ g.tables.imports.keys →
      folded (g.modelName name) = folded (onText (classWord g.tables.transcoder) name)) ∧
    (∀ a b, variableName a = variableName b →
      spelled (Naming.reduce a) = spelled (Naming.reduce b)) ∧
    (∀ a b, a ≠ "" → b ≠ "" → g.constantName a = g.constantName b →
      spelled (onText g.tables.transcoder.sanitize a)
        = spelled (onText g.tables.transcoder.sanitize b)) ∧
    (∀ a b, hasBuiltinPrefix a = false → a ∉ g.tables.imports.keys →
      hasBuiltinPrefix b = false → b ∉ g.tables.imports.keys → g.modelName a = g.modelName b →
      spelled (onText (classWord g.tables.transcoder) a)
        = spelled (onText (classWord g.tables.transcoder) b)) := by
  have hwords := g.tables.transcoder.isWordChar_of_mem_sanitize
  refine ⟨folded_variableName, fun value => g.folded_constantName,
    fun name => g.folded_modelName, ?_, ?_, ?_⟩
  · intro a b hsame
    have hfolded : folded (Naming.reduce a) = folded (Naming.reduce b) := by
      rw [← folded_variableName, hsame, folded_variableName]
    exact spelled_eq_spelled (fun _ => isWordChar_of_mem_reduceNamed)
      (fun _ => isWordChar_of_mem_reduceNamed) hfolded
  · intro a b ha hb hsame
    refine spelled_eq_spelled (hwords _) (hwords _) ?_
    calc folded (onText g.tables.transcoder.sanitize a)
        = folded (g.constantName a) := (g.folded_constantName ha).symm
      _ = folded (g.constantName b) := by rw [hsame]
      _ = folded (onText g.tables.transcoder.sanitize b) := g.folded_constantName hb
  · intro a b habuiltin ha hbbuiltin hb hsame
    refine spelled_eq_spelled (hwords _) (hwords _) ?_
    calc folded (onText (classWord g.tables.transcoder) a)
        = folded (g.modelName a) := (g.folded_modelName habuiltin ha).symm
      _ = folded (g.modelName b) := by rw [hsame]
      _ = folded (onText (classWord g.tables.transcoder) b) := g.folded_modelName hbbuiltin hb

/-- Two properties, two enum constants and two models that get the same identifier, and a model with
a reserved name. -/
theorem folded_identifiers_collisions :
    let g := ofSettings { enumNaming := .snakeCase }
    (variableName (some "pet_id") = variableName (some "pet[Id]") ∧
      spelled "pet_id" = spelled "pet_Id") ∧
    (g.constantName "onSale" = g.constantName "On sale" ∧ spelled "onSale" = spelled "On_sale") ∧
    (g.modelName "pet-tag" = g.modelName "Pet.Tag" ∧ spelled "pet_tag" = spelled "PetTag") ∧
    (g.modelName "fun" = "\x60Fun\x60" ∧ folded "\x60Fun\x60" = folded "fun") := by
  intro g
  obtain ⟨-, -, hclass, hvariables, hconstants, hclasses⟩ := folded_identifiers g
  have hid : variableName (some "pet_id") = variableName (some "pet[Id]") := by decide +kernel
  have hsale : g.constantName "onSale" = g.constantName "On sale" := by decide +kernel
  have htag : g.modelName "pet-tag" = g.modelName "Pet.Tag" := by decide +kernel
  have hreserved : g.modelName "fun" = "\x60Fun\x60" := by decide +kernel
  refine ⟨⟨hid, ?_⟩, ⟨hsale, ?_⟩, ⟨htag, ?_⟩, hreserved, ?_⟩
  · have hfirst : Naming.reduce (some "pet_id") = "pet_id" := by decide +kernel
    have hsecond : Naming.reduce (some "pet[Id]") = "pet_Id" := by decide +kernel
    rw [← hfirst, ← hsecond]
    exact hvariables _ _ hid
  · have hfirst : onText g.tables.transcoder.sanitize "onSale" = "onSale" := by decide +kernel
    have hsecond : onText g.tables.transcoder.sanitize "On sale" = "On_sale" := by decide +kernel
    rw [← hfirst, ← hsecond]
    exact hconstants _ _ (by decide) (by decide) hsale
  · have hfirst : onText (classWord g.tables.transcoder) "pet-tag" = "pet_tag" := by decide +kernel
    have hsecond : onText (classWord g.tables.transcoder) "Pet.Tag" = "PetTag" := by decide +kernel
    rw [← hfirst, ← hsecond]
    exact hclasses _ _ (by decide +kernel) (by decide +kernel) (by decide +kernel)
      (by decide +kernel) htag
  · have hword : onText (classWord g.tables.transcoder) "fun" = "fun" := by decide +kernel
    have hfolded := hclass "fun" (by decide +kernel) (by decide +kernel)
    rwa [hreserved, hword] at hfolded

end Generator

end Nomenclator.Kotlin
