import Nomenclator.Proofs.Kotlin.Transcoding

/-!
# Class names

A class name is derived from the word that transcoding leaves: upper camel case of it, or, where the
word is reserved, the word with its first letter raised, between backticks.  Camel case begins with
the capital form of the first letter or digit of the word, and no reserved word begins like that:
`Generator.modelName_form`.

Deriving a class name from a class name leads back to it as long as there are no backticks.  The
name has no dots and no hyphens, the default table has nothing to say about it, and an underscore
that is put in front of a digit is dissolved again.  Backticks do not come back: they are transcoded
to underscores, and the word with an underscore in it is not reserved.

Names that are not derived but found get in the way once: a derived name may be a well-known one,
and is then replaced by what the table has for it, which is never the name itself.  Complete names
and what the table has lead to themselves: `Generator.modelName_modelName_iff`.
-/

namespace Nomenclator.Kotlin

variable {w : Word}

/-! ## The form of a class name -/

lemma capitalize_escape (w : Word) : Word.capitalize (escape w) = escape w := by
  rw [escape, List.cons_append, Word.capitalize, Text.upperChar_of_ascii (by decide)]
  rfl

/-- The first identifier character stands behind the backtick. -/
lemma raiseFirst_escape (hw : ∀ c ∈ w, Text.isWordChar c = true) :
    Word.raiseFirst (escape w) = escape (Word.capitalize w) := by
  have hmark : ¬Text.isWordChar escapeMark = true := by decide
  rw [escape, List.cons_append, Word.raiseFirst, if_neg hmark]
  cases w with
  | nil => rfl
  | cons c w =>
    have hc : Text.isWordChar c = true := hw c List.mem_cons_self
    rw [Word.capitalize_cons hc, List.cons_append, Word.raiseFirst, if_pos hc]
    rfl

/-- A name between backticks without underscores keeps its spelling. -/
lemma upperCamel_escape (hw : ∀ c ∈ w, Text.isWordChar c = true) (hmark : '_' ∉ w) :
    Word.upperCamel (escape w) = escape (Word.capitalize w) := by
  have hquoted {v : Word} (hv : ∀ c ∈ v, Text.isWordChar c = true) {x : Char}
      (hx : Text.isWordChar x = false ∧ x ≠ escapeMark) : x ∉ escape v := by
    rw [mem_escape_iff, not_or]
    exact ⟨Word.not_mem_of_isWordChar hv hx.1, hx.2⟩
  have hchars := Word.isWordChar_of_mem_capitalize hw
  have hunderscore : '_' ∉ escape (Word.capitalize w) := by
    rw [mem_escape_iff, not_or]
    refine ⟨?_, by decide⟩
    cases w with
    | nil => exact hmark
    | cons c w =>
      rw [List.mem_cons, not_or] at hmark
      rw [Word.capitalize_cons (hw c List.mem_cons_self), List.mem_cons, not_or]
      exact ⟨fun heq => hmark.1 ((Text.toUpper_eq_iff (by decide)).mp heq.symm).symm, hmark.2⟩
  rw [Word.upperCamel, Word.joinParts_of_not_mem (hquoted hw (by decide)) (hquoted hw (by decide)),
    capitalize_escape, raiseFirst_escape hw,
    Word.withoutUnderscores_eq_closeUp (hquoted hchars (by decide)),
    Word.closeUp_eq_self fun hmem => hunderscore (List.dropLast_subset _ hmem),
    Word.withoutHyphens_of_not_mem (hquoted hchars (by decide))]

lemma classOfWord_of_isReserved (h : isReserved w = true) :
    classOfWord w = escape (Word.capitalize w) := by
  have hmark : '_' ∉ w := fun hmem =>
    absurd (isLower_of_isReserved h hmem) (by decide)
  rw [classOfWord, escapeReserved, if_pos h, capitalize_escape,
    upperCamel_escape (isWordChar_of_isReserved h) hmark, capitalize_escape]

lemma classOfWord_of_not_isReserved (hw : ∀ c ∈ w, Text.isWordChar c = true)
    (h : isReserved w = false) : classOfWord w = Word.upperCamel w := by
  rw [classOfWord, escapeReserved, if_neg (by simp [h]), Word.upperCamel_capitalize hw,
    Word.capitalize_upperCamel hw]

lemma classWord_of_isWordChar (t : Transcoder) (hw : ∀ c ∈ w, Text.isWordChar c = true) :
    classWord t w = t.sanitize w := by
  have hdots : w.filter (· ≠ '.') = w := by
    refine List.filter_eq_self.mpr fun c hc => decide_eq_true ?_
    rintro rfl
    exact absurd (hw '.' hc) (by decide)
  have hhyphens : (w.map fun c => if c = '-' then '_' else c) = w := by
    refine (List.map_congr_left fun c hc => if_neg ?_).trans (List.map_id w)
    rintro rfl
    exact absurd (hw '-' hc) (by decide)
  rw [classWord, hdots, hhyphens]

lemma isWordChar_of_mem_classWord (t : Transcoder) (name : Word) :
    ∀ c ∈ classWord t name, Text.isWordChar c = true :=
  t.isWordChar_of_mem_sanitize _

/-- A class name is made of identifier characters, with backticks around them at most. -/
lemma isWordChar_or_escapeMark_of_mem_className {t : Transcoder} {name : Word} {c : Char}
    (hc : c ∈ className t name) : Text.isWordChar c = true ∨ c = escapeMark := by
  have hw := isWordChar_of_mem_classWord t name
  rw [className] at hc
  cases hreserved : isReserved (classWord t name) with
  | true =>
    rw [classOfWord_of_isReserved hreserved, mem_escape_iff] at hc
    exact hc.imp_left (Word.isWordChar_of_mem_capitalize hw c)
  | false =>
    rw [classOfWord_of_not_isReserved hw hreserved] at hc
    exact Or.inl ((Word.isCamel_upperCamel hw).chars c hc)

/-- What a word that is not reserved is made into: camel form, begun by the capital form of the
first letter or digit of the word, and not reserved. -/
structure IsClassOf (w result : Word) : Prop where
  camel : Word.IsCamel result
  initial : ∃ c, w.find? Char.isAlphanum = some c ∧ result.head? = some c.toUpper
  free : isReserved result = false

lemma isClassOf_classOfWord (hw : ∀ c ∈ w, Text.isWordChar c = true) (hsolid : ∃ c ∈ w, c ≠ '_')
    (h : isReserved w = false) : IsClassOf w (classOfWord w) := by
  obtain ⟨c, hc⟩ := Word.exists_find?_isAlphanum hw hsolid
  have hhead : (Word.upperCamel w).head? = some c.toUpper := Word.head?_upperCamel hw hc
  rw [classOfWord_of_not_isReserved hw h]
  exact ⟨Word.isCamel_upperCamel hw, ⟨c, hc, hhead⟩,
    isReserved_eq_false (List.mem_of_head? hhead) (Char.isLower_toUpper_eq_false c)⟩

/-- Raising a digit leaves a digit, so a class name begins with one where the word leads with it. -/
lemma IsClassOf.startsWithDigit_iff {result : Word} (h : IsClassOf w result) :
    startsWithDigit result = true ↔ ∃ c, w.find? Char.isAlphanum = some c ∧ c.isDigit = true := by
  obtain ⟨c, hc, hhead⟩ := h.initial
  rw [Kotlin.startsWithDigit_iff, hhead, hc]
  simp only [Option.some.injEq, exists_eq_left', Word.isDigit_toUpper]

/-! ## Deriving a class name again -/

section Again

variable {name : Word}

/-- A word in camel form that is raised already leads to itself. -/
lemma className_of_raised (hcamel : Word.IsCamel w) (hraised : Word.capitalize w = w)
    (hsolid : ∃ c ∈ w, c ≠ '_') (hlarge : ∃ c ∈ w, c.isLower = false) :
    className (.ofTable defaultReplacements) w = w := by
  have hne : w ≠ [] := by
    obtain ⟨c, hc, -⟩ := hsolid
    exact List.ne_nil_of_mem hc
  have hword : classWord (.ofTable defaultReplacements) w
      = if startsWithDigit w then '_' :: w else w := by
    rw [classWord_of_isWordChar _ hcamel.chars, Transcoder.sanitize_default hcamel.chars hsolid]
  have hupper : Word.upperCamel w = w := hcamel.upperCamel_eq.trans hraised
  obtain ⟨c, hc, hlower⟩ := hlarge
  rw [className, hword]
  split
  · have hchars : ∀ c ∈ '_' :: w, Text.isWordChar c = true :=
      List.forall_mem_cons.mpr ⟨by decide, hcamel.chars⟩
    rw [classOfWord_of_not_isReserved hchars
        (isReserved_eq_false (List.mem_cons_of_mem '_' hc) hlower),
      Word.upperCamel_underscore hcamel.chars hne, hupper]
  · rw [classOfWord_of_not_isReserved hcamel.chars (isReserved_eq_false hc hlower), hupper]

/-- Where the word is not reserved, its class name leads to itself. -/
lemma className_className_of_not_isReserved
    (h : isReserved (classWord (.ofTable defaultReplacements) name) = false) :
    className (.ofTable defaultReplacements) (className (.ofTable defaultReplacements) name)
      = className (.ofTable defaultReplacements) name := by
  have hw := isWordChar_of_mem_classWord (.ofTable defaultReplacements) name
  by_cases hname : (name.filter (· ≠ '.')).map (fun c => if c = '-' then '_' else c) = []
  · have hempty : className (.ofTable defaultReplacements) name = [] := by
      rw [className, classWord, hname]
      rfl
    rw [hempty]
    rfl
  · have hsolid := Transcoder.exists_solid_sanitize (Transcoder.replace_default_ne_nil hname)
    have hclass : className (.ofTable defaultReplacements) name
        = Word.upperCamel (classWord (.ofTable defaultReplacements) name) :=
      classOfWord_of_not_isReserved hw h
    obtain ⟨c, hc, hhead⟩ := (isClassOf_classOfWord hw hsolid h).initial
    have hmem : c.toUpper ∈ className (.ofTable defaultReplacements) name := List.mem_of_head? hhead
    have hne : c ≠ '_' :=
      (Word.isAlphanum_iff (hw c (List.mem_of_find?_eq_some hc))).mp (List.find?_some hc)
    have hsolid' : c.toUpper ≠ '_' := (Text.toUpper_eq_iff (by decide)).not.mpr hne
    rw [hclass] at hmem ⊢
    exact className_of_raised (Word.isCamel_upperCamel hw) (Word.capitalize_upperCamel hw)
      ⟨_, hmem, hsolid'⟩ ⟨_, hmem, Char.isLower_toUpper_eq_false c⟩

/-- A word that is transcoded from a backtick on is not reserved. -/
lemma isReserved_classWord_escapeMark (w : Word) :
    isReserved (classWord (.ofTable defaultReplacements) (escapeMark :: w)) = false := by
  obtain ⟨c, hc, hlower⟩ := Transcoder.exists_not_isLower_sanitize_escapeMark
    ((w.filter (· ≠ '.')).map fun c => if c = '-' then '_' else c)
  refine isReserved_eq_false (c := c) ?_ hlower
  rwa [classWord, List.filter_cons_of_pos (by decide), List.map_cons, if_neg (by decide)]

/-- A class name with a backtick in front does not lead to itself. -/
lemma className_ne_of_escapeMark (w : Word) :
    className (.ofTable defaultReplacements) (escapeMark :: w) ≠ escapeMark :: w := by
  have hw := isWordChar_of_mem_classWord (.ofTable defaultReplacements) (escapeMark :: w)
  intro heq
  have hmem : escapeMark ∈ className (.ofTable defaultReplacements) (escapeMark :: w) := by
    rw [heq]
    exact List.mem_cons_self
  rw [className, classOfWord_of_not_isReserved hw (isReserved_classWord_escapeMark w)] at hmem
  exact Word.not_mem_of_isWordChar (Word.isCamel_upperCamel hw).chars (by decide) hmem

lemma className_className_iff (name : Word) :
    className (.ofTable defaultReplacements) (className (.ofTable defaultReplacements) name)
        = className (.ofTable defaultReplacements) name
      ↔ (className (.ofTable defaultReplacements) name).head? ≠ some escapeMark := by
  constructor
  · intro hsame hhead
    obtain ⟨w, hw⟩ := List.head?_eq_some_iff.mp hhead
    rw [hw] at hsame
    exact className_ne_of_escapeMark w hsame
  · intro hhead
    refine className_className_of_not_isReserved ?_
    rw [← Bool.not_eq_true]
    intro hreserved
    rw [className, classOfWord_of_isReserved hreserved] at hhead
    exact hhead rfl

end Again

namespace Generator

/-! ## Derived names -/

/-- A name that is neither complete nor in the table of well-known types is made into a class name
by the word that transcoding leaves.  A reserved word comes with its first letter raised and between
backticks, nothing comes of nothing, and any other word comes in camel form, raised, and free. -/
theorem modelName_form (g : Generator) (name : String) (hbuiltin : hasBuiltinPrefix name = false)
    (hname : name ∉ g.tables.imports.keys) :
    let word := classWord g.tables.transcoder name.toList
    let result := (g.modelName name).toList
    (isReserved word = true → result = escape (Word.capitalize word)) ∧
    (word = [] → result = []) ∧
    (isReserved word = false → word ≠ [] →
      IsClassOf word result ∧
      (startsWithDigit result = true ↔
        ∃ c, word.find? Char.isAlphanum = some c ∧ c.isDigit = true)) := by
  intro word result
  have hresult : result = classOfWord word := by
    show (g.modelName name).toList = _
    rw [modelName_of_derived hbuiltin hname]
    exact String.toList_ofList
  have hword : Transcoder.IsTranscoded word := Transcoder.isTranscoded_sanitize _ _
  refine ⟨fun hreserved => ?_, fun hempty => ?_, fun hfree hne => ?_⟩
  · rw [hresult, classOfWord_of_isReserved hreserved]
  · rw [hresult, hempty]
    rfl
  · have hclass : IsClassOf word (classOfWord word) :=
      isClassOf_classOfWord hword.chars
        ((Word.exists_isAlphanum_iff hword.chars).mp (hword.solid hne)) hfree
    rw [hresult]
    exact ⟨hclass, hclass.startsWithDigit_iff⟩

/-- A name that is reserved without its dots, one that the table takes away, one that ends in an
underscore, and one that leads with a digit. -/
theorem modelName_form_replaced :
    let g := ofSettings { replacements := [("@", ""), ("&", "_and_")] }
    (g.modelName "f.u.n").toList = escape "Fun".toList ∧ (g.modelName "@@").toList = [] ∧
    (g.modelName "-salt&pepper--" = "SaltAndPepper_" ∧
      IsClassOf "_salt_and_pepper__".toList (g.modelName "-salt&pepper--").toList) ∧
    (g.modelName "(2)&more" = "2AndMore" ∧
      startsWithDigit (g.modelName "(2)&more").toList = true) := by
  intro g
  obtain ⟨hreserved, -, -⟩ := modelName_form g "f.u.n" (by decide +kernel) (by decide +kernel)
  obtain ⟨-, hempty, -⟩ := modelName_form g "@@" (by decide +kernel) (by decide +kernel)
  obtain ⟨-, -, hsalt⟩ := modelName_form g "-salt&pepper--" (by decide +kernel) (by decide +kernel)
  obtain ⟨-, -, hmore⟩ := modelName_form g "(2)&more" (by decide +kernel) (by decide +kernel)
  have hfun : classWord g.tables.transcoder "f.u.n".toList = "fun".toList := by decide +kernel
  have hword : classWord g.tables.transcoder "-salt&pepper--".toList
      = "_salt_and_pepper__".toList := by
    decide +kernel
  rw [hfun] at hreserved
  rw [hword] at hsalt
  refine ⟨hreserved (by decide +kernel), hempty (by decide +kernel),
    ⟨by decide +kernel, (hsalt (by decide +kernel) (by decide)).1⟩, by decide +kernel,
    (hmore (by decide +kernel) (by decide +kernel)).2.mpr ⟨'2', by decide +kernel, by decide⟩⟩

/-! ## Found names -/

/-- A name without dots does not begin like a complete one. -/
lemma hasBuiltinPrefix_of_not_mem {name : String} (h : '.' ∉ name.toList) :
    hasBuiltinPrefix name = false := by
  have hdots : (builtinPrefixes.all fun start => start.toList.contains '.') = true := by
    decide
  rw [← Bool.not_eq_true, hasBuiltinPrefix, List.any_eq_true]
  rintro ⟨start, hstart, hfound⟩
  have hbegins := List.isPrefixOf_iff_prefix.mp hfound
  have hdot := List.all_eq_true.mp hdots start hstart
  exact h (hbegins.subset (List.contains_iff_mem.mp hdot))

lemma hasBuiltinPrefix_className (t : Transcoder) (name : String) :
    hasBuiltinPrefix (onText (className t) name) = false := by
  refine hasBuiltinPrefix_of_not_mem ?_
  rw [onText, String.toList_ofList]
  intro hmem
  exact absurd (isWordChar_or_escapeMark_of_mem_className hmem) (by decide)

/-- What the table of well-known types has for a name is another name. -/
lemma defaultImports_ne_self : (defaultImports.all fun entry => entry.2 != entry.1) = true := by
  decide

/-- What the table of well-known types has leads to itself. -/
lemma modelName_defaultImports :
    (defaultImports.all fun entry => (ofSettings {}).modelName entry.2 == entry.2) = true := by
  decide +kernel

section Defaults

variable {s : Settings}

lemma imports_ofSettings (himports : s.importMappings = []) :
    (Tables.ofSettings s).imports = defaultImports := by
  rw [Tables.ofSettings, himports, Table.merge_nil]

lemma transcoder_ofSettings (hreplacements : s.replacements = []) :
    (Tables.ofSettings s).transcoder = .ofTable defaultReplacements := by
  rw [Tables.transcoder, Tables.ofSettings, hreplacements, Table.merge_nil]

/-- Names of models depend on two tables only. -/
lemma modelName_ofSettings (flavor : Flavor) (himports : s.importMappings = [])
    (hreplacements : s.replacements = []) (name : String) :
    (ofSettings s flavor).modelName name = (ofSettings {}).modelName name := by
  rw [modelName, modelName, ofSettings, ofSettings, imports_ofSettings himports,
    transcoder_ofSettings hreplacements]
  rfl

end Defaults

lemma modelName_of_lookup {name known : String} (hbuiltin : hasBuiltinPrefix name = false)
    (h : defaultImports.lookup name = some known) : (ofSettings {}).modelName name = known := by
  have himports : (ofSettings {}).tables.imports = defaultImports := imports_ofSettings rfl
  rw [modelName, hbuiltin, if_neg (by decide), himports, h]

/-- A name that is found leads to itself. -/
lemma modelName_of_found {name : String}
    (h : hasBuiltinPrefix name = true ∨ name ∈ defaultImports.keys) :
    (ofSettings {}).modelName ((ofSettings {}).modelName name)
      = (ofSettings {}).modelName name := by
  by_cases hbuiltin : hasBuiltinPrefix name = true
  · have hself : (ofSettings {}).modelName name = name := by rw [modelName, if_pos hbuiltin]
    rw [hself, hself]
  · obtain ⟨known, hknown⟩ := Table.exists_lookup_iff.mpr (h.resolve_left hbuiltin)
    rw [Bool.not_eq_true] at hbuiltin
    rw [modelName_of_lookup hbuiltin hknown]
    exact eq_of_beq
      (List.all_eq_true.mp modelName_defaultImports (name, known) (Table.mem_of_lookup hknown))

/-- A well-known name does not lead to itself. -/
lemma modelName_ne_self {name : String} (hbuiltin : hasBuiltinPrefix name = false)
    (h : name ∈ defaultImports.keys) : (ofSettings {}).modelName name ≠ name := by
  obtain ⟨known, hknown⟩ := Table.exists_lookup_iff.mpr h
  have hne := List.all_eq_true.mp defaultImports_ne_self (name, known) (Table.mem_of_lookup hknown)
  rw [modelName_of_lookup hbuiltin hknown]
  exact bne_iff_ne.mp hne

/-- A derived name leads to itself unless it has backticks or is well known. -/
lemma modelName_of_derived_iff {name : String} (hbuiltin : hasBuiltinPrefix name = false)
    (hname : name ∉ defaultImports.keys) :
    (ofSettings {}).modelName ((ofSettings {}).modelName name) = (ofSettings {}).modelName name
      ↔ ((ofSettings {}).modelName name).toList.head? ≠ some escapeMark ∧
        (ofSettings {}).modelName name ∉ defaultImports.keys := by
  have hderived : (ofSettings {}).modelName name
      = onText (className (.ofTable defaultReplacements)) name :=
    modelName_of_derived hbuiltin hname
  have hcomplete := hasBuiltinPrefix_className (.ofTable defaultReplacements) name
  rw [hderived]
  by_cases hkey : onText (className (.ofTable defaultReplacements)) name ∈ defaultImports.keys
  · exact iff_of_false (modelName_ne_self hcomplete hkey) fun h => h.2 hkey
  · have hagain : (ofSettings {}).modelName (onText (className (.ofTable defaultReplacements)) name)
        = onText (className (.ofTable defaultReplacements))
          (onText (className (.ofTable defaultReplacements)) name) :=
      modelName_of_derived hcomplete hkey
    rw [hagain, and_iff_left hkey, onText, onText, String.toList_ofList, String.ofList_inj]
    exact className_className_iff name.toList

/-- With the default table of well-known types and the default replacements, a model whose name is
complete or well known is named by its class name again.  Any other is unless its class name has
backticks or is well known. -/
theorem modelName_modelName_iff (s : Settings) (flavor : Flavor) (himports : s.importMappings = [])
    (hreplacements : s.replacements = []) (name : String) :
    let g := ofSettings s flavor
    let result := g.modelName name
    (hasBuiltinPrefix name = true ∨ name ∈ g.tables.imports.keys → g.modelName result = result) ∧
    (hasBuiltinPrefix name = false → name ∉ g.tables.imports.keys →
      (g.modelName result = result ↔
        result.toList.head? ≠ some escapeMark ∧ result ∉ g.tables.imports.keys)) := by
  intro g result
  have hkeys : g.tables.imports = defaultImports := imports_ofSettings himports
  have hsame := modelName_ofSettings flavor himports hreplacements
  have hresult : result = (ofSettings {}).modelName name := hsame name
  rw [hkeys, hresult, show g.modelName = (ofSettings {}).modelName from funext hsame]
  exact ⟨modelName_of_found, modelName_of_derived_iff⟩

/-- A well-known name, a name whose class name begins with a digit, a reserved name, and a name
whose class name is well known. -/
theorem modelName_modelName_iff_known :
    let g := ofSettings {}
    g.modelName (g.modelName "UUID") = g.modelName "UUID" ∧
    g.modelName (g.modelName "2fa-token") = g.modelName "2fa-token" ∧
    g.modelName (g.modelName "class") ≠ g.modelName "class" ∧
    g.modelName (g.modelName "local-date") ≠ g.modelName "local-date" := by
  intro g
  obtain ⟨hknown, -⟩ := modelName_modelName_iff {} {} rfl rfl "UUID"
  obtain ⟨-, hdigit⟩ := modelName_modelName_iff {} {} rfl rfl "2fa-token"
  obtain ⟨-, hreserved⟩ := modelName_modelName_iff {} {} rfl rfl "class"
  obtain ⟨-, hderived⟩ := modelName_modelName_iff {} {} rfl rfl "local-date"
  refine ⟨hknown ?_, (hdigit ?_ ?_).mpr ?_, (hreserved ?_ ?_).not.mpr ?_,
    (hderived ?_ ?_).not.mpr ?_⟩
  all_goals decide +kernel

end Generator

end Nomenclator.Kotlin
