import Nomenclator.Proofs.Registry.OwnName

/-!
# What a request leaves alone

A registration that replaces nothing and a removal touch one language each, and no name of another
language notices.  Neither is plain from the writings: a registration writes its aliases over the
table of aliases as it is, and a removal goes by what its name stands for, so that the key it
removes need not be the one it was given.

## Names that are not in use

The reason is in `Sound.fresh`.  An alias passes the checks of a registration when it is no language
and when no *other* language has it; that it is not an alias of the new language itself follows from
the invariant, for the new language is not registered and every alias points at a language that is.
So an accepted registration keeps the registry as it is, or writes a new language under names that
were not in use.

## What follows

`run_keeps_other_languages` says that every supported name goes on standing for its language, with
its backend, through any registration that replaces nothing and through the removal of any other
language.  `unregister_accept` says that a removal under any of the names of a new language takes
back its registration, down to the order of both tables.
-/

namespace Nomenclator.Registry

/-! ## Names that are not in use -/

/-- A language that is not registered, with names that are neither languages nor aliases. -/
structure Fresh (r : Registry) (key : String) (names : List String) : Prop where
  language : r.hasLanguage key = false
  not_language : ∀ name ∈ names, r.hasLanguage name = false
  not_alias : ∀ name ∈ names, name ∉ r.aliases.keys

lemma conflict?_eq_none {r : Registry} {key name : String} (h : r.conflict? key name = none) :
    r.hasLanguage name = false ∧ ∀ other, r.aliases.lookup name = some other → other = key := by
  unfold conflict? at h
  split at h <;> rename_i hlanguage
  · simp at h
  · refine ⟨by simpa using hlanguage, fun other hother => ?_⟩
    by_contra hne
    simp [hother, hne] at h

/-- Names that pass the checks of a registration of a new language are not in use. -/
lemma Sound.fresh {r : Registry} (hr : r.Sound) {key : String} {names : List String}
    (hnew : r.hasLanguage key = false) (hchecked : ∀ name ∈ names, r.conflict? key name = none) :
    r.Fresh key names where
  language := hnew
  not_language name hname := (conflict?_eq_none (hchecked name hname)).1
  not_alias name hname halias := by
    -- an alias of the new language would point at a language that is not registered
    obtain ⟨other, hother⟩ := Table.exists_lookup_iff.mpr halias
    obtain rfl := (conflict?_eq_none (hchecked name hname)).2 other hother
    rw [hr.alias_registered hother] at hnew
    exact Bool.noConfusion hnew

/-- A registration that replaces nothing, whatever its values, keeps the registry or writes a new
language under names that were not in use. -/
lemma Sound.accept_cases {r : Registry} (hr : r.Sound) {q : Registration}
    (hreplace : q.replace = false) :
    (r.accept q).2 = r ∨
      ∃ key b names, r.Fresh key names ∧ (r.accept q).2 = r.store key b names := by
  rw [Registry.accept]
  cases outcome_registration r q with
  | refused fault hrun => exact Or.inl (by rw [hrun])
  | kept entry _ _ _ _ hrun => exact Or.inl (by rw [hrun])
  | @written language b names entry _ _ _ hchecked hrun =>
    obtain ⟨hnew, hnames⟩ := hchecked.resolve_left (by simp [hreplace])
    exact Or.inr ⟨_, b, _, hr.fresh hnew hnames, by rw [hrun]⟩

/-! ## Other languages -/

/-- Two registries give the same answers for a name. -/
structure Agree (r r' : Registry) (name : String) : Prop where
  canonicalName : r'.canonicalName name = r.canonicalName name
  backend : r'.backend name = r.backend name

/-- A name keeps its language and its backend when it goes on pointing at the language and the
language keeps its entry. -/
lemma agree_of_target {r r' : Registry} {name key : String} (hname : r.canonicalName name = .ok key)
    (htarget : r'.target (languageKey name) = key)
    (hentry : r'.backends.lookup key = r.backends.lookup key) : r.Agree r' name := by
  obtain ⟨hold, hlanguage⟩ := canonicalName_eq_ok.mp hname
  obtain ⟨b, hb⟩ := Table.exists_lookup_iff.mpr (hasLanguage_iff.mp hlanguage)
  have hlanguage' : r'.hasLanguage key = true :=
    hasLanguage_iff.mpr (Table.exists_lookup_iff.mp ⟨b, hentry.trans hb⟩)
  refine ⟨?_, ?_⟩
  · rw [hname]
    exact canonicalName_eq_ok.mpr ⟨htarget, hlanguage'⟩
  · have hbackend : r.backend name = .ok b := backend_eq_ok.mpr (by rw [hold, hb])
    rw [hbackend]
    exact backend_eq_ok.mpr (by rw [htarget, hentry, hb])

/-- A name that is supported is not among names that are not in use. -/
lemma Fresh.not_mem {r : Registry} {key : String} {names : List String} (h : r.Fresh key names)
    {name : String} (hname : r.isSupported name = true) : languageKey name ∉ names := by
  intro hmem
  rcases Bool.or_eq_true _ _ ▸ hname with hlanguage | halias
  · rw [h.not_language _ hmem] at hlanguage
    simp at hlanguage
  · exact h.not_alias _ hmem (Table.hasKey_iff.mp halias)

/-- Writing a new language under names that are not in use touches no name that is. -/
lemma Fresh.agree_store {r : Registry} (hr : r.Sound) {key : String} {b : Backend}
    {names : List String} (h : r.Fresh key names) {name : String}
    (hname : r.isSupported name = true) : r.Agree (r.store key b names) name := by
  have htarget : (r.store key b names).target (languageKey name) = r.target (languageKey name) := by
    rw [target, lookup_store_aliases, if_neg (h.not_mem hname), target]
  have hlanguage := (hr.isSupported_iff name).mp hname
  have hne : r.target (languageKey name) ≠ key := by
    intro heq
    rw [heq, h.language] at hlanguage
    simp at hlanguage
  refine agree_of_target (canonicalName_eq_ok.mpr ⟨rfl, hlanguage⟩) htarget ?_
  rw [store_backends, Table.lookup_put, if_neg hne]

/-- A removal touches no name of another language. -/
lemma Sound.agree_unregister {r : Registry} (hr : r.Sound) {name other key : String}
    (hname : r.canonicalName name = .ok key) (hne : r.target (languageKey other) ≠ key) :
    r.Agree (r.unregister other) name := by
  obtain ⟨htarget, -⟩ := canonicalName_eq_ok.mp hname
  refine agree_of_target hname ?_ ?_
  · rw [target, lookup_unregister_aliases hr]
    cases halias : r.aliases.lookup (languageKey name) with
    | none =>
      rw [target_of_not_alias (Table.lookup_eq_none_iff.mp halias)] at htarget
      exact htarget
    | some k =>
      rw [target_of_alias halias] at htarget
      have hkept : k ≠ r.target (languageKey other) := htarget ▸ Ne.symm hne
      simpa [Option.filter, hkept] using htarget
  · rw [lookup_unregister_backends hr, if_neg (Ne.symm hne)]

/-! ## Removals that remove nothing -/

/-- Removing what is not registered changes nothing: no alias points at it. -/
lemma Sound.removed_eq_self {r : Registry} (hr : r.Sound) {key : String}
    (hkey : r.hasLanguage key = false) :
    r.backends.erase key = r.backends ∧
      r.aliases.filter (fun entry => entry.2 ≠ key) = r.aliases := by
  have hnot : ¬ r.hasLanguage key = true := by simp [hkey]
  refine ⟨List.filter_eq_self.mpr fun entry hentry => ?_,
    List.filter_eq_self.mpr fun entry hentry => ?_⟩
  · have hmem : entry.1 ∈ r.backends.keys := List.mem_map_of_mem hentry
    refine decide_eq_true fun heq => hnot (hasLanguage_iff.mpr (heq ▸ hmem))
  · have halias := (Table.mem_iff_lookup hr.aliases_nodup).mp hentry
    exact decide_eq_true fun heq => hnot (heq ▸ hr.alias_registered halias)

lemma Sound.unregister_of_not_supported {r : Registry} (hr : r.Sound) {name : String}
    (hname : r.isSupported name = false) : r.unregister name = r := by
  have hlanguage : r.hasLanguage (r.target (languageKey name)) = false := by
    have hiff := hr.isSupported_iff name
    rw [hname] at hiff
    simpa using hiff
  obtain ⟨hbackends, haliases⟩ := hr.removed_eq_self hlanguage
  rw [Registry.unregister, hbackends, haliases]

/-- Whatever run of requests came before: a supported name goes on standing for its language, with
its backend, through every registration that replaces nothing and through every removal of another
language.  A registration that is refused, and the removal of a name that is not supported, leave
the whole registry as it is. -/
theorem run_keeps_other_languages (requests : List Request) {name : String}
    (hname : (run requests).isSupported name = true) :
    let r := run requests
    (∀ q : Registration, q.replace = false → r.Agree (r.accept q).2 name ∧
      ∀ e, (r.accept q).1.result = .error e → (r.accept q).2 = r) ∧
    ∀ other, (r.canonicalName name ≠ r.canonicalName other → r.Agree (r.unregister other) name) ∧
      (r.isSupported other = false → r.unregister other = r) := by
  intro r
  have hr : r.Sound := sound_run requests
  have hlanguage := (hr.isSupported_iff name).mp hname
  have hcanonical : r.canonicalName name = .ok (r.target (languageKey name)) :=
    canonicalName_eq_ok.mpr ⟨rfl, hlanguage⟩
  refine ⟨fun q hreplace => ⟨?_, fun e => accept_error⟩,
    fun other => ⟨fun hne => ?_, hr.unregister_of_not_supported⟩⟩
  · rcases hr.accept_cases hreplace with hkept | ⟨key, b, names, hfresh, hstore⟩
    · rw [hkept]
      exact ⟨rfl, rfl⟩
    · rw [hstore]
      exact hfresh.agree_store hr hname
  · refine hr.agree_unregister hcanonical fun heq => hne ?_
    rw [hcanonical]
    exact (canonicalName_eq_ok.mpr ⟨heq, hlanguage⟩).symm

/-- The alias of Kotlin in a registry with a second language: another registration asks for the same
alias and is refused, the second language is removed under its own, and a name is removed that
nothing has. -/
theorem run_keeps_other_languages_kt :
    let r := run [.register (.plain "Kotlin" kotlinBackend ["KT"]),
      .register { Registration.plain "script" abstractBackend ["KS"] with replace := true }]
    r.isSupported "Kt" = true ∧
      r.Agree (r.accept (.plain "java" abstractBackend ["kt"])).2 "Kt" ∧
      (r.accept (.plain "java" abstractBackend ["kt"])).2 = r ∧
      r.Agree (r.unregister "ks") "Kt" ∧ r.unregister "java" = r := by
  intro r
  have hname : r.isSupported "Kt" = true := by rfl
  have hkt : r.canonicalName "Kt" = .ok "kotlin" := by rfl
  have hks : r.canonicalName "ks" = .ok "script" := by rfl
  have hne : r.canonicalName "Kt" ≠ r.canonicalName "ks" := by
    rw [hkt, hks]
    decide
  obtain ⟨hregister, hremove⟩ := run_keeps_other_languages _ hname
  obtain ⟨hagree, hrefused⟩ := hregister (.plain "java" abstractBackend ["kt"]) rfl
  exact ⟨hname, hagree, hrefused (.registry (.aliasTaken "kt" "kotlin")) (by rfl),
    (hremove "ks").1 hne, (hremove "java").2 (by rfl)⟩

/-! ## Taking a registration back -/

/-- Removing a new language that was written under names not in use gives the registry back. -/
lemma Fresh.removed_store {r : Registry} (hr : r.Sound) {key : String} {b : Backend}
    {names : List String} (h : r.Fresh key names) :
    (r.store key b names).backends.erase key = r.backends ∧
      (r.store key b names).aliases.filter (fun entry => entry.2 ≠ key) = r.aliases := by
  obtain ⟨hbackends, haliases⟩ := hr.removed_eq_self h.language
  refine ⟨?_, ?_⟩
  · rw [store_backends]
    exact (Table.filter_put (by simp) fun entry _ hkey => by simp [hkey]).trans hbackends
  · rw [store_aliases]
    refine (Table.filter_merge (fun entry hentry => ?_) fun entry hentry hkey => ?_).trans haliases
    · obtain ⟨name, -, rfl⟩ := List.mem_map.mp hentry
      simp
    · have hname : entry.1 ∈ names := by simpa [Table.keys] using hkey
      exact absurd (List.mem_map_of_mem hentry) (h.not_alias _ hname)

/-- After a new language has been registered, whatever run of requests came before: a removal under
any name with the key of the language or of one of the given aliases brings back the registry as it
was, both tables with their order. -/
theorem unregister_accept (requests : List Request) {language : String} {b : Backend}
    {aliases : List String} (hnew : (run requests).isSupported language = false)
    (haccept : ((run requests).accept (.plain language b aliases)).1.result = .ok ())
    {name : String}
    (hname : languageKey name = languageKey language ∨
      ∃ a ∈ aliases, languageKey name = languageKey a) :
    ((run requests).accept (.plain language b aliases)).2.unregister name = run requests := by
  have hr := sound_run requests
  generalize run requests = r at hr hnew haccept ⊢
  obtain ⟨hlanguage, halias⟩ := Bool.or_eq_false_iff.mp hnew
  have hself : r.target (languageKey language) = languageKey language :=
    target_of_not_alias fun h => by simp [Table.hasKey_iff.mpr h] at halias
  obtain ⟨hstored, hchecked⟩ := accept_new hlanguage haccept
  have hfresh := hr.fresh hlanguage hchecked
  have htarget : (r.store (languageKey language) b
      (aliasKeys (languageKey language) aliases)).target (languageKey name)
        = languageKey language := by
    by_cases hown : languageKey name = languageKey language
    · rw [hown, target_store_self, hself]
    · obtain ⟨a, ha, hkey⟩ := hname.resolve_left hown
      exact target_store_alias (mem_aliasKeys.mpr ⟨⟨a, ha, hkey.symm⟩, hown⟩)
  obtain ⟨hbackends, haliases⟩ := hfresh.removed_store hr (b := b)
  rw [hstored, unregister, htarget, hbackends, haliases]

/-- Kotlin, registered under two aliases beside another language and removed under one of them in
another spelling. -/
theorem unregister_accept_kt :
    let requests : List Request := [.register (.plain "script" abstractBackend ["KS"])]
    let accepted := (run requests).accept (.plain "Kotlin" kotlinBackend ["kt", "KTS"])
    (run requests).isSupported "Kotlin" = false ∧
      accepted.1.result = .ok () ∧
      accepted.2 = (run requests).store "kotlin" kotlinBackend ["kt", "kts"] ∧
      accepted.2.unregister "Kts" = run requests := by
  intro requests accepted
  have hnew : (run requests).isSupported "Kotlin" = false := by rfl
  have haccept : accepted.1.result = .ok () := by rfl
  have hname : languageKey "Kts" = languageKey "KTS" := by
    rw [show languageKey "Kts" = "kts" by rfl, show languageKey "KTS" = "kts" by rfl]
  exact ⟨hnew, haccept, by rfl,
    unregister_accept requests hnew haccept (Or.inr ⟨"KTS", by simp, hname⟩)⟩

end Nomenclator.Registry
