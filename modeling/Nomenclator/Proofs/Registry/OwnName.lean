import Nomenclator.Proofs.Registry.Run

/-!
# A language under its own name

A backend that has been registered under a new name should be found under that name.  It is, unless
the name was an alias before: a registration compares its aliases with the languages and the aliases
that are there, but not its own name with the aliases, and a look-up asks the aliases first.

`accept_own_name_iff` says so exactly.  The names that were given as aliases are checked, and lead
to the new language in any case; the language's own name leads there exactly when it was no alias,
and otherwise goes on leading to the language that it was an alias of.
`own_name_hidden_by_alias` is the smallest history in which the name is taken.
-/

namespace Nomenclator.Registry

/-- What an accepted registration of a new language writes, after which checks. -/
lemma accept_new {r : Registry} {language : String} {b : Backend} {aliases : List String}
    (hnew : r.hasLanguage (languageKey language) = false)
    (h : (r.accept (.plain language b aliases)).1.result = .ok ()) :
    (r.accept (.plain language b aliases)).2
        = r.store (languageKey language) b (aliasKeys (languageKey language) aliases) ∧
      ∀ name ∈ aliasKeys (languageKey language) aliases,
        r.conflict? (languageKey language) name = none := by
  rw [accept] at h ⊢
  cases outcome_registration r (.plain language b aliases) with
  | refused fault hrun =>
    rw [hrun] at h
    cases h
  | kept entry hlanguage _ _ hold _ =>
    cases hlanguage
    rw [hnew] at hold
    cases hold
  | written entry hlanguage hcandidate hnames hchecked hrun =>
    cases hlanguage
    cases hcandidate
    cases (readNames_texts aliases).symm.trans hnames
    rw [hrun]
    exact ⟨rfl, (hchecked.resolve_left (by simp [Registration.plain])).2⟩

section Store

variable {r : Registry} {key : String} {b : Backend} {aliases : List String}

/-- Writing a language leaves alone what its own name stood for. -/
lemma target_store_self :
    (r.store key b (aliasKeys key aliases)).target key = r.target key := by
  have hkey : key ∉ aliasKeys key aliases := fun h => (mem_aliasKeys.mp h).2 rfl
  rw [target, lookup_store_aliases, if_neg hkey, target]

lemma target_store_alias {name : String} (hname : name ∈ aliasKeys key aliases) :
    (r.store key b (aliasKeys key aliases)).target name = key := by
  rw [target, lookup_store_aliases, if_pos hname, Option.getD_some]

lemma hasLanguage_store {k : String} :
    (r.store key b (aliasKeys key aliases)).hasLanguage k = true ↔
      k = key ∨ r.hasLanguage k = true := by
  rw [hasLanguage_iff, store_backends, Table.mem_keys_put, hasLanguage_iff]

/-- A given alias that is not the language's own name leads to the language. -/
lemma canonicalName_store_alias {a : String} (ha : a ∈ aliases) (hne : languageKey a ≠ key) :
    (r.store key b (aliasKeys key aliases)).canonicalName a = .ok key :=
  canonicalName_eq_ok.mpr
    ⟨target_store_alias (mem_aliasKeys.mpr ⟨⟨a, ha, rfl⟩, hne⟩), hasLanguage_store.mpr (Or.inl rfl)⟩

end Store

/-- After a new language has been registered, whatever run of requests came before: it is found
under its own name and all its aliases exactly when its name was no alias.  The other aliases lead
to it in any case, and a name that was an alias leads where it led before. -/
theorem accept_own_name_iff (requests : List Request) {language : String} {b : Backend}
    {aliases : List String}
    (hnew : (run requests).hasLanguage (languageKey language) = false)
    (haccept : ((run requests).accept (.plain language b aliases)).1.result = .ok ()) :
    let r' := ((run requests).accept (.plain language b aliases)).2
    (r'.backend language = .ok b ∧ r'.canonicalName language = .ok (languageKey language) ∧
        (∀ a ∈ aliases, r'.canonicalName a = .ok (languageKey language)) ↔
      languageKey language ∉ (run requests).aliases.keys) ∧
    (∀ a ∈ aliases, languageKey a ≠ languageKey language →
      r'.canonicalName a = .ok (languageKey language)) ∧
    ∀ other, (run requests).aliases.lookup (languageKey language) = some other →
      r'.canonicalName language = .ok other := by
  intro r'
  have hr := sound_run requests
  have hstored : r' = _ := (accept_new hnew haccept).1
  rw [hstored]
  clear_value r'
  generalize run requests = r at hr ⊢
  have haliases : ∀ a ∈ aliases, languageKey a ≠ languageKey language →
      (r.store (languageKey language) b (aliasKeys (languageKey language) aliases)).canonicalName a
        = .ok (languageKey language) := fun a ha => canonicalName_store_alias ha
  have hhidden : ∀ other, r.aliases.lookup (languageKey language) = some other →
      (r.store (languageKey language) b
        (aliasKeys (languageKey language) aliases)).canonicalName language = .ok other := by
    intro other hother
    rw [canonicalName_eq_ok, target_store_self, target_of_alias hother, hasLanguage_store]
    exact ⟨rfl, Or.inr (hr.alias_registered hother)⟩
  refine ⟨⟨?_, fun hfree => ?_⟩, haliases, hhidden⟩
  · rintro ⟨-, hname, -⟩ halias
    obtain ⟨other, hother⟩ := Table.exists_lookup_iff.mpr halias
    -- the name leads to the other language, and no alias points at itself
    rw [hhidden other hother, Except.ok.injEq] at hname
    exact hr.alias_ne_target hother hname.symm
  · have hself : r.target (languageKey language) = languageKey language :=
      target_of_not_alias hfree
    have hname : (r.store (languageKey language) b
        (aliasKeys (languageKey language) aliases)).canonicalName language
          = .ok (languageKey language) := by
      rw [canonicalName_eq_ok, target_store_self, hself, hasLanguage_store]
      exact ⟨rfl, Or.inl rfl⟩
    refine ⟨?_, hname, fun a ha => ?_⟩
    · rw [backend_eq_ok, target_store_self, hself, store_backends, Table.lookup_put, if_pos rfl]
    · by_cases hne : languageKey a = languageKey language
      · rw [canonicalName_eq_ok, hne]
        exact canonicalName_eq_ok.mp hname
      · exact haliases a ha hne

/-- A backend registered as `KT` while `kt` is an alias of `kotlin`. -/
theorem accept_own_name_iff_taken :
    let requests : List Request := [.register (.plain "kotlin" kotlinBackend ["kt"])]
    let accepted := (run requests).accept (.plain "KT" abstractBackend ["KS"])
    (run requests).hasLanguage (languageKey "KT") = false ∧
      accepted.1.result = .ok () ∧
      accepted.2.canonicalName "KS" = .ok "kt" ∧ accepted.2.canonicalName "KT" = .ok "kotlin" := by
  intro requests accepted
  have hnew : (run requests).hasLanguage (languageKey "KT") = false := by rfl
  have haccept : accepted.1.result = .ok () := by rfl
  have h := accept_own_name_iff requests hnew haccept
  exact ⟨hnew, haccept, h.2.1 "KS" (by simp) (by decide), h.2.2 "kotlin" (by rfl)⟩

/-- A language is not always found under its own name, even if no request ever replaced a
backend. -/
theorem own_name_hidden_by_alias :
    ¬ ∀ requests : List Request, (∀ q, Request.register q ∈ requests → q.replace = false) →
      ∀ (language : String) (b : Backend) (aliases : List String),
        (run requests).hasLanguage (languageKey language) = false →
        ((run requests).accept (.plain language b aliases)).1.result = .ok () →
        let r' := ((run requests).accept (.plain language b aliases)).2
        r'.backend language = .ok b ∧ r'.canonicalName language = .ok (languageKey language) ∧
          ∀ a ∈ aliases, r'.canonicalName a = .ok (languageKey language) := by
  intro h
  have hname := (h [.register (.plain "kotlin" kotlinBackend ["kt"])]
    (by simp [Registration.plain]) "kt" abstractBackend [] (by rfl) (by rfl)).2.1
  exact absurd (Except.ok.inj (show Except.ok "kotlin" = _ from hname)) (by decide)

end Nomenclator.Registry
