import Nomenclator.Languages
import Nomenclator.Proofs.Table
import Nomenclator.Proofs.Text.Order
import Nomenclator.Proofs.Text.Small
import Mathlib.Tactic.Tauto

/-!
# Runs of a registry

A registry is changed by registrations and removals, and a registration may be refused.  This
module says what a single request can do, which invariant every request keeps (`Sound`), and what
follows for the registries that any run of requests leads to from the empty one.

## Refusals

A registration writes one entry after another, and a failure leaves what has been written by then.
That a registration which is refused has written nothing is therefore a matter of its order: all
aliases are checked before the first is written (`run_register`), and nothing that comes behind the
writings can fail.  `Outcome` is what a registration may come to, with the registry that it leaves.

## The invariant

Two tables are written by separate steps, so it has to be said how they fit together: every alias
points at a registered language and none at itself, each name stands once in a table, and all names
are in small letters.  That the last of these is kept rests on `Text.lower_lower`: the key of a key
is the key itself.

The invariant does not say that an alias and a language never share a name.  A registration that
replaces may take the name of a language for an alias, and one that does not replace may use the
name of an alias for its language; `canonicalName` then answers by the alias.

## What follows

`run_lookup_agrees` is the agreement of the three ways to ask for a name: a name counts as supported
exactly when it stands for a language and has a backend, and the names that stand for a language are
its aliases, together with its own name where that is not an alias.
-/

namespace Nomenclator

/-! ## Keys of names -/

lemma languageKey_languageKey (name : String) :
    languageKey (languageKey name) = languageKey name := by
  simp only [languageKey, onText, String.toList_ofList, Text.lower_lower]

/-! ## Registrations in texts -/

/-- A registration of a backend under names that are texts, which replaces nothing. -/
def Registration.plain (language : String) (b : Backend) (aliases : List String) : Registration :=
  { language := .text language, candidate := .backend b, aliases := .list (aliases.map .text) }

namespace Registry

lemma readNames_texts (names : List String) : readNames (.list (names.map .text)) = .ok names := by
  have hmap : (names.map Value.text).mapM Value.asText = .ok names := by
    induction names with
    | nil => rfl
    | cons first rest ih =>
      rw [List.map_cons, List.mapM_cons, ih]
      rfl
  cases names with
  | nil => rfl
  | cons first rest => exact hmap

/-! ## Tables and keys -/

lemma hasLanguage_iff {r : Registry} {key : String} :
    r.hasLanguage key = true ↔ key ∈ r.backends.keys := Table.hasKey_iff

lemma mem_aliasKeys {key name : String} {aliases : List String} :
    name ∈ aliasKeys key aliases ↔ (∃ a ∈ aliases, languageKey a = name) ∧ name ≠ key := by
  simp [aliasKeys]

lemma languageKey_of_mem_aliasKeys {key name : String} {aliases : List String}
    (h : name ∈ aliasKeys key aliases) : languageKey name = name := by
  obtain ⟨⟨a, -, rfl⟩, -⟩ := mem_aliasKeys.mp h
  exact languageKey_languageKey a

/-! ## Looking up -/

lemma canonicalName_eq_ok {r : Registry} {name key : String} :
    r.canonicalName name = .ok key ↔
      r.target (languageKey name) = key ∧ r.hasLanguage key = true := by
  unfold canonicalName
  dsimp only
  split <;> rename_i h
  · simp only [Except.ok.injEq]
    exact ⟨fun heq => ⟨heq, heq ▸ h⟩, And.left⟩
  · simp only [reduceCtorEq, false_iff, not_and]
    exact fun heq => heq ▸ h

lemma backend_eq_ok {r : Registry} {name : String} {b : Backend} :
    r.backend name = .ok b ↔ r.backends.lookup (r.target (languageKey name)) = some b := by
  unfold backend
  cases r.backends.lookup (r.target (languageKey name)) <;> simp

lemma target_of_alias {r : Registry} {name key : String} (h : r.aliases.lookup name = some key) :
    r.target name = key := by
  simp [target, h]

lemma target_of_not_alias {r : Registry} {name : String} (h : name ∉ r.aliases.keys) :
    r.target name = name := by
  simp [target, Table.lookup_eq_none_iff.mpr h]

/-! ## Writing a language -/

/-- The registry with a language and then its aliases written, one after another. -/
def store (r : Registry) (key : String) (b : Backend) (names : List String) : Registry :=
  { backends := r.backends.put key b
    aliases := names.foldl (fun table name => Table.put name key table) r.aliases }

@[simp] lemma store_backends (r : Registry) (key : String) (b : Backend) (names : List String) :
    (r.store key b names).backends = r.backends.put key b := rfl

lemma store_aliases (r : Registry) (key : String) (b : Backend) (names : List String) :
    (r.store key b names).aliases = r.aliases.merge (names.map fun name => (name, key)) := by
  simp [store, Table.merge, List.foldl_map]

lemma lookup_store_aliases (r : Registry) (key : String) (b : Backend) (names : List String)
    (name : String) :
    (r.store key b names).aliases.lookup name
      = if name ∈ names then some key else r.aliases.lookup name := by
  have hwritten : List.lookup name (names.map fun n => (n, key)).reverse
      = if name ∈ names then some key else none := by
    induction names with
    | nil => simp
    | cons first rest ih =>
      rw [List.map_cons, List.reverse_cons, List.lookup_append, ih, Table.lookup_cons]
      by_cases hrest : name ∈ rest
      · simp [hrest]
      · simp only [hrest, List.mem_cons, or_false]
        rfl
  rw [store_aliases, Table.lookup_merge_reverse, hwritten]
  by_cases hname : name ∈ names <;> simp [hname]

lemma mem_keys_store_aliases {r : Registry} {key : String} {b : Backend} {names : List String}
    {name : String} :
    name ∈ (r.store key b names).aliases.keys ↔ name ∈ r.aliases.keys ∨ name ∈ names := by
  rw [store_aliases, Table.mem_keys_merge]
  simp [Table.keys]

/-! ## The steps of a registration -/

lemma run_adaptExcept {ε ε' σ α : Type} (f : ε → ε') (x : EStateM ε σ α) (s : σ) :
    (x.adaptExcept f).run s = match x.run s with
      | .ok a s' => .ok a s'
      | .error e s' => .error (f e) s' := by
  show (match x.run s with
    | EStateM.Result.error e s' => EStateM.Result.error (f e) s'
    | EStateM.Result.ok a s' => EStateM.Result.ok a s') = _
  cases x.run s <;> rfl

lemma run_checkAlias (r : Registry) (key name : String) :
    (checkAlias key name).run r = match r.conflict? key name with
      | some e => .error e r
      | none => .ok () r := by
  rw [checkAlias, EStateM.run_bind, EStateM.run_get]
  dsimp only
  cases r.conflict? key name <;> rfl

/-- Checking aliases refuses the first that is in conflict, and changes nothing. -/
lemma run_checkAliases (r : Registry) (key : String) (names : List String) :
    (names.forM (checkAlias key)).run r = match names.findSome? (r.conflict? key) with
      | some e => .error e r
      | none => .ok () r := by
  induction names with
  | nil => rfl
  | cons name rest ih =>
    show (checkAlias key name >>= fun _ => rest.forM (checkAlias key)).run r = _
    rw [EStateM.run_bind, run_checkAlias, List.findSome?_cons]
    cases r.conflict? key name with
    | some e => rfl
    | none => exact ih

/-- Writing aliases is never refused. -/
lemma run_writeAliases (r : Registry) (key : String) (names : List String) :
    (names.forM (writeAlias key)).run r
      = .ok () { r with
          aliases := names.foldl (fun table name => Table.put name key table) r.aliases } := by
  induction names generalizing r with
  | nil => rfl
  | cons name rest ih => exact ih { r with aliases := r.aliases.put name key }

/-- A registration is refused before anything is written, or writes everything. -/
lemma run_register (r : Registry) (key : String) (b : Backend) (names : List String)
    (replace : Bool) :
    (register key b names replace).run r
      = match if replace then none else names.findSome? (r.conflict? key) with
        | some e => .error e r
        | none => .ok () (r.store key b names) := by
  have hwritten : (writeLanguage key b >>= fun _ => names.forM (writeAlias key)).run r
      = .ok () (r.store key b names) :=
    run_writeAliases { r with backends := r.backends.put key b } key names
  cases replace with
  | true => exact hwritten
  | false =>
    show (names.forM (checkAlias key) >>= fun _ =>
      writeLanguage key b >>= fun _ => names.forM (writeAlias key)).run r = _
    rw [EStateM.run_bind, run_checkAliases, if_neg (by simp)]
    cases names.findSome? (r.conflict? key) with
    | some e => rfl
    | none => exact hwritten

/-! ## What a registration can do -/

/-- What a registration comes to.  One that is refused leaves the registry as it was.  One that is
accepted keeps the backend that its language has, or writes the language and its aliases; these have
been checked unless the language is replaced. -/
inductive Outcome (r : Registry) (q : Registration) : Prop
  | refused (fault : Fault) (hrun : (registration q).run r = .error fault r)
  | kept {language : String} {b : Backend} (entry : Entry) (hlanguage : q.language = .text language)
      (hcandidate : q.candidate = .backend b) (hreplace : q.replace = false)
      (hold : r.hasLanguage (languageKey language) = true)
      (hrun : (registration q).run r = .ok entry r)
  | written {language : String} {b : Backend} {names : List String} (entry : Entry)
      (hlanguage : q.language = .text language) (hcandidate : q.candidate = .backend b)
      (hnames : readNames q.aliases = .ok names)
      (hchecked : q.replace = true ∨ r.hasLanguage (languageKey language) = false ∧
        ∀ name ∈ aliasKeys (languageKey language) names,
          r.conflict? (languageKey language) name = none)
      (hrun : (registration q).run r
        = .ok entry (r.store (languageKey language) b (aliasKeys (languageKey language) names)))

lemma run_registerNamed {r : Registry} {key : String} {b : Backend} {aliases : Value}
    {names : List String} (hnames : readNames aliases = .ok names) (replace : Bool) :
    (registerNamed key b aliases replace).run r
      = match if replace then none else (aliasKeys key names).findSome? (r.conflict? key) with
        | some e => .error (.registry e) r
        | none => .ok (registeredEntry key b) (r.store key b (aliasKeys key names)) := by
  rw [registerNamed, hnames]
  show EStateM.run ((register key b _ replace).adaptExcept Fault.registry >>= _) r = _
  rw [EStateM.run_bind, run_adaptExcept, run_register]
  cases (if replace then none else (aliasKeys key names).findSome? (r.conflict? key)) <;> rfl

section Outcome

variable {r : Registry} {q : Registration} {language : String} {b : Backend}
  (hlanguage : q.language = .text language) (hcandidate : q.candidate = .backend b)

include hlanguage hcandidate

/-- A language that is not kept is written, once its aliases are read and have passed. -/
lemma outcome_of_open
    (hopen : q.replace = true ∨ r.hasLanguage (languageKey language) = false)
    (hrun : (registration q).run r
      = (registerNamed (languageKey language) b q.aliases q.replace).run r) : Outcome r q := by
  cases hnames : readNames q.aliases with
  | error m => exact .refused (.mismatch m) (by rw [hrun, registerNamed, hnames]; rfl)
  | ok names =>
    rw [run_registerNamed hnames] at hrun
    cases hreplace : q.replace with
    | true =>
      rw [hreplace] at hrun
      exact .written _ hlanguage hcandidate hnames (Or.inl hreplace) hrun
    | false =>
      rw [hreplace, if_neg (by simp)] at hrun
      cases hconflict : (aliasKeys (languageKey language) names).findSome?
          (r.conflict? (languageKey language)) with
      | some e => exact .refused (.registry e) (by rw [hrun, hconflict])
      | none =>
        have hnew := hopen.resolve_left (by simp [hreplace])
        exact .written _ hlanguage hcandidate hnames
          (Or.inr ⟨hnew, List.findSome?_eq_none_iff.mp hconflict⟩) (by rw [hrun, hconflict])

/-- The registration of a backend under a text keeps the language, or writes it. -/
lemma run_registration :
    (registration q).run r = match r.backends.lookup (languageKey language), q.replace with
      | some kept, false => .ok (keptEntry (languageKey language) kept) r
      | _, _ => (registerNamed (languageKey language) b q.aliases q.replace).run r := by
  obtain ⟨_, _, aliases, replace⟩ := q
  cases hlanguage
  cases hcandidate
  show EStateM.run (match r.backends.lookup (languageKey language), replace with
    | some kept, false => pure (keptEntry (languageKey language) kept)
    | _, _ => registerNamed (languageKey language) b aliases replace) r = _
  cases r.backends.lookup (languageKey language) <;> cases replace <;> rfl

lemma outcome_of_backend : Outcome r q := by
  have hrun := run_registration hlanguage hcandidate (r := r)
  cases hlookup : r.backends.lookup (languageKey language) with
  | none =>
    have hnew : ¬r.hasLanguage (languageKey language) = true :=
      mt hasLanguage_iff.mp (Table.lookup_eq_none_iff.mp hlookup)
    rw [hlookup] at hrun
    exact outcome_of_open hlanguage hcandidate (Or.inr (Bool.not_eq_true _ ▸ hnew)) hrun
  | some kept =>
    rw [hlookup] at hrun
    cases hreplace : q.replace with
    | true =>
      rw [hreplace] at hrun
      exact outcome_of_open hlanguage hcandidate (Or.inl hreplace) (hreplace ▸ hrun)
    | false =>
      rw [hreplace] at hrun
      have hold := hasLanguage_iff.mpr (Table.exists_lookup_iff.mp ⟨kept, hlookup⟩)
      exact .kept _ hlanguage hcandidate hreplace hold hrun

end Outcome

/-- What every registration comes to, whatever its values. -/
lemma outcome_registration (r : Registry) (q : Registration) : Outcome r q := by
  cases hcandidate : q.candidate with
  | other shown =>
    obtain ⟨_, _, _, _⟩ := q
    cases hcandidate
    cases shown <;> exact .refused _ rfl
  | backend b =>
    cases hlanguage : q.language with
    | text language => exact outcome_of_backend hlanguage hcandidate
    | _ =>
      obtain ⟨_, _, _, _⟩ := q
      cases hlanguage
      cases hcandidate
      exact .refused _ rfl

/-- A registration that is refused leaves the registry as it was. -/
lemma accept_error {r : Registry} {q : Registration} {e : Fault}
    (h : (r.accept q).1.result = .error e) : (r.accept q).2 = r := by
  rw [accept] at h ⊢
  cases outcome_registration r q with
  | refused fault hrun => rw [hrun]
  | kept entry _ _ _ _ hrun => rw [hrun]
  | written entry _ _ _ _ hrun =>
    rw [hrun] at h
    cases h

/-! ## The invariant -/

/-- How the two tables of a registry fit together, whatever was asked of it. -/
structure Sound (r : Registry) : Prop where
  languages_nodup : r.backends.keys.Nodup
  aliases_nodup : r.aliases.keys.Nodup
  alias_registered : ∀ {name key}, r.aliases.lookup name = some key → r.hasLanguage key = true
  alias_ne_target : ∀ {name key}, r.aliases.lookup name = some key → name ≠ key
  languages_small : ∀ key ∈ r.backends.keys, languageKey key = key
  aliases_small : ∀ name ∈ r.aliases.keys, languageKey name = name

lemma sound_empty : Sound {} where
  languages_nodup := by simp
  aliases_nodup := by simp
  alias_registered h := by simp at h
  alias_ne_target h := by simp at h
  languages_small := by simp
  aliases_small := by simp

lemma Sound.store {r : Registry} (hr : r.Sound) {key : String} (hkey : languageKey key = key)
    (b : Backend) (aliases : List String) : (r.store key b (aliasKeys key aliases)).Sound where
  languages_nodup := Table.put_keys_nodup hr.languages_nodup key b
  aliases_nodup := by
    rw [store_aliases]
    exact Table.merge_keys_nodup hr.aliases_nodup _
  alias_registered {name target} h := by
    rw [hasLanguage_iff, store_backends, Table.mem_keys_put]
    rw [lookup_store_aliases] at h
    split at h
    · exact Or.inl (Option.some.inj h).symm
    · exact Or.inr (hasLanguage_iff.mp (hr.alias_registered h))
  alias_ne_target {name target} h := by
    rw [lookup_store_aliases] at h
    split at h <;> rename_i hname
    · exact Option.some.inj h ▸ (mem_aliasKeys.mp hname).2
    · exact hr.alias_ne_target h
  languages_small k hk := by
    rcases Table.mem_keys_put.mp hk with rfl | hold
    · exact hkey
    · exact hr.languages_small k hold
  aliases_small name hname := by
    rcases mem_keys_store_aliases.mp hname with hold | hnew
    · exact hr.aliases_small name hold
    · exact languageKey_of_mem_aliasKeys hnew

lemma lookup_unregister_backends {r : Registry} (hr : r.Sound) (name key : String) :
    (r.unregister name).backends.lookup key
      = if key = r.target (languageKey name) then none else r.backends.lookup key := by
  show List.lookup key (List.filter _ r.backends) = _
  rw [Table.lookup_filter hr.languages_nodup]
  cases r.backends.lookup key <;> by_cases h : key = r.target (languageKey name) <;> simp [h]

lemma lookup_unregister_aliases {r : Registry} (hr : r.Sound) (name key : String) :
    (r.unregister name).aliases.lookup key
      = (r.aliases.lookup key).filter fun k => k ≠ r.target (languageKey name) :=
  Table.lookup_filter hr.aliases_nodup _ key

lemma Sound.unregister {r : Registry} (hr : r.Sound) (name : String) :
    (r.unregister name).Sound where
  languages_nodup := hr.languages_nodup.sublist (List.filter_sublist.map Prod.fst)
  aliases_nodup := hr.aliases_nodup.sublist (List.filter_sublist.map Prod.fst)
  alias_registered {a key} h := by
    rw [lookup_unregister_aliases hr, Option.filter_eq_some_iff, decide_eq_true_eq] at h
    rw [hasLanguage_iff, ← Table.exists_lookup_iff, lookup_unregister_backends hr, if_neg h.2]
    exact Table.exists_lookup_iff.mpr (hasLanguage_iff.mp (hr.alias_registered h.1))
  alias_ne_target {a key} h := by
    rw [lookup_unregister_aliases hr, Option.filter_eq_some_iff] at h
    exact hr.alias_ne_target h.1
  languages_small key hkey :=
    hr.languages_small key ((List.filter_sublist.map Prod.fst).subset hkey)
  aliases_small a ha := hr.aliases_small a ((List.filter_sublist.map Prod.fst).subset ha)

lemma Sound.accept {r : Registry} (hr : r.Sound) (q : Registration) : (r.accept q).2.Sound := by
  rw [Registry.accept]
  cases outcome_registration r q with
  | refused fault hrun => rwa [hrun]
  | kept entry _ _ _ _ hrun => rwa [hrun]
  | @written language b names entry _ _ _ _ hrun =>
    rw [hrun]
    exact hr.store (languageKey_languageKey language) b names

/-! ## Runs -/

/-- What can be asked of a registry that may change it. -/
inductive Request where
  | register (q : Registration)
  | unregister (name : String)

/-- The registry that a request leaves, be it refused or not. -/
def after (r : Registry) : Request → Registry
  | .register q => (r.accept q).2
  | .unregister name => r.unregister name

/-- The registry that the requests of a list lead to, one after another, from the empty one. -/
def run (requests : List Request) : Registry := requests.foldl after {}

lemma Sound.after {r : Registry} (hr : r.Sound) (request : Request) : (r.after request).Sound := by
  cases request with
  | register q => exact hr.accept q
  | unregister name => exact hr.unregister name

lemma sound_run (requests : List Request) : (run requests).Sound := by
  have hfold : ∀ r : Registry, r.Sound → (requests.foldl after r).Sound := by
    induction requests with
    | nil => exact fun _ hr => hr
    | cons request rest ih => exact fun r hr => ih _ (hr.after request)
  exact hfold {} sound_empty

/-! ## Names of a registered language -/

lemma mem_aliasesOf {r : Registry} (hr : r.Sound) {name key : String}
    (hkey : languageKey key = key) :
    name ∈ r.aliasesOf key ↔ r.aliases.lookup name = some key := by
  rw [aliasesOf, Text.mem_sortedSet, hkey, ← Table.mem_iff_lookup hr.aliases_nodup]
  simp [Table.keys]

/-- A name is supported exactly when what it stands for is registered. -/
lemma Sound.isSupported_iff {r : Registry} (hr : r.Sound) (name : String) :
    r.isSupported name = true ↔ r.hasLanguage (r.target (languageKey name)) = true := by
  rw [isSupported, Bool.or_eq_true]
  cases halias : r.aliases.lookup (languageKey name) with
  | some key =>
    have hname : r.aliases.hasKey (languageKey name) = true :=
      Table.hasKey_iff.mpr (Table.exists_lookup_iff.mp ⟨key, halias⟩)
    simp [target_of_alias halias, hr.alias_registered halias, hname]
  | none =>
    have hname := Table.lookup_eq_none_iff.mp halias
    rw [target_of_not_alias hname, Table.hasKey_iff]
    simp [hname]

/-- The names in small letters that stand for a registered language. -/
lemma Sound.canonicalName_eq_iff {r : Registry} (hr : r.Sound) {key : String}
    (hlanguage : r.hasLanguage key = true) (name : String) :
    languageKey name = name ∧ r.canonicalName name = .ok key ↔
      name ∈ r.aliasesOf key ∨ name = key ∧ name ∉ r.aliases.keys := by
  have hkey := hr.languages_small key (hasLanguage_iff.mp hlanguage)
  rw [canonicalName_eq_ok, mem_aliasesOf hr hkey]
  constructor
  · rintro ⟨hname, htarget, -⟩
    rw [hname] at htarget
    cases halias : r.aliases.lookup name with
    | some other => exact Or.inl (by rw [← htarget, target_of_alias halias])
    | none =>
      have hnot := Table.lookup_eq_none_iff.mp halias
      exact Or.inr ⟨by rw [← htarget, target_of_not_alias hnot], hnot⟩
  · rintro (halias | ⟨rfl, hnot⟩)
    · have hname := hr.aliases_small name (Table.exists_lookup_iff.mp ⟨key, halias⟩)
      exact ⟨hname, by rw [hname, target_of_alias halias], hlanguage⟩
    · exact ⟨hkey, by rw [hkey, target_of_not_alias hnot], hlanguage⟩

/-- Whatever run of requests led to a registry: its aliases point at registered languages, a name
is supported exactly when it stands for a language and exactly when it has a backend, and the names
in small letters that stand for a registered language are its aliases, together with its own name
where that is no alias. -/
theorem run_lookup_agrees (requests : List Request) :
    (∀ entry ∈ (run requests).aliases, (run requests).hasLanguage entry.2 = true) ∧
    (∀ name, (run requests).isSupported name = true ↔
      ∃ key, (run requests).canonicalName name = .ok key) ∧
    (∀ name, (run requests).isSupported name = true ↔
      ∃ b, (run requests).backend name = .ok b) ∧
    ∀ key, (run requests).hasLanguage key = true → ∀ name,
      (languageKey name = name ∧ (run requests).canonicalName name = .ok key ↔
        name ∈ (run requests).aliasesOf key ∨ name = key ∧ name ∉ (run requests).aliases.keys) := by
  have hr := sound_run requests
  refine ⟨fun entry hentry => ?_, fun name => ?_, fun name => ?_, fun key hkey name => ?_⟩
  · exact hr.alias_registered ((Table.mem_iff_lookup hr.aliases_nodup).mp hentry)
  · simp [hr.isSupported_iff name, canonicalName_eq_ok]
  · simp only [hr.isSupported_iff name, hasLanguage_iff, backend_eq_ok, Table.exists_lookup_iff]
  · exact hr.canonicalName_eq_iff hkey name

/-- An alias that has taken the name of a language: after Kotlin has been registered, a backend that
replaces takes `Kotlin` for an alias, and the name `kotlin` stands for the other language. -/
theorem run_lookup_agrees_shadowed :
    let requests : List Request :=
      [.register (.plain "Kotlin" kotlinBackend ["KT"]),
       .register { Registration.plain "script" abstractBackend ["Kotlin"] with replace := true }]
    (run requests).hasLanguage "kotlin" = true ∧
      (languageKey "kotlin" = "kotlin" ∧ (run requests).canonicalName "kotlin" = .ok "kotlin" ↔
        "kotlin" ∈ (run requests).aliasesOf "kotlin" ∨
          "kotlin" = "kotlin" ∧ "kotlin" ∉ (run requests).aliases.keys) ∧
      (run requests).canonicalName "kotlin" = .ok "script" := by
  intro requests
  have hkotlin : (run requests).hasLanguage "kotlin" = true := by rfl
  exact ⟨hkotlin, (run_lookup_agrees requests).2.2.2 "kotlin" hkotlin "kotlin", by rfl⟩

end Registry

end Nomenclator
