import Nomenclator.Proofs.Settings.Bundles

/-!
# Which source a setting comes from

Options come from several records, of which the later take precedence, and every field can be
spelled in two ways.  What one expects is that a field is taken from the last record that sets it,
and from the option written last in that record: this is `preferred?`.

The records are merged by key, however, and a key that is written again keeps its old place.  The
field is then taken from the spelling whose place is last, and that is the spelling that was *first*
written last.  An option for the other spelling can thus overtake the preferred one, although it
stands in a record of lower precedence: `Overtakes`.

`assigned_of_overtakes` and `assigned_of_not_overtaken` compare the two orders for the merged
records.  `load_precedence` carries this to settings that are loaded from defaults, a file and
options: a field comes from where it is expected to come from exactly when no value that reads
differently overtakes the preferred one, and an overtaking value is the one in force.
`options_overtaken_by_defaults` is the smallest case in which this is not what one expects.
-/

namespace Nomenclator.Settings

/-! ## Options in several records -/

/-- The option of highest precedence for a field: of the last record that sets it, the last. -/
def preferred? (sources : List (Table Value)) (field : Field) : Option (String × Value) :=
  sources.reverse.findSome? fun options => options.reverse.find? (sets field)

/-- The value of a key in the last record that has it. -/
def latest? (sources : List (Table Value)) (key : String) : Option Value :=
  sources.reverse.findSome? fun options => options.lookup key

/-- All keys in the order in which they are written, one record after another. -/
def writings (sources : List (Table Value)) : List String := sources.flatMap Table.keys

/-- The value overtakes the preferred option for a field: it is what the other spelling of the field
is set to, and that spelling was first written after the preferred one was. -/
def Overtakes (sources : List (Table Value)) (field : Field) (value : Value) : Prop :=
  ∃ preferred key, preferred? sources field = some preferred ∧
    KeyKind.ofText key = .field field ∧
    (writings sources).idxOf preferred.1 < (writings sources).idxOf key ∧
    latest? sources key = some value

lemma keys_flatten (sources : List (Table Value)) :
    Table.keys sources.flatten = writings sources := by
  simp [Table.keys, writings, List.map_flatten, List.flatMap]
  rfl

lemma preferred?_eq (sources : List (Table Value)) (field : Field) :
    preferred? sources field = sources.flatten.reverse.find? (sets field) := by
  rw [preferred?, List.reverse_flatten, List.find?_flatten, ← List.map_reverse,
    List.findSome?_map]
  rfl

lemma sets_of_preferred? {sources : List (Table Value)} {field : Field} {option : String × Value}
    (h : preferred? sources field = some option) : sets field option = true := by
  rw [preferred?_eq] at h
  exact List.find?_some h

lemma latest?_eq {sources : List (Table Value)} (hkeys : ∀ options ∈ sources, options.keys.Nodup)
    (key : String) : latest? sources key = List.lookup key sources.flatten.reverse := by
  induction sources with
  | nil => rfl
  | cons first rest ih =>
    have hrest := ih fun options hoptions => hkeys options (List.mem_cons_of_mem _ hoptions)
    rw [latest?] at hrest ⊢
    rw [List.reverse_cons, List.findSome?_append, hrest, List.flatten_cons, List.reverse_append,
      List.lookup_append, Table.lookup_reverse (hkeys first (by simp))]
    simp

/-! ## The last option for a field -/

/-- The last option for a field stands behind all others for it. -/
lemma find?_reverse_last {options : Table Value} {field : Field} {option : String × Value}
    (h : options.reverse.find? (sets field) = some option) :
    ∃ before after, options = before ++ option :: after ∧
      ∀ o ∈ after, sets field o = false := by
  obtain ⟨-, before, after, hsplit, hnone⟩ := List.find?_eq_some_iff_append.mp h
  refine ⟨after.reverse, before.reverse, ?_, fun o ho => ?_⟩
  · rw [← List.reverse_inj, hsplit]
    simp
  · simpa using hnone o (List.mem_reverse.mp ho)

lemma exists_last {options : Table Value} {field : Field} {option : String × Value}
    (hmem : option ∈ options) (hsets : sets field option = true) :
    ∃ last, options.reverse.find? (sets field) = some last := by
  rw [← Option.isSome_iff_exists, List.find?_isSome]
  exact ⟨option, List.mem_reverse.mpr hmem, hsets⟩

/-- In merged records the last option for a field has the spelling that was first written last. -/
lemma idxOf_le_of_last {entries : Table Value} {field : Field} {option other : String × Value}
    (hlast : (Table.ofEntries entries).reverse.find? (sets field) = some option)
    (hother : other ∈ Table.ofEntries entries) (hsets : sets field other = true) :
    other = option ∨
      (Table.keys entries).idxOf other.1 < (Table.keys entries).idxOf option.1 := by
  obtain ⟨before, after, hsplit, hafter⟩ := find?_reverse_last hlast
  have hpairs := Table.ofEntries_keys_pairwise entries
  rw [hsplit, Table.keys_append, Table.keys_cons, List.pairwise_append] at hpairs
  rw [hsplit, List.mem_append, List.mem_cons] at hother
  rcases hother with hbefore | heq | hbehind
  · exact Or.inr (hpairs.2.2 other.1 (List.mem_map_of_mem hbefore) option.1 (by simp))
  · exact Or.inl heq
  · rw [hafter other hbehind] at hsets
    exact absurd hsets (by simp)

/-- The preferred option is the last writing of its key. -/
lemma lookup_preferred {sources : List (Table Value)} {field : Field} {option : String × Value}
    (h : preferred? sources field = some option) :
    List.lookup option.1 sources.flatten.reverse = some option.2 := by
  rw [preferred?_eq] at h
  obtain ⟨hsets, before, after, hsplit, hnone⟩ := List.find?_eq_some_iff_append.mp h
  refine List.lookup_eq_some_iff.mpr ⟨before, after, hsplit, fun o ho => ?_⟩
  -- an option with the same key would set the same field
  rw [bne_iff_ne]
  intro hkey
  have hno := hnone o ho
  rw [sets_iff] at hsets
  simp [sets, ← hkey, hsets] at hno

section Merged

variable {sources : List (Table Value)} {field : Field}

lemma lookup_merged (hkeys : ∀ options ∈ sources, options.keys.Nodup) (key : String) :
    (Table.ofEntries sources.flatten).lookup key = latest? sources key := by
  rw [latest?_eq hkeys, Table.ofEntries, Table.lookup_merge_reverse]
  simp

/-- A value that overtakes is the one that the merged records set the field to. -/
lemma assigned_of_overtakes (hkeys : ∀ options ∈ sources, options.keys.Nodup) {value : Value}
    (h : Overtakes sources field value) :
    assigned (Bundle.ofFields (Table.ofEntries sources.flatten)) field = some value := by
  obtain ⟨preferred, key, hpreferred, hkey, hlater, hvalue⟩ := h
  rw [assigned_ofFields]
  have hmem : (key, value) ∈ Table.ofEntries sources.flatten :=
    Table.mem_of_lookup ((lookup_merged hkeys key).trans hvalue)
  have hsets : sets field (key, value) = true := sets_iff.mpr hkey
  obtain ⟨option, hlast⟩ := exists_last hmem hsets
  rcases idxOf_le_of_last hlast hmem hsets with heq | hlt
  · rw [hlast, ← heq]
    rfl
  · -- there are only two spellings, so the last option would have the preferred one
    have hoption := spelling_cases (sets_iff.mp (List.find?_some hlast))
    have hspelling := spelling_cases (sets_iff.mp (sets_of_preferred? hpreferred))
    have hother := spelling_cases hkey
    rw [keys_flatten] at hlt
    have h1 : preferred.1 ≠ key := fun h => by simp [h] at hlater
    have h2 : option.1 ≠ key := fun h => by simp [h] at hlt
    have h3 : option.1 = preferred.1 := by
      rcases hoption with ho | ho <;> rcases hspelling with hp | hp <;>
        rcases hother with hk | hk <;> simp_all
    have hbehind : (writings sources).idxOf key < (writings sources).idxOf option.1 := hlt
    rw [h3] at hbehind
    omega

/-- Where nothing overtakes the preferred option, the merged records set the field to it. -/
lemma assigned_of_not_overtaken (hkeys : ∀ options ∈ sources, options.keys.Nodup)
    (h : ∀ value, ¬ Overtakes sources field value) :
    assigned (Bundle.ofFields (Table.ofEntries sources.flatten)) field
      = (preferred? sources field).map Prod.snd := by
  rw [assigned_ofFields]
  cases hpreferred : preferred? sources field with
  | none =>
    rw [preferred?_eq, List.find?_eq_none] at hpreferred
    have hnone : (Table.ofEntries sources.flatten).reverse.find? (sets field) = none := by
      rw [List.find?_eq_none]
      intro option hoption
      have hkey : option.1 ∈ Table.keys sources.flatten :=
        Table.mem_keys_ofEntries.mp (List.mem_map_of_mem (List.mem_reverse.mp hoption))
      obtain ⟨written, hwritten, heq⟩ := List.mem_map.mp hkey
      have hno := hpreferred written (List.mem_reverse.mpr hwritten)
      rwa [sets, heq] at hno
    rw [hnone]
  | some preferred =>
    have hmem : preferred ∈ Table.ofEntries sources.flatten := by
      refine Table.mem_of_lookup ?_
      rw [lookup_merged hkeys, latest?_eq hkeys, lookup_preferred hpreferred]
    obtain ⟨option, hlast⟩ := exists_last hmem (sets_of_preferred? hpreferred)
    rcases idxOf_le_of_last hlast hmem (sets_of_preferred? hpreferred) with heq | hlt
    · rw [hlast, ← heq]
    · refine absurd ?_ (h option.2)
      refine ⟨preferred, option.1, hpreferred, sets_iff.mp (List.find?_some hlast), ?_, ?_⟩
      · rwa [← keys_flatten]
      · rw [← lookup_merged hkeys, ← Table.mem_iff_lookup (Table.ofEntries_keys_nodup _)]
        exact List.mem_reverse.mp (List.mem_of_find?_eq_some hlast)

end Merged

/-! ## Loaded settings -/

/-- A loaded field reads as the preferred option for it exactly when every value that overtakes that
option reads the same, and any such value is the one that the field has been read from. -/
theorem load_precedence {files : Files} {defaults fromFile options : Table Value} {file : Value}
    {s : Settings} {field : Field} (hdefaults : defaults.keys.Nodup) (hoptions : options.keys.Nodup)
    (hfile : (loadFileValue files file).result = .ok fromFile)
    (hload : (load files (Bundle.ofFields defaults) (.record options) file).result = .ok s)
    (hmodel : field ≠ .modelPackage) (hapi : field ≠ .apiPackage) :
    (field.readOrDefault ((preferred? [defaults, fromFile, options] field).map Prod.snd)
        = .ok (s.get field) ↔
      ∀ value, Overtakes [defaults, fromFile, options] field value →
        field.read value = field.readOrDefault
          ((preferred? [defaults, fromFile, options] field).map Prod.snd)) ∧
    ∀ value, Overtakes [defaults, fromFile, options] field value →
      field.read value = .ok (s.get field) := by
  have hkeys : ∀ source ∈ [defaults, fromFile, options], source.keys.Nodup := by
    simpa using ⟨hdefaults, loadFileValue_keys_nodup hfile, hoptions⟩
  have hmerged : (defaults.merge fromFile).merge options
      = Table.ofEntries [defaults, fromFile, options].flatten := by
    rw [List.flatten_cons, List.flatten_cons, List.flatten_cons, List.flatten_nil, List.append_nil,
      Table.ofEntries_append, Table.merge_append, Table.ofEntries_of_nodup hdefaults]
  obtain ⟨content, hcontent, hbundle⟩ := (load_eq_ok_iff rfl).mp hload
  obtain rfl : fromFile = content := Except.ok.inj (hfile.symm.trans hcontent)
  rw [hmerged] at hbundle
  have hget := ofBundle_get hbundle hmodel hapi
  have hovertakes : ∀ value, Overtakes [defaults, fromFile, options] field value →
      field.read value = .ok (s.get field) := by
    intro value hvalue
    rwa [assigned_of_overtakes hkeys hvalue] at hget
  refine ⟨⟨fun hexpected value hvalue => ?_, fun hsame => ?_⟩, hovertakes⟩
  · rw [hovertakes value hvalue, hexpected]
  · by_cases hany : ∃ value, Overtakes [defaults, fromFile, options] field value
    · obtain ⟨value, hvalue⟩ := hany
      rw [← hsame value hvalue, hovertakes value hvalue]
    · rwa [assigned_of_not_overtaken hkeys (not_exists.mp hany)] at hget

/-- Defaults that set one field under both spellings. -/
def twiceSpelled : Table Value := [("groupId", .text "first"), ("group_id", .text "second")]

/-- An option for that field, under the spelling that stands first in the defaults. -/
def onceSpelled : Table Value := [("groupId", .text "chosen")]

/-- The option is preferred, and the second default overtakes it. -/
theorem load_precedence_overtaken :
    (load {} (Bundle.ofFields twiceSpelled) (.record onceSpelled) .null).result
        = .ok { groupId := "second" } ∧
      preferred? [twiceSpelled, [], onceSpelled] .groupId = some ("groupId", .text "chosen") ∧
      Field.read .groupId (.text "second") = .ok (get { groupId := "second" } .groupId) := by
  have hload : (load {} (Bundle.ofFields twiceSpelled) (.record onceSpelled) .null).result
      = .ok { groupId := "second" } := rfl
  have hovertakes : Overtakes [twiceSpelled, [], onceSpelled] .groupId (.text "second") :=
    ⟨("groupId", .text "chosen"), "group_id", rfl, by decide, by decide, rfl⟩
  have hnone : (loadFileValue {} .null).result = .ok [] := rfl
  exact ⟨hload, rfl, (load_precedence (by decide) (by decide) hnone hload
    (by decide) (by decide)).2 _ hovertakes⟩

/-- Loaded fields do not always read as the options of highest precedence. -/
theorem options_overtaken_by_defaults :
    ¬ ∀ (files : Files) (defaults fromFile options : Table Value) (file : Value) (s : Settings)
      (field : Field), defaults.keys.Nodup → options.keys.Nodup →
      (loadFileValue files file).result = .ok fromFile →
      (load files (Bundle.ofFields defaults) (.record options) file).result = .ok s →
      field ≠ .modelPackage → field ≠ .apiPackage →
      field.readOrDefault ((preferred? [defaults, fromFile, options] field).map Prod.snd)
        = .ok (s.get field) := by
  intro h
  have hchosen := h {} twiceSpelled [] onceSpelled .null { groupId := "second" } .groupId
    (by decide) (by decide) rfl rfl (by decide) (by decide)
  have htexts : ("chosen" : String) = "second" := Except.ok.inj hchosen
  exact absurd htexts (by decide)

end Nomenclator.Settings
