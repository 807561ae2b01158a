import Nomenclator.Proofs.Settings.Bundles

/-!
# Options that are not known

Bundles may hold options under keys that name no field.  Two of these were given up in favour of the
package name and are ignored with a warning; all others are left out with an entry for those who
look closely.  Either way they are foreign: `known` is what remains of a bundle without them.

Foreign options stand between the others when bundles are merged, and the merge keeps the order of
first writing.  They do not disturb it, because a key is kept or dropped as a whole:
`known_merge`.  So what the merged bundle sets a field to depends on the known options alone, and
with it everything that is loaded, refusals included (`result_load_congr`).  All that foreign
options leave behind are entries of the journal, one for each key of the merged bundle: `log_load`.

`load_ignores_foreign` adds what becomes of the known options: settings are made from the merged
bundle, and then made again with the packages that no bundle sets.
-/

namespace Nomenclator.Settings

/-! ## Foreign keys -/

/-- Whether a key is neither an option key nor the name of a field. -/
def isForeign (key : String) : Bool :=
  Field.all.all fun field => field.optionKey != key && field.name != key

/-- The options whose keys name a field. -/
def known (options : Table Value) : Table Value :=
  options.filter fun option => !isForeign option.1

/-- The entry of the journal for a foreign key. -/
def foreignEntry (key : String) : Entry :=
  if key ∈ ["invokerPackage", "invoker_package"] then
    .warning .settings (key ++ " is ignored by this generator. Use packageName.")
  else .debug .settings ("Ignoring unknown option: " ++ key)

lemma isForeign_eq_false_iff {key : String} :
    isForeign key = false ↔ ∃ field, KeyKind.ofText key = .field field := by
  have hall (field : Field) : field ∈ Field.all := by cases field <;> decide
  simp only [ofText_eq_field_iff, isForeign, List.all_eq_false, Bool.and_eq_true, bne_iff_ne, ne_eq,
    not_and_or, not_not]
  constructor
  · rintro ⟨field, -, hkey⟩
    exact ⟨field, hkey.imp Eq.symm Eq.symm⟩
  · rintro ⟨field, hkey⟩
    exact ⟨field, hall field, hkey.imp Eq.symm Eq.symm⟩

lemma isForeign_of_kind {key : String} (h : ∀ field, KeyKind.ofText key ≠ .field field) :
    isForeign key = true := by
  rw [← Bool.not_eq_false, isForeign_eq_false_iff]
  exact fun ⟨field, hfield⟩ => h field hfield

lemma ofText_eq_ignored_iff {key : String} :
    KeyKind.ofText key = .ignored ↔ key ∈ ["invokerPackage", "invoker_package"] := by
  have hkeys : ignoredKeys.contains key = true ↔ key ∈ ["invokerPackage", "invoker_package"] :=
    List.contains_iff_mem
  rw [← hkeys, KeyKind.ofText]
  cases ignoredKeys.contains key
  · cases Field.ofKey? key <;> simp
  · simp

/-- A foreign key calls for one entry, and any other key for none. -/
lemma notice?_text (key : String) :
    notice? (.text key) = if isForeign key then some (foreignEntry key) else none := by
  rw [notice?, KeyKind.of, foreignEntry]
  cases hkind : KeyKind.ofText key with
  | field f => simp [isForeign_eq_false_iff.mpr ⟨f, hkind⟩]
  | ignored =>
    have hforeign : isForeign key = true := isForeign_of_kind (by simp [hkind])
    rw [if_pos hforeign, if_pos (ofText_eq_ignored_iff.mp hkind)]
    rfl
  | unknown =>
    have hforeign : isForeign key = true := isForeign_of_kind (by simp [hkind])
    have hkept : key ∉ ["invokerPackage", "invoker_package"] := by
      rw [← ofText_eq_ignored_iff, hkind]
      simp
    rw [if_pos hforeign, if_neg hkept]
    rfl

lemma filterMap_notice? (bundle : Table Value) :
    (Bundle.ofFields bundle).filterMap (fun entry => notice? entry.1)
      = (bundle.keys.filter isForeign).map foreignEntry := by
  induction bundle with
  | nil => rfl
  | cons option rest ih =>
    have hcons : Bundle.ofFields (option :: rest)
        = (.text option.1, option.2) :: Bundle.ofFields rest := rfl
    rw [hcons, List.filterMap_cons, notice?_text, ih, Table.keys_cons, List.filter_cons]
    cases isForeign option.1 <;> rfl

/-! ## What foreign options leave unchanged -/

lemma known_merge (base extra : Table Value) :
    known (base.merge extra) = (known base).merge (known extra) :=
  Table.filter_key_merge (fun key => !isForeign key) base extra

lemma find?_known (bundle : Table Value) (field : Field) :
    (known bundle).reverse.find? (sets field) = bundle.reverse.find? (sets field) := by
  rw [known, ← List.filter_reverse, List.find?_filter]
  congr 1
  funext option
  cases hsets : sets field option
  · simp
  · have hknown : isForeign option.1 = false :=
      isForeign_eq_false_iff.mpr ⟨field, sets_iff.mp hsets⟩
    simp [hknown]

/-- What a bundle sets a field to is decided by its known options. -/
lemma assigned_known (bundle : Table Value) :
    assigned (Bundle.ofFields (known bundle)) = assigned (Bundle.ofFields bundle) := by
  funext field
  rw [assigned_ofFields, assigned_ofFields, find?_known]

lemma assigned_congr {bundle other : Table Value} (h : known bundle = known other) :
    assigned (Bundle.ofFields bundle) = assigned (Bundle.ofFields other) := by
  rw [← assigned_known bundle, ← assigned_known other, h]

/-! ## Loading -/

/-- Whether one of several records sets a field, under either spelling. -/
def isSetIn (sources : List (Table Value)) (field : Field) : Bool :=
  sources.any fun options => options.hasKey field.optionKey || options.hasKey field.name

lemma isSome_assigned_ofFields (bundle : Table Value) (field : Field) :
    (assigned (Bundle.ofFields bundle) field).isSome = true ↔
      field.optionKey ∈ bundle.keys ∨ field.name ∈ bundle.keys := by
  rw [assigned_ofFields, Option.isSome_map, List.find?_isSome]
  simp only [List.mem_reverse, sets_iff, ofText_eq_field_iff, Table.keys, List.mem_map]
  constructor
  · rintro ⟨option, hmem, hkey | hkey⟩
    · exact Or.inl ⟨option, hmem, hkey⟩
    · exact Or.inr ⟨option, hmem, hkey⟩
  · rintro (⟨option, hmem, hkey⟩ | ⟨option, hmem, hkey⟩)
    · exact ⟨option, hmem, Or.inl hkey⟩
    · exact ⟨option, hmem, Or.inr hkey⟩

section Load

variable {files : Files} {defaults fromFile options : Table Value} {file : Value}

lemma isSome_assigned_merged (field : Field) :
    (assigned (Bundle.ofFields ((defaults.merge fromFile).merge options)) field).isSome
      = isSetIn [defaults, fromFile, options] field := by
  rw [Bool.eq_iff_iff, isSome_assigned_ofFields]
  simp only [Table.mem_keys_merge, isSetIn, List.any_cons, List.any_nil, Bool.or_eq_true,
    Table.hasKey_iff, Bool.or_false]
  grind

lemma log_load (hfile : (loadFileValue files file).result = .ok fromFile) :
    (load files (Bundle.ofFields defaults) (.record options) file).log
      = (loadFileValue files file).log
        ++ (((defaults.merge fromFile).merge options).keys.filter isForeign).map foreignEntry := by
  have hfields : (Report.of (orMismatch (Bundle.ofValue (.record options)))).result
      = .ok (Bundle.ofFields options) := rfl
  rw [load, Report.log_bind_of_ok hfile, Report.log_bind_of_ok hfields, loadBundle, ofFields_merge,
    ofFields_merge, filterMap_notice?]
  rfl

/-- A file that cannot be read is refused whatever the other records hold. -/
lemma result_load_of_error {fault : Fault}
    (hfile : (loadFileValue files file).result = .error fault) :
    (load files (Bundle.ofFields defaults) (.record options) file).result = .error fault :=
  Report.result_bind_of_error hfile

/-- Loads from records that are the same without their foreign options end alike. -/
lemma result_load_congr {files' : Files} {defaults' options' : Table Value} {file' : Value}
    (hdefaults : known defaults' = known defaults) (hoptions : known options' = known options)
    (hfile : (loadFileValue files' file').result.map known
      = (loadFileValue files file).result.map known) :
    (load files' (Bundle.ofFields defaults') (.record options') file').result
      = (load files (Bundle.ofFields defaults) (.record options) file).result := by
  cases hread : (loadFileValue files file).result with
  | error fault =>
    have hread' : (loadFileValue files' file').result = .error fault :=
      map_eq_error_iff.mp (hfile.trans (map_eq_error_iff.mpr hread))
    rw [result_load_of_error hread, result_load_of_error hread']
  | ok fromFile =>
    obtain ⟨fromFile', hread', hfromFile⟩ : ∃ fromFile',
        (loadFileValue files' file').result = .ok fromFile' ∧ known fromFile' = known fromFile :=
      map_eq_ok_iff.mp (hfile.trans (map_eq_ok_iff.mpr ⟨fromFile, hread, rfl⟩))
    have hmerged : known ((defaults'.merge fromFile').merge options')
        = known ((defaults.merge fromFile).merge options) := by
      simp only [known_merge, hdefaults, hfromFile, hoptions]
    rw [result_load rfl hread, result_load rfl hread', ofBundle, ofBundle, assigned_congr hmerged]

end Load

/-- What a load does with the options that name no field, and what it does after it has read those
that do.

Where the same options are known in each record, loads end alike.  A load leaves one entry for each
foreign key of the merged bundle, behind those of reading the file.  It makes settings from the
merged bundle, if they can be made, and makes them again with the seeds, which succeeds and leaves
them seeded; a field that does not fit is refused before that. -/
theorem load_ignores_foreign (files : Files) {defaults : Table Value}
    (hdefaults : defaults.keys.Nodup) (options : Table Value) (file : Value) :
    let report := load files (Bundle.ofFields defaults) (.record options) file
    (∀ files' defaults' options' file', known defaults' = known defaults →
      known options' = known options →
      (loadFileValue files' file').result.map known
        = (loadFileValue files file).result.map known →
      (load files' (Bundle.ofFields defaults') (.record options') file').result
        = report.result) ∧
    ∀ fromFile, (loadFileValue files file).result = .ok fromFile →
      let merged := (defaults.merge fromFile).merge options
      let isSet := isSetIn [defaults, fromFile, options]
      merged.keys.Nodup ∧
      report.log
        = (loadFileValue files file).log ++ (merged.keys.filter isForeign).map foreignEntry ∧
      (∀ unseeded, ofFields (assigned (Bundle.ofFields merged)) = .ok unseeded →
        ∃ s, unseeded.remade (unseeded.seeds isSet) = .ok s ∧ report.result = .ok s ∧
          IsSeeded isSet unseeded s) ∧
      ∀ e, ofFields (assigned (Bundle.ofFields merged)) = .error e →
        report.result = .error e := by
  refine ⟨fun files' defaults' options' file' => result_load_congr, fun fromFile hread => ?_⟩
  refine ⟨Table.merge_keys_nodup (Table.merge_keys_nodup hdefaults _) _, log_load hread,
    fun unseeded hunseeded => ?_, fun e he => ?_⟩
  · refine ⟨_, remade_seeds _ unseeded, ?_, isSeeded_seedPackages _ unseeded⟩
    rw [result_load rfl hread, ofBundle_eq, hunseeded, isSome_assigned_merged,
      isSome_assigned_merged]
    rfl
  · rw [result_load rfl hread, ofBundle_eq, he]
    rfl

/-- Two options that name no field change nothing, and each has its entry.  The package of models is
taken from the package name; that of interfaces is set, if only to the empty text. -/
theorem load_ignores_foreign_colour :
    let defaults : Table Value := [("invokerPackage", .int 1), ("packageName", .text "com.acme")]
    let options : Table Value := [("colour", .null), ("api_package", .text "")]
    let report := load {} (Bundle.ofFields defaults) (.record options) .null
    defaults.keys.Nodup ∧
      (load {} (Bundle.ofFields [("packageName", .text "com.acme")])
        (.record [("api_package", .text "")]) .null).result = report.result ∧
      report.log
        = [.warning .settings "invokerPackage is ignored by this generator. Use packageName.",
           .debug .settings "Ignoring unknown option: colour"] ∧
      report.result
        = .ok { packageName := some "com.acme", modelPackage := "com.acme.models" } := by
  intro defaults options report
  have hkeys : defaults.keys.Nodup := by decide
  obtain ⟨hsame, hrest⟩ := load_ignores_foreign {} hkeys options .null
  obtain ⟨-, hlog, hmade, -⟩ := hrest [] rfl
  obtain ⟨s, hremade, hresult, -⟩ := hmade { packageName := some "com.acme" } rfl
  obtain rfl := Except.ok.inj hremade
  refine ⟨hkeys, hsame {} _ _ .null rfl rfl rfl, ?_, ?_⟩
  · rw [hlog]
    decide
  · exact hresult

end Nomenclator.Settings
