import Nomenclator.Settings.Load
import Nomenclator.Proofs.Document.Fields
import Nomenclator.Proofs.Settings.Seeding

/-!
# Settings from bundles whose keys are texts

A bundle may be keyed by any value, but defaults, files and options are records, and among texts the
tables by values behave as ordered tables do: `ofFields_merge`.  So a load from three records is a
load from one ordered table, and `load_eq_ok_iff` takes it apart into reading the file and making
settings from the merged bundle.

`assigned_ofFields` finds the value that a bundle sets a field to: that of the last option for it,
under whichever spelling.  `ofBundle_get` adds that the fields of settings are the readings of these
values, the two packages that may be seeded left aside.
-/

namespace Nomenclator.Settings

/-! ## Bundles as ordered tables -/

lemma put_ofFields (key : String) (value : Value) (bundle : Table Value) :
    Keyed.put (.text key) value (Bundle.ofFields bundle)
      = Bundle.ofFields (bundle.put key value) := by
  induction bundle with
  | nil => rfl
  | cons option rest ih =>
    obtain ⟨k, v⟩ := option
    show Keyed.put _ _ ((Value.text k, v) :: Bundle.ofFields rest) = _
    by_cases hk : k = key
    · simp [Keyed.put, Table.put, Value.isSameKey, Bundle.ofFields, hk]
    · rw [Keyed.put, Table.put, if_neg (by simpa [Value.isSameKey] using hk), if_neg hk, ih]
      rfl

lemma ofFields_merge (base extra : Table Value) :
    Keyed.merge (Bundle.ofFields base) (Bundle.ofFields extra)
      = Bundle.ofFields (base.merge extra) := by
  induction extra generalizing base with
  | nil => rfl
  | cons option rest ih =>
    show Keyed.merge (Keyed.put (.text option.1) option.2 (Bundle.ofFields base))
      (Bundle.ofFields rest) = _
    rw [put_ofFields, ih, Table.merge_cons]

/-! ## The options for a field -/

/-- Whether an option sets a field, under either spelling. -/
def sets (field : Field) (option : String × Value) : Bool :=
  KeyKind.ofText option.1 = .field field

lemma sets_iff {field : Field} {option : String × Value} :
    sets field option = true ↔ KeyKind.ofText option.1 = .field field := by
  simp [sets]

/-- A field has two spellings. -/
lemma spelling_cases {key : String} {field : Field} (h : KeyKind.ofText key = .field field) :
    key = field.optionKey ∨ key = field.name := by
  unfold KeyKind.ofText at h
  split at h
  · simp at h
  · cases hfield : Field.ofKey? key with
    | none => simp [hfield] at h
    | some f =>
      simp only [hfield, KeyKind.field.injEq] at h
      have hspelling := List.find?_some hfield
      simp only [h, Bool.or_eq_true, decide_eq_true_eq] at hspelling
      exact hspelling.imp Eq.symm Eq.symm

/-- Either spelling of a field sets it. -/
lemma ofText_eq_field_iff {key : String} {field : Field} :
    KeyKind.ofText key = .field field ↔ key = field.optionKey ∨ key = field.name := by
  refine ⟨spelling_cases, ?_⟩
  rintro (rfl | rfl)
  · cases field <;> rfl
  · cases field <;> rfl

lemma lookup_assignments (bundle : Table Value) (field : Field) :
    List.lookup field ((Bundle.ofFields bundle).filterMap fun entry =>
        match KeyKind.of entry.1 with
        | .field f => some (f, entry.2)
        | _ => none)
      = (bundle.find? (sets field)).map Prod.snd := by
  induction bundle with
  | nil => rfl
  | cons option rest ih =>
    have hcons : Bundle.ofFields (option :: rest)
        = (.text option.1, option.2) :: Bundle.ofFields rest := rfl
    rw [hcons, List.filterMap_cons, List.find?_cons]
    simp only [KeyKind.of, sets]
    cases hkind : KeyKind.ofText option.1 with
    | field f =>
      by_cases hfield : f = field
      · simp [hfield]
      · have hne : (field == f) = false := beq_eq_false_iff_ne.mpr fun h => hfield h.symm
        simpa [hfield, List.lookup_cons, hne, KeyKind.of] using ih
    | ignored => simpa [KeyKind.of] using ih
    | unknown => simpa [KeyKind.of] using ih

/-- A bundle sets a field to the value of the last option for it. -/
lemma assigned_ofFields (bundle : Table Value) (field : Field) :
    assigned (Bundle.ofFields bundle) field
      = (bundle.reverse.find? (sets field)).map Prod.snd := by
  rw [← lookup_assignments, assigned, assignments, ← List.filterMap_reverse]
  congr 2
  simp [Bundle.ofFields]

/-! ## Making settings from a bundle -/

lemma ofBundle_eq_ok_iff {bundle : Bundle} {s : Settings} :
    ofBundle bundle = .ok s ↔
      ∃ unseeded, (∀ field : Field,
          field.readOrDefault (assigned bundle field) = .ok (get unseeded field)) ∧
        seedPackages (assigned bundle .modelPackage).isSome (assigned bundle .apiPackage).isSome
          unseeded = s := by
  simp only [ofBundle_eq, map_eq_ok_iff, ofFields_eq_ok_iff]

/-- Fields that are not seeded hold the readings of what the bundle sets them to. -/
lemma ofBundle_get {bundle : Bundle} {s : Settings} (h : ofBundle bundle = .ok s) {field : Field}
    (hmodel : field ≠ .modelPackage) (hapi : field ≠ .apiPackage) :
    field.readOrDefault (assigned bundle field) = .ok (s.get field) := by
  obtain ⟨unseeded, hread, rfl⟩ := ofBundle_eq_ok_iff.mp h
  rw [seedPackages_get hmodel hapi]
  exact hread field

/-! ## Loading -/

/-- What is loaded is made from the records of defaults, a file and options, merged in order. -/
lemma result_load {files : Files} {defaults fromFile fields : Table Value} {options file : Value}
    (hoptions : Bundle.ofValue options = .ok (Bundle.ofFields fields))
    (hfile : (loadFileValue files file).result = .ok fromFile) :
    (load files (Bundle.ofFields defaults) options file).result
      = ofBundle (Bundle.ofFields ((defaults.merge fromFile).merge fields)) := by
  have hfields : (Report.of (orMismatch (Bundle.ofValue options))).result
      = .ok (Bundle.ofFields fields) := by
    rw [hoptions]
    rfl
  rw [load, Report.result_bind_of_ok hfile, Report.result_bind_of_ok hfields, loadBundle,
    ofFields_merge, ofFields_merge]

/-- Settings are loaded from defaults, a file and options whose bundles are records exactly when the
file can be read and settings can be made from the records merged in order. -/
lemma load_eq_ok_iff {files : Files} {defaults fields : Table Value} {options file : Value}
    {s : Settings} (hoptions : Bundle.ofValue options = .ok (Bundle.ofFields fields)) :
    (load files (Bundle.ofFields defaults) options file).result = .ok s ↔
      ∃ fromFile, (loadFileValue files file).result = .ok fromFile ∧
        ofBundle (Bundle.ofFields ((defaults.merge fromFile).merge fields)) = .ok s := by
  constructor
  · intro hload
    obtain ⟨fromFile, hfile, -⟩ := Report.result_bind_eq_ok_iff.mp hload
    rw [result_load hoptions hfile] at hload
    exact ⟨fromFile, hfile, hload⟩
  · rintro ⟨fromFile, hfile, hload⟩
    rwa [result_load hoptions hfile]

lemma parseFile_eq_ok_iff {room : Nat} {path : String} {content : ByteArray}
    {fields : Table Value} :
    parseFile room path content = .ok fields ↔
      ∃ s, decodeFile content = some s ∧ Document.read room s = .ok (.record fields) := by
  unfold parseFile
  cases decodeFile content with
  | none => simp
  | some s =>
    cases hread : Document.read room s with
    | ok v => cases v <;> simp [hread]
    | error e => simp [hread]

lemma readFile_eq_ok_iff {files : Files} {name : String} {fields : Table Value} :
    readFile files name = .ok fields ↔
      files.doesExist? (Path.ofText name) = some true ∧ (Path.ofText name).isJson = true ∧
        ∃ content, files.openFile (Path.ofText name) = .ok content ∧
          parseFile files.room (Path.ofText name).toText content = .ok fields := by
  unfold readFile
  dsimp only
  split <;> rename_i hexist
  · simp [hexist]
  · simp [hexist]
  · cases hjson : (Path.ofText name).isJson
    · simp
    · cases hopen : files.openFile (Path.ofText name) <;> simp [hexist]

lemma loadFile_eq_ok_iff {files : Files} {name : String} {fields : Table Value} :
    (loadFile files name).result = .ok fields ↔ readFile files name = .ok fields := by
  unfold loadFile
  cases readFile files name <;> simp

/-- The record in a file has each field once. -/
lemma loadFileValue_keys_nodup {files : Files} {file : Value} {fromFile : Table Value}
    (h : (loadFileValue files file).result = .ok fromFile) : fromFile.keys.Nodup := by
  unfold loadFileValue at h
  split at h
  · split at h
    · obtain ⟨-, -, content, -, hparse⟩ := readFile_eq_ok_iff.mp (loadFile_eq_ok_iff.mp h)
      obtain ⟨s, -, hread⟩ := parseFile_eq_ok_iff.mp hparse
      exact Document.read_record_keys_nodup hread
    · simp at h
  · obtain rfl : ([] : Table Value) = fromFile := Except.ok.inj h
    simp

end Nomenclator.Settings
