import Nomenclator.Kotlin.Tables
import Nomenclator.Proofs.Document.RoundTrip
import Nomenclator.Proofs.Files.Write
import Nomenclator.Proofs.Settings.Bundles

/-!
# Settings saved and loaded again

Settings are saved as the record of their options and can be loaded from the file that holds it.
`load_save` says what comes back: the same settings, but for the replacements.  These are written
as a record, so of several for one key the last is kept at the place of the first.  A generator does
not see the difference, because its table of replacements is made by the same rule.

Every field is written, the packages of models and interfaces included, so none is taken from the
name of the package when the file is loaded, and none gets its default.
-/

namespace Nomenclator.Settings

/-! ## The options of settings -/

lemma assigned_toOptions (s : Settings) (field : Field) :
    assigned (Bundle.ofFields s.toOptions) field = some (s.fieldValue field) := by
  rw [assigned_ofFields]
  cases field <;> rfl

lemma toOptions_keys_nodup (s : Settings) : (Table.keys s.toOptions).Nodup := by
  show (Field.all.map Field.optionKey).Nodup
  decide

/-- The options of settings make the settings again, their replacements merged. -/
lemma ofBundle_toOptions (s : Settings) :
    ofBundle (Bundle.ofFields s.toOptions) = .ok s.mergeReplacements := by
  refine ofBundle_eq_ok_iff.mpr ⟨s.mergeReplacements, fun field => ?_, ?_⟩
  · rw [assigned_toOptions, Field.readOrDefault_some, read_fieldValue]
  · -- both packages are set, so neither is seeded
    rw [assigned_toOptions, assigned_toOptions, seedPackages]
    split
    · rfl
    · split <;> rfl

/-! ## The saved document -/

lemma fromUTF8?_toUTF8 (s : String) : String.fromUTF8? s.toUTF8 = some s :=
  dif_pos s.isValidUTF8

lemma unifyLineEnds_of_not_mem {cs : List Char} (h : '\r' ∉ cs) : Text.unifyLineEnds cs = cs := by
  induction cs with
  | nil => rfl
  | cons c cs ih =>
    obtain ⟨hc, hcs⟩ := not_or.mp (mt List.mem_cons.mpr h)
    rw [Text.unifyLineEnds, ih hcs]
    all_goals simp [Ne.symm hc]

lemma plain_mappingValue {entries : Table String} (hkeys : entries.keys.Nodup) (room : Nat) :
    Document.Plain (room + 1) (mappingValue entries) := by
  refine .record ?_ fun field hfield => ?_
  · simpa [Table.keys, Function.comp_def] using hkeys
  · obtain ⟨entry, -, rfl⟩ := List.mem_map.mp hfield
    exact .text room entry.2

lemma plain_optionalText (s : Option String) (room : Nat) :
    Document.Plain room (optionalText s) := by
  cases s with
  | none => exact .null room
  | some s => exact .text room s

section Saved

variable {s : Settings} (htypes : s.typeMappings.keys.Nodup)
  (himports : s.importMappings.keys.Nodup)

include htypes himports

/-- Options nest two deep: the mappings among them are records in a record. -/
lemma plain_toOptions {room : Nat} (hroom : 2 ≤ room) :
    Document.Plain room (.record s.toOptions) := by
  obtain ⟨room, rfl⟩ := Nat.exists_eq_add_of_le' hroom
  refine .record (toOptions_keys_nodup s) fun option hoption => ?_
  obtain ⟨field, -, rfl⟩ := List.mem_map.mp hoption
  cases field
  case packageName => exact plain_optionalText _ _
  case artifactId => exact plain_optionalText _ _
  case typeMappings => exact plain_mappingValue htypes _
  case importMappings => exact plain_mappingValue himports _
  case replacements => exact plain_mappingValue (Table.ofEntries_keys_nodup _) _
  all_goals exact .text _ _

/-- The saved text reads as the options. -/
lemma read_toDocument {room : Nat} (hroom : 2 ≤ room) :
    Document.read room s.toDocument = .ok (.record s.toOptions) :=
  Document.read_write (plain_toOptions htypes himports hroom)

/-- A file gives the saved text back: it has no line ends that opening it would change. -/
lemma decodeFile_toDocument : decodeFile s.toDocument.toUTF8 = some s.toDocument := by
  have hlines : Text.unifyLineEnds s.toDocument.toList = s.toDocument.toList := by
    rw [toDocument, Document.write, String.toList_ofList]
    exact unifyLineEnds_of_not_mem ((plain_toOptions htypes himports le_rfl).return_not_mem 0)
  rw [decodeFile, fromUTF8?_toUTF8, Option.map_some, hlines, String.ofList_toList]

lemma parseFile_toDocument {room : Nat} (hroom : 2 ≤ room) (path : String) :
    parseFile room path s.toDocument.toUTF8 = .ok s.toOptions :=
  parseFile_eq_ok_iff.mpr
    ⟨_, decodeFile_toDocument htypes himports, read_toDocument htypes himports hroom⟩

end Saved

/-! ## Loading what was saved -/

/-- The suffix of an empty text is not that of JSON files, so the name is present. -/
lemma isPresent_of_isJson {name : String} (hjson : (Path.ofText name).isJson = true) :
    (Value.text name).isPresent = true := by
  rw [Value.isPresent, bne_iff_ne]
  rintro rfl
  exact absurd hjson (by decide)

/-- Settings can be saved to every path that can be written, and what is there then is the text of
their options. -/
lemma exists_save {files : Files} {name : String} (hwritable : files.Writable (Path.ofText name))
    (s : Settings) : ∃ written, save files s name = .ok written ∧
      written.doesExist? (Path.ofText name) = some true ∧
      written.openFile (Path.ofText name) = .ok s.toDocument.toUTF8 := by
  obtain ⟨written, hwrite⟩ := Files.exists_write_iff.mpr hwritable
  refine ⟨written, ?_, Files.openFile_write hwrite⟩
  rw [save]
  simp only [hwrite]

/-- Settings that are saved to a JSON file and loaded from it come back with their replacements
merged: unchanged, if every replacement had a key of its own.  Their tables are the same in any
case.  The file holds the text of their options, and that is what it is read as. -/
theorem load_save {files : Files} {s : Settings} {name : String}
    (htypes : s.typeMappings.keys.Nodup) (himports : s.importMappings.keys.Nodup)
    (hwritable : files.Writable (Path.ofText name)) (hjson : (Path.ofText name).isJson = true) :
    ∃ written, save files s name = .ok written ∧
      written.openFile (Path.ofText name) = .ok (Document.write (.record s.toOptions)).toUTF8 ∧
      (∀ room ≥ 2,
        Document.read room (Document.write (.record s.toOptions)) = .ok (.record s.toOptions)) ∧
      (load written [] .null (.text name)).result
        = .ok s.mergeReplacements ∧
      (s.mergeReplacements = s ↔ (Table.keys s.replacements).Nodup) ∧
      Kotlin.Tables.ofSettings s.mergeReplacements = Kotlin.Tables.ofSettings s := by
  obtain ⟨written, hsave, hexists, hopen⟩ := exists_save hwritable s
  have hfile : (loadFileValue written (.text name)).result = .ok s.toOptions := by
    rw [loadFileValue, if_pos (isPresent_of_isJson hjson)]
    exact loadFile_eq_ok_iff.mpr (readFile_eq_ok_iff.mpr
      ⟨hexists, hjson, _, hopen, parseFile_toDocument htypes himports written.two_le_room _⟩)
  have hmerged : (Table.merge [] s.toOptions).merge [] = s.toOptions := by
    rw [Table.merge_nil]
    exact Table.ofEntries_of_nodup (toOptions_keys_nodup s)
  refine ⟨written, hsave, hopen, fun room => read_toDocument htypes himports, ?_, ?_, ?_⟩
  · have hnone : Bundle.ofValue .null = .ok (Bundle.ofFields []) := rfl
    show (load written (Bundle.ofFields []) .null (.text name)).result = _
    refine (load_eq_ok_iff hnone).mpr ⟨s.toOptions, hfile, ?_⟩
    rw [hmerged]
    exact ofBundle_toOptions s
  · exact mergeReplacements_eq_self_iff
  · simp only [Kotlin.Tables.ofSettings, mergeReplacements, Table.merge_ofEntries]

/-- Settings with a package name and two replacements for one key. -/
def twiceReplaced : Settings :=
  { packageName := some "app"
    replacements := [("+", "Plus"), ("-", "Minus"), ("+", "And")] }

/-- Saved beside the working directory under a path from the root, the settings come back with the
second replacement in the place of the first, and with no package made up. -/
theorem load_save_twice_replaced :
    ∃ written, save {} twiceReplaced "/tmp/settings.json" = .ok written ∧
      (load written [] .null (.text "/tmp/settings.json")).result
        = .ok { twiceReplaced with replacements := [("+", "And"), ("-", "Minus")] } := by
  have hwritable : Files.Writable {} (Path.ofText "/tmp/settings.json") :=
    ⟨["tmp", "settings.json"], Or.inl rfl⟩
  obtain ⟨written, hsave, -, -, hload, -⟩ :=
    load_save (s := twiceReplaced) (by decide) (by decide) hwritable rfl
  exact ⟨written, hsave, hload⟩

end Nomenclator.Settings
