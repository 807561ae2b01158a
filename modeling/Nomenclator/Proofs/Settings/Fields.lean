import Nomenclator.Settings
import Nomenclator.Proofs.Journal
import Nomenclator.Proofs.Table

/-!
# Settings, field by field

The fourteen fields hold contents of five types.  `Field.Content` names the type of a field,
`Settings.get` looks a field up, and `Field.read` reads a raw value for it, so that a fact about all
fields is one statement about an arbitrary field.

`ofFields_eq_ok_iff` is what making settings comes to: they are made from raw values exactly when
every field can be read, and each field then holds its reading, or its default where no value was
given.

The values that settings hold are read as what they are (`read_heldValue`), and so are those that
are written out, but for the replacements: written as a record, they have one value for each key
(`read_fieldValue`).
-/

namespace Nomenclator.Settings

/-! ## What fields hold -/

/-- The type of what a field holds. -/
def Field.Content : Field → Type
  | .packageName => Option String
  | .artifactId => Option String
  | .enumNaming => Convention
  | .typeMappings => Table String
  | .importMappings => Table String
  | .replacements => List (String × String)
  | _ => String

/-- What settings hold in a field. -/
def get (s : Settings) : (field : Field) → field.Content
  | .outputFolder => s.outputFolder
  | .sourceFolder => s.sourceFolder
  | .apiDocPath => s.apiDocPath
  | .modelDocPath => s.modelDocPath
  | .packageName => s.packageName
  | .groupId => s.groupId
  | .artifactId => s.artifactId
  | .artifactVersion => s.artifactVersion
  | .modelPackage => s.modelPackage
  | .apiPackage => s.apiPackage
  | .enumNaming => s.enumNaming
  | .typeMappings => s.typeMappings
  | .importMappings => s.importMappings
  | .replacements => s.replacements

/-- The content that a raw value stands for in a field. -/
def Field.read : (field : Field) → Value → Except Fault field.Content
  | .outputFolder => readText .outputFolder
  | .sourceFolder => readText .sourceFolder
  | .apiDocPath => readText .apiDocPath
  | .modelDocPath => readText .modelDocPath
  | .packageName => readOptionalText .packageName
  | .groupId => readText .groupId
  | .artifactId => readOptionalText .artifactId
  | .artifactVersion => readText .artifactVersion
  | .modelPackage => readText .modelPackage
  | .apiPackage => readText .apiPackage
  | .enumNaming => readConvention
  | .typeMappings => readMapping .typeMappings
  | .importMappings => readMapping .importMappings
  | .replacements => readReplacements

/-- The content of a field for a raw value that may be missing. -/
def Field.readOrDefault (field : Field) (value : Option Value) :
    Except Fault field.Content :=
  orDefault (get {} field) field.read value

@[simp] lemma Field.readOrDefault_none (field : Field) :
    field.readOrDefault none = .ok (get {} field) := rfl

@[simp] lemma Field.readOrDefault_some (field : Field) (v : Value) :
    field.readOrDefault (some v) = field.read v := rfl

/-! ## Making settings -/

/-- Settings are made exactly when every field is read, and they hold the readings. -/
theorem ofFields_eq_ok_iff {value : Field → Option Value} {s : Settings} :
    ofFields value = .ok s ↔
      ∀ field : Field, field.readOrDefault (value field) = .ok (s.get field) := by
  constructor
  · intro h
    simp only [ofFields, bind_eq_ok_iff] at h
    obtain ⟨outputFolder, h1, sourceFolder, h2, apiDocPath, h3, modelDocPath, h4, groupId, h5,
      artifactVersion, h6, modelPackage, h7, apiPackage, h8, packageName, h9, artifactId, h10,
      enumNaming, h11, typeMappings, h12, importMappings, h13, replacements, h14, hs⟩ := h
    obtain rfl := Except.ok.inj hs
    intro field
    cases field <;> assumption
  · intro h
    simp only [ofFields, bind_eq_ok_iff]
    exact ⟨_, h .outputFolder, _, h .sourceFolder, _, h .apiDocPath, _, h .modelDocPath,
      _, h .groupId, _, h .artifactVersion, _, h .modelPackage, _, h .apiPackage,
      _, h .packageName, _, h .artifactId, _, h .enumNaming, _, h .typeMappings,
      _, h .importMappings, _, h .replacements, rfl⟩

/-! ## Fields as values -/

/-- The settings with one replacement for each key. -/
def mergeReplacements (s : Settings) : Settings :=
  { s with replacements := Table.ofEntries s.replacements }

lemma mergeReplacements_eq_self_iff {s : Settings} :
    s.mergeReplacements = s ↔ (Table.keys s.replacements).Nodup := by
  rw [← Table.ofEntries_eq_self_iff]
  constructor
  · exact congrArg replacements
  · intro h
    rw [mergeReplacements, h]

lemma ofOption?_option (c : Convention) : Convention.ofOption? c.option = some c := by
  cases c <;> rfl

lemma readEntries_texts (field : Field) (entries : Table String) :
    readEntries field (entries.map fun entry => (entry.1, .text entry.2)) = .ok entries := by
  induction entries with
  | nil => rfl
  | cons entry entries ih =>
    rw [List.map_cons, readEntries, ih]
    rfl

lemma readReplacementEntries_texts (entries : Table String) :
    readReplacementEntries (entries.map fun entry => (entry.1, .text entry.2)) = .ok entries := by
  induction entries with
  | nil => rfl
  | cons entry entries ih =>
    rw [List.map_cons, readReplacementEntries, ih]
    rfl

lemma readOptionalText_optionalText (field : Field) (s : Option String) :
    readOptionalText field (optionalText s) = .ok s := by
  cases s <;> rfl

/-- The value that a field is written as reads as the content of the field. -/
lemma read_fieldValue (s : Settings) (field : Field) :
    field.read (s.fieldValue field) = .ok (get s.mergeReplacements field) := by
  cases field
  case packageName => exact readOptionalText_optionalText _ _
  case artifactId => exact readOptionalText_optionalText _ _
  case enumNaming =>
    show readConvention (.text s.enumNaming.option) = _
    rw [readConvention, ofOption?_option]
    rfl
  case typeMappings => exact readEntries_texts _ _
  case importMappings => exact readEntries_texts _ _
  case replacements => exact readReplacementEntries_texts _
  all_goals rfl

lemma readReplacementItems_pairs (pairs : List (String × String)) :
    readReplacementItems (pairs.map fun pair => .list [.text pair.1, .text pair.2])
      = .ok pairs := by
  induction pairs with
  | nil => rfl
  | cons pair pairs ih =>
    rw [List.map_cons, readReplacementItems, ih]
    rfl

/-- A value that settings hold is read as what it is. -/
lemma read_heldValue (s : Settings) (field : Field) :
    field.read (s.heldValue field) = .ok (s.get field) := by
  by_cases hfield : field = .replacements
  · subst hfield
    exact readReplacementItems_pairs s.replacements
  · have hheld : s.heldValue field = s.fieldValue field := by
      cases field <;> first | rfl | contradiction
    have hmerged : get s.mergeReplacements field = s.get field := by
      cases field <;> first | rfl | contradiction
    rw [hheld, read_fieldValue, hmerged]

end Nomenclator.Settings
