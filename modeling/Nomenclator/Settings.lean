import Nomenclator.Fault
import Nomenclator.Value.Display

/-!
# Settings of a generator

The settings are fourteen fields with defaults. They are made from raw values, at most one for each
field: `Settings.ofFields` checks the values in a fixed order and refuses the first that does not
fit. Settings are never changed; `Settings.remade` makes them again with other values for some of
the fields, and every field is checked once more. `Settings.toOptions` is the way back, to a bundle
of options under the camel-case keys.
-/

namespace Nomenclator

/-- The settings of a generator. -/
structure Settings where
  outputFolder : String := "."
  sourceFolder : String := "src/main/kotlin"
  apiDocPath : String := "docs/"
  modelDocPath : String := "docs/"
  packageName : Option String := none
  groupId : String := "fr.vestiairecollective"
  artifactId : Option String := none
  artifactVersion : String := "1.0.0"
  modelPackage : String := ""
  apiPackage : String := ""
  enumNaming : Convention := .unchanged
  typeMappings : Table String := []
  importMappings : Table String := []
  replacements : List (String × String) := []
  deriving DecidableEq, Repr, Inhabited

namespace Settings

/-! ## Reading single values -/

/-- A field that is a text. -/
def readText (field : Field) : Value → Except Fault String
  | .text s => .ok s
  | v => .error (.settings (.notText field v.kindName))

/-- A field that is a text or missing. -/
def readOptionalText (field : Field) : Value → Except Fault (Option String)
  | .null => .ok none
  | .text s => .ok (some s)
  | v => .error (.settings (.notText field v.kindName))

/-- A naming convention by its option value. -/
def readConvention (v : Value) : Except Fault Convention :=
  match v with
  | .text s =>
    match Convention.ofOption? s with
    | some c => .ok c
    | none => .error (.settings (.notConvention s))
  | _ => .error (.ofRefusal (v.display.map .notConvention))

/-- The entries of a mapping, every one of them a text. -/
def readEntries (field : Field) : List (String × Value) → Except Fault (Table String)
  | [] => .ok []
  | (k, .text s) :: rest => (readEntries field rest).map fun entries => (k, s) :: entries
  | (k, v) :: _ => .error (.ofRefusal (v.inspectText.map (.badMapping field (Text.quotedText k))))

/-- A mapping from texts to texts; null stands for the empty one. -/
def readMapping (field : Field) : Value → Except Fault (Table String)
  | .null => .ok []
  | .record fields => readEntries field fields
  | v => .error (.settings (.notMapping field v.kindName))

/-- How a message shows an entry of a mapping that is no replacement. -/
def showPair (key : String) (v : Value) : Except Mismatch String :=
  v.inspectText.map fun shown => "(" ++ Text.quotedText key ++ ", " ++ shown ++ ")"

/-- Replacements given as the entries of a mapping. -/
def readReplacementEntries : List (String × Value) → Except Fault (List (String × String))
  | [] => .ok []
  | (k, .text s) :: rest => (readReplacementEntries rest).map fun pairs => (k, s) :: pairs
  | (k, v) :: _ => .error (.ofRefusal ((showPair k v).map .badReplacement))

/-- Replacements given as a list of pairs. -/
def readReplacementItems : List Value → Except Fault (List (String × String))
  | [] => .ok []
  | .list [.text k, .text s] :: rest => (readReplacementItems rest).map fun pairs => (k, s) :: pairs
  | v :: _ => .error (.ofRefusal (v.inspectText.map .badReplacement))

/-- Replacements, as a mapping or as a list of pairs; null stands for none. -/
def readReplacements : Value → Except Fault (List (String × String))
  | .null => .ok []
  | .record fields => readReplacementEntries fields
  | .list items => readReplacementItems items
  | v => .error (.settings (.notReplacements v.kindName))

/-! ## Settings from raw fields -/

/-- A reading of the value of a field, or the default where the field has no value. -/
def orDefault {α : Type} (default : α) (read : Value → Except Fault α) :
    Option Value → Except Fault α
  | none => .ok default
  | some v => read v

/-- Settings from the raw values of their fields. Texts are checked first, then the two texts that
may be missing, then the naming convention, the mappings and the replacements. -/
def ofFields (value : Field → Option Value) : Except Fault Settings := do
  let base : Settings := {}
  let text (field : Field) (default : String) := orDefault default (readText field) (value field)
  let outputFolder ← text .outputFolder base.outputFolder
  let sourceFolder ← text .sourceFolder base.sourceFolder
  let apiDocPath ← text .apiDocPath base.apiDocPath
  let modelDocPath ← text .modelDocPath base.modelDocPath
  let groupId ← text .groupId base.groupId
  let artifactVersion ← text .artifactVersion base.artifactVersion
  let modelPackage ← text .modelPackage base.modelPackage
  let apiPackage ← text .apiPackage base.apiPackage
  let packageName ←
    orDefault base.packageName (readOptionalText .packageName) (value .packageName)
  let artifactId ← orDefault base.artifactId (readOptionalText .artifactId) (value .artifactId)
  let enumNaming ← orDefault base.enumNaming readConvention (value .enumNaming)
  let typeMappings ← orDefault base.typeMappings (readMapping .typeMappings) (value .typeMappings)
  let importMappings ←
    orDefault base.importMappings (readMapping .importMappings) (value .importMappings)
  let replacements ← orDefault base.replacements readReplacements (value .replacements)
  return { outputFolder, sourceFolder, apiDocPath, modelDocPath, packageName, groupId, artifactId,
           artifactVersion, modelPackage, apiPackage, enumNaming, typeMappings, importMappings,
           replacements }

/-! ## Settings as options -/

/-- A text that may be missing, as a value. -/
def optionalText : Option String → Value
  | none => .null
  | some s => .text s

/-- A mapping as a record. -/
def mappingValue (entries : Table String) : Value :=
  .record (entries.map fun entry => (entry.1, .text entry.2))

/-- The value of a field. Replacements become a record, in which the last of several for one key
stands at the place of the first. -/
def fieldValue (s : Settings) : Field → Value
  | .outputFolder => .text s.outputFolder
  | .sourceFolder => .text s.sourceFolder
  | .apiDocPath => .text s.apiDocPath
  | .modelDocPath => .text s.modelDocPath
  | .packageName => optionalText s.packageName
  | .groupId => .text s.groupId
  | .artifactId => optionalText s.artifactId
  | .artifactVersion => .text s.artifactVersion
  | .modelPackage => .text s.modelPackage
  | .apiPackage => .text s.apiPackage
  | .enumNaming => .text s.enumNaming.option
  | .typeMappings => mappingValue s.typeMappings
  | .importMappings => mappingValue s.importMappings
  | .replacements => mappingValue (Table.ofEntries s.replacements)

/-- The settings as a bundle of options. -/
def toOptions (s : Settings) : Table Value :=
  Field.all.map fun field => (field.optionKey, s.fieldValue field)

/-! ## Making settings again -/

/-- The value of a field as settings hold it. It differs from the value that is written out in the
replacements, which stay pairs, several for one key included. -/
def heldValue (s : Settings) : Field → Value
  | .replacements => .list (s.replacements.map fun pair => .list [.text pair.1, .text pair.2])
  | field => s.fieldValue field

/-- The settings made again with other values for some of the fields. -/
def remade (s : Settings) (changes : Field → Option Value) : Except Fault Settings :=
  ofFields fun field => (changes field).or (some (s.heldValue field))

/-! ## Agreement -/

/-- Whether two mappings have the same entries, in whatever order. -/
def sameEntries (a b : Table String) : Bool :=
  a.length = b.length && a.all fun entry => b.lookup entry.1 = some entry.2

/-- Whether two settings agree in every field; the order of a mapping does not count, that of the
replacements does. -/
def agrees (a b : Settings) : Bool :=
  sameEntries a.typeMappings b.typeMappings && sameEntries a.importMappings b.importMappings
    && decide ({ a with typeMappings := [], importMappings := [] }
      = { b with typeMappings := [], importMappings := [] })

end Settings

end Nomenclator
