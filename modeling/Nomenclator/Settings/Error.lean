import Nomenclator.Naming
import Nomenclator.Settings.Field

/-!
# What can be wrong with settings

A field can hold a value of the wrong form, and a file can be missing, unreadable or no bundle of
options. Values are carried as the text by which messages show them.
-/

namespace Nomenclator

/-- Why settings were refused. -/
inductive SettingsError where
  /-- A field that is a text holds something of another kind. -/
  | notText (field : Settings.Field) (kind : String)
  /-- No naming convention has this option value. -/
  | notConvention (shown : String)
  /-- A field that is a mapping holds something of another kind. -/
  | notMapping (field : Settings.Field) (kind : String)
  /-- A mapping has an entry whose value is no text. -/
  | badMapping (field : Settings.Field) (key value : String)
  /-- The replacements are neither a mapping nor a list. -/
  | notReplacements (kind : String)
  /-- A replacement is no pair of texts. -/
  | badReplacement (shown : String)
  | fileNotFound (path : String)
  | fileNotJson (path : String)
  | malformedFile (path problem : String)
  | unreadableFile (path problem : String)
  | fileNotRecord (path : String)
  | unwritableFile (path problem : String)
  /-- Settings cannot be made from a value of this kind. -/
  | notSource (kind : String)
  deriving DecidableEq, Repr

/-- The message of a refusal. -/
def SettingsError.message : SettingsError → String
  | notText field kind => field.optionKey ++ " must be a string, got " ++ kind
  | notConvention shown =>
    "\n".intercalate
      ((shown ++ " is an invalid enum property naming option. Please choose from:")
        :: Convention.all.map fun c => "  " ++ c.option)
  | notMapping field kind => field.optionKey ++ " must be a mapping, got " ++ kind
  | badMapping field key value =>
    field.optionKey ++ " entries must map strings to strings, got " ++ key ++ ": " ++ value
  | notReplacements kind =>
    "specialCharReplacements must be a mapping or a list of pairs, got " ++ kind
  | badReplacement shown =>
    "specialCharReplacements entries must be (character, replacement) string pairs, got " ++ shown
  | fileNotFound path => "Configuration file not found: " ++ path
  | fileNotJson path => "Configuration file must be JSON: " ++ path
  | malformedFile path problem => "Invalid JSON in configuration file " ++ path ++ ": " ++ problem
  | unreadableFile path problem => "Failed to load configuration file " ++ path ++ ": " ++ problem
  | fileNotRecord path => "Configuration file must contain a JSON object: " ++ path
  | unwritableFile path problem => "Failed to save configuration to " ++ path ++ ": " ++ problem
  | notSource kind => "Invalid config type: " ++ kind

end Nomenclator
