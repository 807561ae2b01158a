import Nomenclator.Registry.Error
import Nomenclator.Settings.Error
import Nomenclator.Template.Error
import Nomenclator.Value

/-!
# Faults

Every way in which a request to the library can fail, in one type: a value of the wrong form, or a
refusal by one of the parts.
-/

namespace Nomenclator

/-- Why a request failed. -/
inductive Fault where
  /-- A value does not have the form that is needed. -/
  | mismatch (m : Mismatch)
  | settings (e : SettingsError)
  | registry (e : RegistryError)
  | template (e : TemplateError)
  /-- The bytes of a file are no text. -/
  | badEncoding
  /-- A whole number in a file has more digits than are converted. -/
  | integerTooLong
  /-- The content of a file is nested deeper than there is room to read it. -/
  | nestedTooDeep
  /-- A path is too long to be followed. -/
  | pathTooLong
  /-- A path has a character that no path can have. -/
  | pathMalformed
  /-- The backend is abstract: it is registered but no generator can be made of it. -/
  | abstractBackend (name : String)
  /-- No filter of this name is installed. -/
  | unknownFilter (name : String)
  /-- A filter was applied to what it cannot be applied to. -/
  | misapplied (problem : String)
  deriving DecidableEq, Repr

/-- The message of a fault, for those that have one. -/
def Fault.message? : Fault → Option String
  | settings e => some e.message
  | registry e => some e.message
  | template e => some e.message
  | _ => none

/-- A result whose failures are mismatches, as one whose failures are faults. -/
def orMismatch {α : Type} : Except Mismatch α → Except Fault α
  | .ok a => .ok a
  | .error m => .error (.mismatch m)

/-- The fault that a refusal of settings is. Its message shows the value that is refused; where this
cannot be shown there is no refusal, and the fault is that. -/
def Fault.ofRefusal : Except Mismatch SettingsError → Fault
  | .ok e => settings e
  | .error m => mismatch m

end Nomenclator
