/-!
# What a registry refuses

The wordings name the language, the alias or the value that was refused.
-/

namespace Nomenclator

/-- Why a registry refused a request. -/
inductive RegistryError where
  /-- What was to be registered is no backend; `shown` is the value as messages show it. -/
  | notBackend (shown : String)
  /-- The alias is the name of a registered language. -/
  | aliasIsLanguage (name : String)
  /-- The alias belongs to another language. -/
  | aliasTaken (name target : String)
  /-- No language goes by this name; `available` are those that are registered. -/
  | unknownLanguage (language : String) (available : List String)
  deriving DecidableEq, Repr

/-- The message of a refusal. -/
def RegistryError.message : RegistryError → String
  | notBackend shown => shown ++ " does not inherit from CodeGenerator"
  | aliasIsLanguage name =>
    "Alias '" ++ name ++ "' conflicts with registered language '" ++ name ++ "'"
  | aliasTaken name target => "Alias '" ++ name ++ "' already points to '" ++ target ++ "'"
  | unknownLanguage language available =>
    let names := ", ".intercalate available
    "No generator registered for language: " ++ language ++ ". Available: "
      ++ (if names = "" then "none" else names)

end Nomenclator
