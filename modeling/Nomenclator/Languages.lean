import Nomenclator.Registry.Request
import Nomenclator.Resolution

/-!
# The bundled languages

The registry that a program starts with holds Kotlin, under its name and one alias. With it a batch
of definitions is resolved in one step, for a language that is given by name.
-/

namespace Nomenclator

/-- The backend for Kotlin. -/
def kotlinBackend : Backend := { name := "KotlinGenerator", flavor := some {} }

/-- A backend that stands for all of them, of which no generator can be made. -/
def abstractBackend : Backend := { name := "CodeGenerator", flavor := none }

namespace Registry

/-- The registry with the bundled languages. -/
def bundled : Report Fault Registry :=
  let (report, registry) := Registry.accept {}
    { language := .text "kotlin", candidate := .backend kotlinBackend
      aliases := .list [.text "kt"] }
  { log := report.log, result := report.result.map fun _ => registry }

end Registry

/-- A Kotlin generator from a bundle of options and a second one that is merged into it. -/
def kotlinGenerator (options : Value) (extra : Table Value) : Report Fault Kotlin.Generator := do
  let base ← Report.of (orMismatch (Settings.Bundle.ofValue options))
  let settings ← Settings.loadBundle (Keyed.merge base (Settings.Bundle.ofFields extra))
  Registry.instantiate kotlinBackend settings

namespace Resolution

/-- A batch of schemas, resolved for a language. -/
def forLanguage (language : String) (source : Settings.Source)
    (resolve : Kotlin.Generator → Except Mismatch Resolution) : Report Fault Resolution := do
  let registry ← Registry.bundled
  let made ← registry.create {} language source
  announced (resolve made.generator)

end Resolution

end Nomenclator
