import Nomenclator.Registry
import Nomenclator.Settings.Load

/-!
# Requests to a registry

What a caller asks of a registry, with the journal entries that go with it. A registration arrives
with raw values and is read step by step: what is to be registered comes first, then the language,
and the aliases only when the language is not kept as it is. It can fail at every step, and the
registry that it has got to is returned beside the failure.

A generator is made of a backend and settings. The language is looked up before the settings are
read, and an abstract backend is refused after both.
-/

namespace Nomenclator

/-- What is offered for registration: a backend, or something else that the refusal shows, if it can
be shown. -/
inductive Candidate where
  | backend (b : Backend)
  | other (shown : Except Mismatch String)

/-- The backend that is offered. -/
def Candidate.asBackend : Candidate → Except Fault Backend
  | backend b => .ok b
  | other (.ok shown) => .error (.registry (.notBackend shown))
  | other (.error m) => .error (.mismatch m)

/-- A registration as it is asked for. -/
structure Registration where
  language : Value
  candidate : Candidate
  aliases : Value := .null
  replace : Bool := false

/-- What a registry tells about a language. -/
structure LanguageDescription where
  language : String
  aliases : List String
  backend : String
  fileExtension : String
  /-- How a reserved word comes out as a variable name. -/
  escapedWord : String

/-- A generator and the backend it was made of. -/
structure MadeGenerator where
  backend : Backend
  generator : Kotlin.Generator

namespace Registry

/-- A result of the registry, as one that can fail in any way. -/
def orRefused {α : Type} : Except RegistryError α → Except Fault α
  | .ok a => .ok a
  | .error e => .error (.registry e)

/-- The names in a value; one that is not present holds none. -/
def readNames (v : Value) : Except Mismatch (List String) :=
  if v.isPresent then do
    (← v.members).mapM Value.asText
  else .ok []

/-- The entry for a language that keeps its backend. -/
def keptEntry (key : String) (b : Backend) : Entry :=
  .debug .registry (key ++ " already registered, keeping " ++ b.name)

/-- The entry for a language that has been registered. -/
def registeredEntry (key : String) (b : Backend) : Entry :=
  .debug .registry ("Registered " ++ key ++ " backend: " ++ b.name)

/-- Registers a backend under the aliases in a value, with the entry that this ends in. -/
def registerNamed (key : String) (b : Backend) (aliases : Value) (replace : Bool) :
    EStateM Fault Registry Entry := do
  let names ← ofExcept (orMismatch (readNames aliases))
  (register key b (aliasKeys key names) replace).adaptExcept .registry
  return registeredEntry key b

/-- A registration as it changes a registry, with the entry that it ends in. -/
def registration (q : Registration) : EStateM Fault Registry Entry := do
  let b ← ofExcept q.candidate.asBackend
  let key := languageKey (← ofExcept (orMismatch q.language.asText))
  match (← get).backends.lookup key, q.replace with
  | some kept, false => return keptEntry key kept
  | _, _ => registerNamed key b q.aliases q.replace

/-- What a registration reports, and the registry that it leaves. -/
def accept (r : Registry) (q : Registration) : Report Fault Unit × Registry :=
  match (registration q).run r with
  | .ok entry after => (⟨[entry], .ok ()⟩, after)
  | .error fault after => (.of (.error fault), after)

/-- The generator that a backend makes of settings. -/
def instantiate (b : Backend) (s : Settings) : Report Fault Kotlin.Generator :=
  match b.flavor with
  | some flavor => ⟨[Kotlin.Generator.readyEntry s], .ok (.ofSettings s flavor)⟩
  | none => .of (.error (.abstractBackend b.name))

/-- A generator for a language, with settings from any source. -/
def create (r : Registry) (files : Files) (language : String) (source : Settings.Source) :
    Report Fault MadeGenerator := do
  let backend ← Report.of (orRefused (r.backend language))
  let settings ← Settings.ofSource files source
  let generator ← instantiate backend settings
  return { backend, generator }

/-- The word by which a description shows how reserved words are escaped. -/
def sampleWord : String := "class"

/-- What there is to tell about a language. -/
def describe (r : Registry) (name : String) : Report Fault LanguageDescription := do
  let language ← Report.of (orRefused (r.canonicalName name))
  let backend ← Report.of (orRefused (r.backend name))
  let generator ← instantiate backend {}
  return { language, aliases := r.aliasesOf language, backend := backend.name
           fileExtension := generator.flavor.fileExtension
           escapedWord := Kotlin.Generator.variableName (some sampleWord) }

end Registry

end Nomenclator
