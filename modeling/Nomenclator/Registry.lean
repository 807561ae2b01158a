import Nomenclator.Registry.Error
import Nomenclator.Kotlin.Generator
import Nomenclator.Text.Case
import Nomenclator.Text.Order

/-!
# The registry of languages

A registry maps the names of languages to backends, and aliases to the names of languages. Names are
compared in small letters. A name is looked up among the aliases first; what an alias points at is
the language, and any other name stands for itself.

A registration is a computation over a registry, which may be refused: what it has written before it
is refused stays written. It checks all aliases and then writes, one entry after the other. A
language that is registered already keeps its backend unless it is to be replaced; when it is
replaced, no alias is checked and its aliases may take over names that were in use.
-/

namespace Nomenclator

/-- What makes generators of a language. A backend without a flavor is abstract: it has a name and a
place in the registry, but no generator can be made of it. -/
structure Backend where
  name : String
  flavor : Option Kotlin.Flavor
  deriving DecidableEq, Repr

/-- Languages with their backends, and aliases with the languages they point at. -/
structure Registry where
  backends : Table Backend := []
  aliases : Table String := []
  deriving DecidableEq, Repr

/-- A name as a registry compares it. -/
def languageKey (name : String) : String := onText Text.lower name

namespace Registry

/-! ## Looking up -/

/-- Whether a key is the name of a registered language. -/
def hasLanguage (r : Registry) (key : String) : Bool := r.backends.hasKey key

/-- The language that a key stands for: what it is an alias of, or itself. -/
def target (r : Registry) (key : String) : String := (r.aliases.lookup key).getD key

/-- The registered languages in order. -/
def languages (r : Registry) : List String := Text.sortedSet r.backends.keys

/-- The language that a name stands for, if it is registered. -/
def canonicalName (r : Registry) (name : String) : Except RegistryError String :=
  let key := r.target (languageKey name)
  if r.hasLanguage key then .ok key else .error (.unknownLanguage name r.languages)

/-- The backend of the language that a name stands for. -/
def backend (r : Registry) (name : String) : Except RegistryError Backend :=
  match r.backends.lookup (r.target (languageKey name)) with
  | some b => .ok b
  | none => .error (.unknownLanguage name r.languages)

/-- Whether a name is a language or an alias. -/
def isSupported (r : Registry) (name : String) : Bool :=
  r.hasLanguage (languageKey name) || r.aliases.hasKey (languageKey name)

/-- The aliases of a language in order. -/
def aliasesOf (r : Registry) (name : String) : List String :=
  Text.sortedSet (Table.keys (r.aliases.filter fun entry => entry.2 = languageKey name))

/-! ## Registering -/

/-- The keys of the aliases of a language. Its own key is not among them. -/
def aliasKeys (key : String) (aliases : List String) : List String :=
  (aliases.map languageKey).filter (· ≠ key)

/-- What is wrong with an alias of a language: it is a language itself, or the alias of another. -/
def conflict? (r : Registry) (key name : String) : Option RegistryError :=
  if r.hasLanguage name then some (.aliasIsLanguage name)
  else match r.aliases.lookup name with
    | some other => if other = key then none else some (.aliasTaken name other)
    | none => none

/-- A change of a registry that may be refused. The registry is left as it is by then. -/
abbrev Change := EStateM RegistryError Registry

/-- Refuses an alias of a language that is in conflict with what is registered. -/
def checkAlias (key name : String) : Change Unit := do
  match (← get).conflict? key name with
  | some e => throw e
  | none => return

/-- Writes a language with its backend. -/
def writeLanguage (key : String) (b : Backend) : Change Unit :=
  modify fun r => { r with backends := r.backends.put key b }

/-- Writes an alias of a language. -/
def writeAlias (key name : String) : Change Unit :=
  modify fun r => { r with aliases := r.aliases.put name key }

/-- Registers a backend for a language under its key and those of its aliases. -/
def register (key : String) (b : Backend) (names : List String) (replace : Bool) :
    Change Unit := do
  unless replace do names.forM (checkAlias key)
  writeLanguage key b
  names.forM (writeAlias key)

/-- Removes the language that a name stands for, and every alias that points at it. -/
def unregister (r : Registry) (name : String) : Registry :=
  let key := r.target (languageKey name)
  { backends := r.backends.erase key
    aliases := r.aliases.filter fun entry => entry.2 ≠ key }

end Registry

end Nomenclator
