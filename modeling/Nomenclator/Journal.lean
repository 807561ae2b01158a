/-!
# The journal

What the library has to say while it works is returned beside its results, as entries of a journal:
a level, the channel that speaks, and a message. `Report` is a computation that may fail and keeps
its entries either way: what was said before a failure stays said.
-/

namespace Nomenclator

/-- How much an entry matters. -/
inductive Level where
  | debug
  | info
  | warning
  deriving DecidableEq, Repr

/-- The word for a level. -/
def Level.word : Level → String
  | debug => "DEBUG"
  | info => "INFO"
  | warning => "WARNING"

/-- The parts of the library that speak. -/
inductive Channel where
  | settings
  | generator
  | resolution
  | registry
  deriving DecidableEq, Repr

namespace Channel

/-- The name that all channels lie under. -/
def rootName : String := "schema_codegen"

/-- The name of a channel. -/
def name : Channel → String
  | settings => "schema_codegen.codegen.core.config"
  | generator => "schema_codegen.codegen.languages.kotlin.generator"
  | resolution => "schema_codegen.codegen.core.generator"
  | registry => "schema_codegen.codegen.registry"

/-- A name placed under the root: as it is when it lies there already. -/
def qualify (name : String) : String :=
  if name = rootName || (rootName ++ ".").toList.isPrefixOf name.toList then name
  else rootName ++ "." ++ name

end Channel

/-- One entry of the journal. -/
structure Entry where
  level : Level
  channel : Channel
  message : String
  deriving DecidableEq, Repr

namespace Entry

/-- The line of an entry. -/
def line (e : Entry) : String := e.level.word ++ ":" ++ e.channel.name ++ ":" ++ e.message

/-- An entry for those who look closely. -/
def debug (channel : Channel) (message : String) : Entry := ⟨.debug, channel, message⟩

/-- An entry about a result. -/
def info (channel : Channel) (message : String) : Entry := ⟨.info, channel, message⟩

/-- An entry about something that was left out. -/
def warning (channel : Channel) (message : String) : Entry := ⟨.warning, channel, message⟩

end Entry

/-- The entries of a computation and its result. -/
structure Report (ε α : Type) where
  log : List Entry
  result : Except ε α

namespace Report

variable {ε α β : Type}

/-- A result without entries. -/
def of (result : Except ε α) : Report ε α := ⟨[], result⟩

/-- An entry alone. -/
def note (e : Entry) : Report ε Unit := ⟨[e], .ok ()⟩

/-- Several entries alone. -/
def notes (es : List Entry) : Report ε Unit := ⟨es, .ok ()⟩

/-- A computation continued by its result; a failure ends it. -/
def bind (r : Report ε α) (f : α → Report ε β) : Report ε β :=
  match r.result with
  | .error e => ⟨r.log, .error e⟩
  | .ok a => ⟨r.log ++ (f a).log, (f a).result⟩

instance : Monad (Report ε) where
  pure a := of (.ok a)
  bind := bind

/-- The same computation with its failures renamed. -/
def mapError {δ : Type} (f : ε → δ) (r : Report ε α) : Report δ α :=
  ⟨r.log, match r.result with
    | .ok a => .ok a
    | .error e => .error (f e)⟩

end Report

/-! ## Verbosity of the package channel -/

/-- The state of the package channel: whether its handler has been attached. -/
structure Verbosity where
  attached : Bool := false
  deriving DecidableEq, Repr

/-- What setting the level of the package channel changes. -/
structure VerbosityChange where
  name : String
  level : Int
  added : Nat
  propagates : Bool
  deriving DecidableEq, Repr

/-- Sets the level. The handler is attached the first time only. -/
def Verbosity.setLevel (v : Verbosity) (level : Int) : VerbosityChange × Verbosity :=
  ({ name := Channel.rootName, level, added := if v.attached then 0 else 1, propagates := false },
   { attached := true })

end Nomenclator
