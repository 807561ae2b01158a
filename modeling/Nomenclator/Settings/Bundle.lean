import Nomenclator.Fault
import Nomenclator.Journal
import Nomenclator.Settings
import Nomenclator.Value.Keyed

/-!
# Settings from bundles of options

A bundle holds options by their keys, in the order of their first writing. It is given as a record,
whose keys are texts, or as a sequence of pairs, in which anything that can be looked up may be a
key; only a text names a field, under either spelling. Bundles are merged in the order of their
precedence; of the entries that set one field the last one in the merged bundle counts. A key that
names no field is left out with an entry in the journal, and so are the two keys that were given up
in favour of the package name.

Settings made from a bundle that name a package but not the packages of its models or its interfaces
get those two from it: they are made again with the packages that were not set.
-/

namespace Nomenclator.Settings

/-! ## Bundles -/

/-- Options by their keys. -/
abbrev Bundle := Keyed Value

namespace Bundle

/-- The fields of a record as a bundle. -/
def ofFields (fields : Table Value) : Bundle := fields.map fun field => (.text field.1, field.2)

/-- One option of a bundle that is given as pairs. -/
def readEntry (v : Value) : Except Mismatch (Value × Value) := do
  let (key, value) ← v.pair
  return (← key.asKey, value)

/-- A bundle given as a value: a record, or a sequence of pairs. A value that is not present counts
as the empty one. -/
def ofValue (v : Value) : Except Mismatch Bundle :=
  match v with
  | .record fields => .ok (ofFields fields)
  | _ => do
    if v.isPresent then return Keyed.merge [] (← (← v.members).mapM readEntry) else return []

end Bundle

/-! ## Keys -/

/-- What a key of a bundle is. -/
inductive KeyKind where
  | field (f : Field)
  | ignored
  | unknown
  deriving DecidableEq, Repr

/-- The keys that are ignored with a warning. -/
def ignoredKeys : List String := ["invokerPackage", "invoker_package"]

/-- What a text is as a key of a bundle. -/
def KeyKind.ofText (key : String) : KeyKind :=
  if ignoredKeys.contains key then ignored
  else match Field.ofKey? key with
    | some f => field f
    | none => unknown

/-- What a key of a bundle is. -/
def KeyKind.of : Value → KeyKind
  | .text key => ofText key
  | _ => unknown

/-- The entry of the journal that a key calls for. A key that cannot be shown has none. -/
def notice? (key : Value) : Option Entry :=
  match KeyKind.of key with
  | .field _ => none
  | .ignored =>
    key.display.toOption.map fun shown =>
      .warning .settings (shown ++ " is ignored by this generator. Use packageName.")
  | .unknown =>
    key.display.toOption.map fun shown => .debug .settings ("Ignoring unknown option: " ++ shown)

/-- The fields that a bundle sets, with their values, in order. -/
def assignments (bundle : Bundle) : List (Field × Value) :=
  bundle.filterMap fun entry =>
    match KeyKind.of entry.1 with
    | .field f => some (f, entry.2)
    | _ => none

/-- The value that a bundle sets a field to: that of the last entry for it. -/
def assigned (bundle : Bundle) (field : Field) : Option Value :=
  (assignments bundle).reverse.lookup field

/-! ## Settings -/

/-- The package name of settings, if they name a package. -/
def namedPackage? (s : Settings) : Option String := s.packageName.filter (· ≠ "")

/-- The packages that are taken from the package name, because they are not set. -/
def seeds (s : Settings) (isSet : Field → Bool) : Field → Option Value
  | .modelPackage =>
    if isSet .modelPackage then none else s.namedPackage?.map fun p => .text (p ++ ".models")
  | .apiPackage =>
    if isSet .apiPackage then none else s.namedPackage?.map fun p => .text (p ++ ".apis")
  | _ => none

/-- Settings from a merged bundle. Where packages are taken from the package name, the settings are
made again with them. -/
def ofBundle (bundle : Bundle) : Except Fault Settings := do
  let s ← ofFields (assigned bundle)
  let seeds := s.seeds fun field => (assigned bundle field).isSome
  if Field.all.any fun field => (seeds field).isSome then s.remade seeds else return s

/-- Settings from a merged bundle, with the entries that its keys call for. -/
def loadBundle (bundle : Bundle) : Report Fault Settings :=
  { log := bundle.filterMap fun entry => notice? entry.1
    result := ofBundle bundle }

/-- Settings from fields given by their names. No package is taken from another, and a name that is
not a field's is refused. -/
def ofNamedFields (fields : Table Value) : Except Fault Settings :=
  match fields.find? fun entry => (Field.ofName? entry.1).isNone with
  | some entry => .error (.mismatch (.unknownField entry.1))
  | none => ofFields fun field => fields.lookup field.name

end Nomenclator.Settings
