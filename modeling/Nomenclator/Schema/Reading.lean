import Nomenclator.Schema.Property
import Nomenclator.Value.Display

/-!
# Properties read from a document

`Property.ofDocument` reads the description of a property: a record that either has a `$ref`, or a
`type` (an object by default), perhaps with a `format`, an `enum`, the `items` of an array or the
`additionalProperties` of an object. Enumerated values are taken as the texts that they stand for,
so each of them must be one that can be shown.

Every field of a record is read as a property in its own right, and the record then picks the two it
may need; so the reading follows the tree of the document and nothing else. A field that is no
property harms only the record that asks for it.
-/

namespace Nomenclator.Property

/-- The field that makes a description a reference. -/
def referenceField : String := "$ref"

/-- What is said about data of a kind that has no fields but can be searched: data in which the
field of a reference is found cannot be asked for it. -/
def misfitOf (kind : String) (found : Bool) : Mismatch :=
  if found then .unnamed kind else .lacks kind "get"

/-- Whether a list holds the name of the field of a reference. -/
def namesReference (items : List Value) : Bool :=
  items.any fun
    | .text s => s = referenceField
    | _ => false

/-- Why a value that is no record describes no property. A text or a list is searched for the field
of a reference first. -/
def misfit (v : Value) : Mismatch :=
  match v with
  | .text s => misfitOf v.kindName (Text.occursIn referenceField.toList s.toList)
  | .list items => misfitOf v.kindName (namesReference items)
  | _ => .notSearchable v.kindName

/-- A property from the fields of its record and from what each field is as a property. -/
def build (fields : Table Value) (children : List (String × Except Mismatch Property)) :
    Except Mismatch Property :=
  match fields.lookup referenceField with
  | some target => .ok (referenceTo target)
  | none => do
    let type := (fields.lookup "type").getD (.text "object")
    let choices ← match fields.lookup "enum" with
      | none => Except.ok []
      | some v => v.members
    let choices ← choices.mapM fun v => v.display.map .text
    match type, fields.lookup "additionalProperties" with
    | .text "array", _ =>
      let items ← (children.lookup "items").getD (.ok object)
      return arrayOf items
    | .text "object", some (.record _) =>
      let entries ← (children.lookup "additionalProperties").getD (.ok object)
      return mapOf entries
    | _, _ => return primitive type ((fields.lookup "format").getD .null) choices

mutual

/-- The property that a value describes. -/
def ofDocument : Value → Except Mismatch Property
  | .record fields => build fields (ofFields fields)
  | v => .error (misfit v)

/-- What each field is as a property. -/
def ofFields : List (String × Value) → List (String × Except Mismatch Property)
  | [] => []
  | (k, v) :: rest => (k, ofDocument v) :: ofFields rest

end

end Nomenclator.Property
