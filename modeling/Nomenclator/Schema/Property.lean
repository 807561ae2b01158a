import Nomenclator.Text.Pieces
import Nomenclator.Value

/-!
# Properties of a model

A property describes the type of one field of a model: a primitive type with an optional format, an
array of items, a map from texts to values, or a reference to another model. A primitive property
may restrict its values to an enumeration.

The parts that come straight out of a document (the type, the format, the target of a reference, the
enumerated values) stay values; what uses them says what form it needs. `Property.keyword` is the
name under which the type of a property is looked up.
-/

namespace Nomenclator

/-- The four kinds of property. -/
inductive Shape where
  | primitive
  | array
  | map
  | reference
  deriving DecidableEq, Repr, Inhabited

/-- The name of a shape. -/
def Shape.name : Shape → String
  | primitive => "primitive"
  | array => "array"
  | map => "map"
  | reference => "reference"

/-- The four shapes. -/
def Shape.all : List Shape := [primitive, array, map, reference]

/-- The shape of a given name. -/
def Shape.ofName? (s : String) : Option Shape := all.find? fun shape => shape.name = s

/-- A property. The element of an array is its `items`, the element of a map its `entries`. -/
inductive Property where
  | mk (shape : Shape) (type format : Value) (items entries : Option Property) (target : Value)
    (choices : List Value)
  deriving Inhabited

namespace Property

/-- The kind of a property. -/
def shape : Property → Shape
  | mk s _ _ _ _ _ _ => s

/-- The type as the document states it. -/
def type : Property → Value
  | mk _ t _ _ _ _ _ => t

/-- The format as the document states it. -/
def format : Property → Value
  | mk _ _ f _ _ _ _ => f

/-- The property of the items of an array. -/
def items : Property → Option Property
  | mk _ _ _ i _ _ _ => i

/-- The property of the values of a map. -/
def entries : Property → Option Property
  | mk _ _ _ _ e _ _ => e

/-- What a reference points at. -/
def target : Property → Value
  | mk _ _ _ _ _ r _ => r

/-- The values that an enumeration admits. -/
def choices : Property → List Value
  | mk _ _ _ _ _ _ c => c

/-- A property of a named type. -/
def primitive (type : Value) (format : Value) (choices : List Value) : Property :=
  mk .primitive type format none none .null choices

/-- The property of an unrestricted object: what an element is when none is stated. -/
def object : Property := primitive (.text "object") .null []

/-- An array of items. -/
def arrayOf (items : Property) : Property :=
  mk .array (.text "array") .null (some items) none .null []

/-- A map from texts to values. -/
def mapOf (entries : Property) : Property :=
  mk .map (.text "object") .null none (some entries) .null []

/-- A reference to another model. -/
def referenceTo (target : Value) : Property :=
  mk .reference (.text "") .null none none target []

/-- Whether the property enumerates its values. -/
def isEnum (p : Property) : Bool := !p.choices.isEmpty

/-- The name of the model that a property points at: what follows the last slash of its target, and
nothing without a target. -/
def targetName (p : Property) : Except Mismatch String :=
  if p.target.isPresent then
    (p.target.textFor "rsplit").map fun s => String.ofList (Text.lastSegment '/' s.toList)
  else .ok ""

/-- The keywords of the types that a format makes more precise. -/
def formatKeywords : List ((String × String) × String) :=
  [(("integer", "int64"), "long"), (("number", "float"), "float"), (("number", "double"), "double"),
   (("string", "date"), "date"), (("string", "date-time"), "DateTime"),
   (("string", "uuid"), "UUID"), (("string", "binary"), "binary"),
   (("string", "byte"), "ByteArray")]

/-- The keyword of a type and a format: the precise one where there is one, the type otherwise. -/
def formatKeyword (type format : Value) : Value :=
  match type, format with
  | .text t, .text f =>
    match formatKeywords.lookup (t, f) with
    | some keyword => .text keyword
    | none => type
  | _, _ => type

/-- The name under which the type of a property is looked up. -/
def keyword (p : Property) : Except Mismatch Value :=
  match p.shape with
  | .array => .ok (.text "array")
  | .map => .ok (.text "map")
  | .reference => p.targetName.map .text
  | .primitive => do
    let type ← p.type.asKey
    let format ← p.format.asKey
    return formatKeyword type format

end Property

end Nomenclator
