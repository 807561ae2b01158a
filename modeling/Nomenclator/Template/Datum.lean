import Nomenclator.Resolution
import Nomenclator.Template.Operation
import Nomenclator.Value.Display

/-!
# What templates see

A template is rendered over data: the values of a document, properties, resolved models and their
parts, the loops that run and their steps, the template itself, and the operations and types that
come with all of these. A datum can be printed, tested, asked for a member and gone through; one
that is undefined can be passed on but none of these, and carries the problem that is reported when
it is tried. A void one is empty whatever is done with it, but has no members.

A loop moves on while it is looked at, so its datum is only a number that tells it from the others,
with the text that showed it when it was asked for. The steps and members of loops are found where
the loops are run; here a loop has none.
-/

namespace Nomenclator.Template

/-- A datum. -/
inductive Datum where
  | value (v : Value)
  /-- The enumerated values of a property. -/
  | choices (values : List Value)
  | shape (s : Shape)
  | property (p : Property)
  | schema (s : ResolvedSchema)
  | field (p : ResolvedProperty)
  | fields (ps : List ResolvedProperty)
  /-- A loop, by its number, and how it is shown. -/
  | loop (id : Nat) (shown : String)
  /-- A step of a loop, which is a pair of the item and the loop. -/
  | step (item : Datum) (id : Nat) (shown : String)
  /-- The template that is rendered, and how it is shown. -/
  | whole (shown : String)
  /-- An operation of another datum: what kind of operation it is and how it is shown. -/
  | operation (kind shown : String)
  /-- A type of data, by its own name, and how it is shown. -/
  | dataType (name shown : String)
  | undefined (problem : String)
  /-- What is left where a choice has no other branch, with the problem that is met when more is
  asked of it. -/
  | void (problem : String)
  deriving Inhabited

namespace Datum

/-- A text as a datum. -/
def ofText (s : String) : Datum := value (.text s)

/-- A text that may be missing as a datum. -/
def ofText? (s : Option String) : Datum := value (Settings.optionalText s)

/-- A number as a datum. -/
def ofNat (n : Nat) : Datum := value (.int n)

/-- A truth value as a datum. -/
def ofBool (b : Bool) : Datum := value (.bool b)

/-- A constant of an enum as a value. -/
def constantValue (c : Kotlin.Generator.Constant) : Value :=
  .record [("name", .text c.name), ("value", c.value)]

/-! ## Names of kinds -/

/-- The kind of a datum as messages name it. -/
def kindName : Datum → String
  | value v => v.kindName
  | choices _ => "tuple"
  | shape _ => "PropertyKind"
  | property _ => "Property"
  | schema _ => "ResolvedSchema"
  | field _ => "ResolvedProperty"
  | fields _ => "list"
  | loop _ _ => "LoopContext"
  | step _ _ _ => "tuple"
  | whole _ => "TemplateReference"
  | operation kind _ => kind
  | dataType _ _ => "type"
  | undefined _ => "StrictUndefined"
  | void _ => "Undefined"

/-- The kind of a datum with the place it belongs to, as messages about members name it. -/
def fullKindName (d : Datum) : String :=
  match d with
  | value .null => "None"
  | shape _ | property _ => "schema_codegen.codegen.core.schema." ++ d.kindName ++ " object"
  | schema _ | field _ => "schema_codegen.codegen.core.generator." ++ d.kindName ++ " object"
  | loop _ _ | whole _ => "jinja2.runtime." ++ d.kindName ++ " object"
  | _ => d.kindName ++ " object"

/-! ## Members -/

/-- The name of a shape where it is a member of the set of shapes. -/
def shapeConstant (s : Shape) : String := onText Text.upper s.name

/-- A basic operation of data of a kind, which has no text of its own. -/
def basicOperation (kind name : String) : Datum :=
  operation "builtin_function_or_method"
    ("<built-in method " ++ name ++ " of " ++ kind ++ " object>")

/-- An operation of a kind of data that belongs to this library. -/
def boundOperation (name owner : String) : Datum :=
  operation "method" ("<bound method " ++ name ++ " of " ++ owner ++ ">")

/-- A member of a property. -/
def propertyMember? (p : Property) (name : String) : Option Datum :=
  let part (q : Option Property) : Datum := match q with
    | some q => property q
    | none => value .null
  match name with
  | "kind" => some (shape p.shape)
  | "type" => some (value p.type)
  | "format" => some (value p.format)
  | "items" => some (part p.items)
  | "additional_properties" => some (part p.entries)
  | "ref" => some (value p.target)
  | "enum" => some (choices p.choices)
  | "simple_ref" => p.targetName.toOption.map ofText
  | "is_enum" => some (ofBool p.isEnum)
  | "from_dict" =>
    some (boundOperation "Property.from_dict"
      "<class 'schema_codegen.codegen.core.schema.Property'>")
  | _ => none

/-- A member of a resolved property. -/
def fieldMember? (p : ResolvedProperty) (name : String) : Option Datum :=
  match name with
  | "name" => some (ofText p.name)
  | "original_name" => some (ofText? p.declaredName)
  | "declaration" => some (ofText p.declaration)
  | "instantiation_type" => some (ofText? p.instantiation)
  | "enum_name" => some (ofText? p.enumName)
  | "enum_vars" => some (value (.list (p.constants.map constantValue)))
  | _ => none

/-- A member of a resolved model. -/
def schemaMember? (s : ResolvedSchema) (name : String) : Option Datum :=
  match name with
  | "class_name" => some (ofText s.className)
  | "filename" => some (ofText s.filename)
  | "original_name" => some (ofText s.declaredName)
  | "properties" => some (fields s.properties)
  | "imports" => some (value (.list (s.imports.map .text)))
  | "description" => some (value s.description)
  | _ => none

/-- A member of a shape: its name, its value, or another shape by its constant. -/
def shapeMember? (s : Shape) (name : String) : Option Datum :=
  match name with
  | "name" => some (ofText (shapeConstant s))
  | "value" => some (ofText s.name)
  | _ => (Shape.all.find? fun other => shapeConstant other = name).map shape

/-- The names of the basic operations of a datum. -/
def basicOperations : Datum → List String
  | value v => operationsOf v
  | choices _ => choicesOperations
  | fields _ => listOperations
  | step _ _ _ => choicesOperations
  | _ => []

/-- A member of a datum that is no basic operation, where there is one. -/
def ownMember? : Datum → String → Option Datum
  | value v, name => (partOf? v name).map value
  | shape s, name => shapeMember? s name
  | property p, name => propertyMember? p name
  | schema s, name => schemaMember? s name
  | field p, name => fieldMember? p name
  | _, _ => none

/-- A member of a datum, where there is one. The basic operations come first. -/
def member? (d : Datum) (name : String) : Option Datum :=
  if d.basicOperations.contains name then some (basicOperation d.kindName name)
  else d.ownMember? name

/-- What stands for a member that a datum does not have. -/
def noMember (d : Datum) (name : String) : Datum :=
  undefined (Text.quotedText d.fullKindName ++ " has no attribute " ++ Text.quotedText name)

/-- What a template finds as the member of a datum: something undefined where there is none. -/
def member (d : Datum) (name : String) : Except String Datum :=
  match d with
  | undefined problem => .error problem
  | void problem => .error problem
  | _ => .ok ((d.member? name).getD (d.noMember name))

/-- What a datum holds at a place, counted from zero on, where it holds anything there. -/
def item? : Datum → Nat → Option Datum
  | value v, place => (itemOf? v place).map value
  | choices vs, place => vs[place]?.map value
  | fields ps, place => ps[place]?.map field
  | step item _ _, 0 => some item
  | step _ id shown, 1 => some (loop id shown)
  | _, _ => none

/-- The place that a datum is, in a sequence of so many items; negative ones count from the end. -/
def place? (count : Nat) : Datum → Option Nat
  | value (.int n) =>
    if 0 ≤ n then some n.toNat else if n.natAbs ≤ count then some (count - n.natAbs) else none
  | value (.bool b) => some (if b then 1 else 0)
  | _ => none

/-- How many items a datum holds by their places. -/
def count : Datum → Nat
  | value (.list items) => items.length
  | value (.text s) => s.length
  | choices vs => vs.length
  | fields ps => ps.length
  | step _ _ _ => 2
  | _ => 0

/-- How a datum is shown where it is the name of something. -/
def shownKey : Datum → Except Mismatch String
  | value v => v.inspectText
  | d => .ok d.kindName

/-- The problem with a key under which a datum holds nothing; it is with the key where that cannot
be shown. -/
def noItemProblem (d key : Datum) : String :=
  match key.shownKey with
  | .ok shown => d.fullKindName ++ " has no element " ++ shown
  | .error m => m.message

/-- What a template finds in a datum under a key: the field of a record, an item by its place, a
member by its name, or something undefined. -/
def item (d key : Datum) : Except String Datum :=
  match d, key with
  | undefined problem, _ => .error problem
  | _, undefined problem => .error problem
  | void problem, _ => .error problem
  | value (.record entries), value (.text name) =>
    match entries.lookup name with
    | some v => .ok (value v)
    | none => d.member name
  | _, value (.text name) => d.member name
  | _, _ =>
    .ok (((place? d.count key).bind d.item?).getD (undefined (d.noItemProblem key)))

/-! ## Testing and going through -/

/-- Whether a datum counts as present. -/
def isPresent : Datum → Except String Bool
  | value v => .ok v.isPresent
  | choices vs => .ok (!vs.isEmpty)
  | fields ps => .ok (!ps.isEmpty)
  | undefined problem => .error problem
  | void _ => .ok false
  | _ => .ok true

/-- What is said where the template itself is gone through: it has no part for a number. -/
def noPart : String := "0"

/-- The items of a datum, other than the steps of a loop. -/
def items (d : Datum) : Except String (List Datum) :=
  match d with
  | value v =>
    match v.members with
    | .ok vs => .ok (vs.map value)
    | .error m => .error m.message
  | choices vs => .ok (vs.map value)
  | fields ps => .ok (ps.map field)
  | step item id shown => .ok [item, loop id shown]
  | whole _ => .error noPart
  | undefined problem => .error problem
  | void _ => .ok []
  | _ => .error (Mismatch.noMembers d.kindName).message

/-! ## Signs -/

/-- A datum with a sign in front. -/
def signed (isNegative : Bool) (d : Datum) : Except String Datum :=
  match d with
  | value (.int n) => .ok (value (.int (if isNegative then -n else n)))
  | value (.bool b) =>
    let n : Int := if b then 1 else 0
    .ok (value (.int (if isNegative then -n else n)))
  | value (.real x) => .ok (value (.real (if isNegative then x.negate else x)))
  | undefined problem => .error problem
  | void problem => .error problem
  | _ =>
    let sign := if isNegative then "-" else "+"
    .error ("bad operand type for unary " ++ sign ++ ": " ++ Text.quotedText d.kindName)

end Datum

end Nomenclator.Template
