import Nomenclator.Kotlin.Generator
import Nomenclator.Fault
import Nomenclator.Text.Order

/-!
# Resolution of schemas

To resolve a schema is to settle everything a template prints of it: the name of its class and of
its file, and for each property the name, the declaration, the expression for a default value and
the constants of its enum. The imports of a schema are the full names of all the types its
properties refer to, as far as those need an import, in order and without repetitions.

The properties are resolved one by one and none depends on another; so the order in which they are
declared is the order in which they come out, and nothing else.
-/

namespace Nomenclator

/-- Everything a template prints of a property. -/
structure ResolvedProperty where
  name : String
  declaredName : Option String
  declaration : String
  instantiation : Option String := none
  enumName : Option String := none
  constants : List Kotlin.Generator.Constant := []

/-- Everything a template prints of a model. -/
structure ResolvedSchema where
  className : String
  filename : String
  declaredName : String
  properties : List ResolvedProperty := []
  imports : List String := []
  description : Value := .null

/-- The models of a batch, with what is known of the batch as a whole. -/
structure Resolution where
  schemas : List ResolvedSchema
  language : String
  fileExtension : String
  modelFolder : String
  modelDocumentFolder : String

namespace Kotlin.Generator

/-- The name and the constants of the enum of a property, where it has one. The enum is named after
the property. -/
def resolveEnum (g : Generator) (name : Option String) (p : Property) (declaration : String) :
    Except Mismatch (Option String × List Constant) :=
  if p.isEnum then
    match name with
    | some name =>
      (g.constants p.choices (.text declaration)).map fun constants =>
        (some (enumName name), constants)
    | none => .error (.noStart Value.null.kindName)
  else .ok (none, [])

/-- A named property, resolved. -/
def resolveProperty (g : Generator) (name : Option String) (p : Property) :
    Except Mismatch ResolvedProperty := do
  let declaration ← g.declaration p
  let (enumName, constants) ← g.resolveEnum name p declaration
  let instantiation ← g.instantiation p
  return { name := variableName name, declaredName := name, declaration, instantiation,
           enumName, constants }

/-- The full names of those of the types that need an import. -/
def importsOfTypes (g : Generator) (types : List String) : List String :=
  (types.filter needsImport).map g.importPath

/-- The imports that a property calls for. -/
def importsOf (g : Generator) (p : Property) : Except Mismatch (List String) :=
  (g.typeNames p).map g.importsOfTypes

/-- A schema, resolved. -/
def resolveSchema (g : Generator) (s : Schema) : Except Mismatch ResolvedSchema := do
  let properties ← s.properties.mapM fun property => g.resolveProperty property.1 property.2
  let imports ← s.properties.mapM fun property => g.importsOf property.2
  return { className := g.modelName s.name, filename := g.modelFile s.name, declaredName := s.name,
           properties, imports := Text.sortedSet imports.flatten, description := s.description }

/-- A batch of resolved schemas with its description. -/
def batch (g : Generator) (schemas : List ResolvedSchema) : Resolution :=
  { schemas, language := g.flavor.language, fileExtension := g.flavor.fileExtension,
    modelFolder := g.modelFolder, modelDocumentFolder := g.modelDocumentFolder }

end Kotlin.Generator

namespace Resolution

/-- The number of models. -/
def size (r : Resolution) : Nat := r.schemas.length

/-- The first model that was declared under a given name. -/
def find? (r : Resolution) (declaredName : String) : Option ResolvedSchema :=
  r.schemas.find? fun s => s.declaredName = declaredName

/-- The entry of the journal for a batch that has been resolved. -/
def doneEntry (r : Resolution) : Entry :=
  .info .resolution ("Resolved " ++ toString r.size ++ " schema(s) for " ++ r.language)

/-- A batch of schemas, resolved in order. -/
def ofSchemas (g : Kotlin.Generator) (schemas : List Schema) : Except Mismatch Resolution :=
  (schemas.mapM g.resolveSchema).map g.batch

/-- A batch of definitions by their names, read and resolved in order. -/
def ofDefinitions (g : Kotlin.Generator) (definitions : Value) : Except Mismatch Resolution := do
  let fields ← definitions.asRecord
  let schemas ← fields.mapM fun field => Schema.ofDocument field.1 field.2
  ofSchemas g schemas

/-- A resolution that is announced in the journal when it succeeds. -/
def announced (r : Except Mismatch Resolution) : Report Fault Resolution :=
  match r with
  | .ok resolution => ⟨[resolution.doneEntry], .ok resolution⟩
  | .error m => .of (.error (.mismatch m))

end Resolution

end Nomenclator
