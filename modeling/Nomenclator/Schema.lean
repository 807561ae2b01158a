import Nomenclator.Schema.Reading

/-!
# Models and operations

A schema is a named model with its properties in the order of their declaration. A property may be
declared without a name. An operation is a call of an interface; its path is stripped of its outer
slashes before names are made from it.
-/

namespace Nomenclator

/-- A named model. -/
structure Schema where
  name : String
  properties : List (Option String × Property) := []
  description : Value := .null

namespace Schema

/-- Named properties, each read from its value. -/
def readProperties (fields : Table Value) : Except Mismatch (List (Option String × Property)) :=
  fields.mapM fun field => (Property.ofDocument field.2).map fun p => (some field.1, p)

/-- The model of a given name that a value describes. -/
def ofDocument (name : String) (data : Value) : Except Mismatch Schema := do
  let fields ← data.asRecord
  let properties ← ((fields.lookup "properties").getD (.record [])).asRecord
  let properties ← readProperties properties
  return { name, properties, description := (fields.lookup "description").getD .null }

end Schema

/-- A call of an interface. -/
structure Operation where
  path : String
  method : Value
  id : Value := .null
  tags : List Value := []

namespace Operation

/-- The text without a slash at its beginning. -/
def dropLeadingSlash : List Char → List Char
  | '/' :: cs => cs
  | cs => cs

/-- The text without a slash at its end, or in front of the line feed that ends it. -/
def dropTrailingSlash : List Char → List Char
  | [] => []
  | ['/'] => []
  | ['/', '\n'] => ['\n']
  | c :: cs => c :: dropTrailingSlash cs

/-- A path without its outer slashes, one at either end. -/
def trimSlashes (path : String) : String :=
  String.ofList (dropTrailingSlash (dropLeadingSlash path.toList))

/-- The operation with its path trimmed. -/
def normalized (operation : Operation) : Operation :=
  { operation with path := trimSlashes operation.path }

end Operation

end Nomenclator
