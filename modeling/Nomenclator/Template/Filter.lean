import Nomenclator.Schema.Reading
import Nomenclator.Template.Datum.Display
import Nomenclator.Text.LineComment

/-!
# Filters

The filters of a template are the resolvers of a generator, applied to a datum: they name it,
declare it, or make it a comment. Most of them need a text. A missing name is named all the same,
and what is not present is a tag like the empty one; the name of a constant and a comment are made
of the text that any datum stands for.
-/

namespace Nomenclator.Template

/-- The filters. -/
inductive Filter where
  | variableName
  | parameterName
  | modelName
  | modelFile
  | serviceName
  | enumName
  | constantName
  | declaration
  | importPath
  | comment
  | breakComments
  deriving DecidableEq, Repr

namespace Filter

/-- All filters. -/
def all : List Filter :=
  [variableName, parameterName, modelName, modelFile, serviceName, enumName, constantName,
   declaration, importPath, comment, breakComments]

/-- The name of a filter in templates. -/
def name : Filter → String
  | variableName => "var_name"
  | parameterName => "param_name"
  | modelName => "model_name"
  | modelFile => "model_filename"
  | serviceName => "api_name"
  | enumName => "enum_name"
  | constantName => "enum_var_name"
  | declaration => "type_declaration"
  | importPath => "model_import"
  | comment => "comment"
  | breakComments => "escape_unsafe"

/-- Whether a flavor installs a filter. -/
def isInstalled (flavor : Kotlin.Flavor) (f : Filter) : Bool :=
  f != breakComments || flavor.breaksComments

/-- The filter of a given name that a flavor installs. -/
def ofName? (flavor : Kotlin.Flavor) (s : String) : Option Filter :=
  all.find? fun f => f.name = s && f.isInstalled flavor

/-- The parameters of a filter, the datum first. -/
def parameters : Filter → List String
  | constantName => ["value", "datatype"]
  | declaration => ["value"]
  | comment => ["value", "marker"]
  | enumName => ["property_name"]
  | breakComments => ["text"]
  | _ => ["name"]

/-- The parameter for the owner of the routine of a filter; the routine of the comment has none. -/
def ownerParameter : Filter → List String
  | comment => []
  | _ => ["self"]

/-- The routine that a filter runs, as messages name it. -/
def routine : Filter → String
  | variableName => "KotlinGenerator.to_var_name"
  | parameterName => "KotlinGenerator.to_param_name"
  | modelName => "KotlinGenerator.to_model_name"
  | modelFile => "KotlinGenerator.to_model_filename"
  | serviceName => "KotlinGenerator.to_api_name"
  | enumName => "KotlinGenerator.to_enum_name"
  | constantName => "TemplateEngine._enum_var_name"
  | declaration => "TemplateEngine._type_declaration"
  | importPath => "KotlinGenerator.to_model_import"
  | comment => "_line_comment"
  | breakComments => "KotlinGenerator.escape_unsafe_characters"

/-- The message for a filter with `given` arguments by their places, the datum included, which are
too many. The owner of the routine is counted too. -/
def tooMany (f : Filter) (given : Nat) : String :=
  let owner := f.ownerParameter.length
  let most := owner + f.parameters.length
  let taken := if f.parameters.length = 1 then toString most
    else "from " ++ toString (owner + 1) ++ " to " ++ toString most
  f.routine ++ "() takes " ++ taken ++ " positional arguments but " ++ toString (owner + given)
    ++ " were given"

/-- The problem with the first argument that is given by a wrong name: by that of a parameter which
has its argument already, or by one that no parameter has. -/
def nameProblem? (f : Filter) (taken keys : List String) : Option String :=
  keys.findSome? fun key =>
    let shown := Text.quotedText key
    if taken.contains key then some (f.routine ++ "() got multiple values for argument " ++ shown)
    else if f.parameters.contains key then none
    else some (f.routine ++ "() got an unexpected keyword argument " ++ shown)

/-- The marker of comments. -/
def defaultMarker : Datum := .ofText "//"

/-! ## What filters need -/

/-- The problem with a datum that lacks an ability. -/
def lacks (d : Datum) (ability : String) : String :=
  match d with
  | .dataType name _ =>
    "type object " ++ Text.quotedText name ++ " has no attribute " ++ Text.quotedText ability
  | _ => (Mismatch.lacks d.kindName ability).message

/-- The text that a datum is. Of any other datum the problem is that it lacks an ability. -/
def needText (ability : String) (d : Datum) : Except String String :=
  match d with
  | .value (.text s) => .ok s
  | .undefined problem => .error problem
  | .void problem => .error problem
  | _ => .error (lacks d ability)

/-- The text that a datum is, of which the first character is raised. A sequence of data has a first
item, but that cannot be raised; anything else has none. -/
def needCharacters (d : Datum) : Except String String :=
  match d with
  | .value (.text s) => .ok s
  | .undefined problem => .error problem
  | .void problem => .error problem
  | .value (.record _) | .whole _ => .error (Mismatch.notKey "slice").message
  | .value (.list _) | .choices _ | .fields _ | .step _ _ _ => .error (lacks d "upper")
  | .dataType name _ => .error ("type " ++ Text.quotedText name ++ " is not subscriptable")
  | _ => .error (Mismatch.noStart d.kindName).message

/-- The property that a datum is, or that it describes. Only a record can describe one. -/
def needProperty (d : Datum) : Except String Property :=
  match d with
  | .property p => .ok p
  | .value v => (Property.ofDocument v).mapError Mismatch.message
  | .choices vs => .error (Property.misfitOf d.kindName (Property.namesReference vs)).message
  | .step (.value v) _ _ =>
    .error (Property.misfitOf d.kindName (Property.namesReference [v])).message
  | .fields _ | .loop _ _ | .step _ _ _ => .error (lacks d "get")
  | .whole _ => .error Datum.noPart
  | .undefined problem => .error problem
  | .void problem => .error problem
  | _ => .error (Mismatch.notSearchable d.kindName).message

/-! ## Applying -/

/-- The declaration of a property, or of the property that a record describes. -/
def declare (g : Kotlin.Generator) (d : Datum) : Except String String := do
  let p ← needProperty d
  (g.declaration p).mapError Mismatch.message

/-- A text as a comment. The marker is not looked at when every line is blank. -/
def commented (marker : Datum) (s : String) : Except String String :=
  if Text.isBlank s.toList then .ok s
  else marker.display.map fun m => onText (Text.commentLines m.toList) s

/-- The name of a variable made from a datum. -/
def nameVariable (d : Datum) : Except String String :=
  match d with
  | .value .null => .ok (Kotlin.Generator.variableName none)
  | _ => (needText "replace" d).map fun s => Kotlin.Generator.variableName (some s)

/-- The name of the service of a tag. -/
def nameService (d : Datum) : Except String String := do
  if ← d.isPresent then return Kotlin.serviceName (← needCharacters d)
  else return Kotlin.defaultService

/-- A filter applied to a datum and perhaps to a second argument, which most filters do not look
at. -/
def applyTo (g : Kotlin.Generator) (f : Filter) (d : Datum) (second : Option Datum) :
    Except String String :=
  match f with
  | variableName => nameVariable d
  | parameterName => nameVariable d
  | modelName => (needText "startswith" d).map g.modelName
  | modelFile => (needText "replace" d).map g.modelFile
  | serviceName => nameService d
  | enumName => (needCharacters d).map Kotlin.Generator.enumName
  | constantName => d.display.map g.constantName
  | declaration => declare g d
  | importPath => (needText "startswith" d).map g.importPath
  | comment => do commented (second.getD defaultMarker) (← d.display)
  | breakComments => (needText "replace" d).map (onText Kotlin.breakComments)

/-- An argument of a filter, which may be given by the name of its parameter. -/
structure Argument where
  key : Option String := none
  datum : Datum

namespace Argument

/-- The data of the arguments that are given by their places. -/
def placed (arguments : List Argument) : List Datum :=
  arguments.filterMap fun a => if a.key.isNone then some a.datum else none

/-- The data of the arguments that are given by names. -/
def named (arguments : List Argument) : Table Datum :=
  arguments.foldl (fun entries a => match a.key with
    | some key => entries.put key a.datum
    | none => entries) []

end Argument

/-- The datum that is given for the parameter at a place. -/
def given? (f : Filter) (arguments : List Argument) (place : Nat) : Option Datum :=
  (Argument.placed arguments)[place]?
    <|> f.parameters[place]?.bind fun key => (Argument.named arguments).lookup key

/-- A filter applied to arguments, of which the first is the datum. -/
def apply (g : Kotlin.Generator) (f : Filter) (arguments : List Argument) :
    Except String String :=
  let count := (Argument.placed arguments).length
  let taken := f.ownerParameter ++ f.parameters.take count
  match f.nameProblem? taken ((Argument.named arguments).map Prod.fst) with
  | some problem => .error problem
  | none =>
    if f.parameters.length < count then .error (f.tooMany count)
    else match f.given? arguments 0 with
      | some d => f.applyTo g d (f.given? arguments 1)
      | none => .error "an argument is missing"

end Filter

end Nomenclator.Template
