import Nomenclator.Files.Path
import Nomenclator.Journal
import Nomenclator.Kotlin.Identifier
import Nomenclator.Kotlin.Tables
import Nomenclator.Schema

/-!
# The generator

A generator is its settings and the tables made from them. It names what a schema declares, writes
the types of properties, and says which types need an import and from where.

A type name is found by a keyword: the tables give the type of the keyword, and that type is named
like a model, so a keyword that no table knows is a model. The declaration of a primitive type looks
its name up once more, since a type may itself be a keyword.
-/

namespace Nomenclator.Kotlin

/-- What a generator reports about itself. -/
structure Flavor where
  language : String := "kotlin"
  fileExtension : String := ".kt"
  /-- Whether templates see the options. -/
  exposesOptions : Bool := true
  /-- Whether templates can break up comment delimiters. -/
  breaksComments : Bool := true
  deriving DecidableEq, Repr

/-- A generator. -/
structure Generator where
  settings : Settings
  tables : Tables
  flavor : Flavor := {}
  deriving DecidableEq, Repr

namespace Generator

/-- The generator of settings. -/
def ofSettings (s : Settings) (flavor : Flavor := {}) : Generator :=
  { settings := s, tables := Tables.ofSettings s, flavor }

/-- The entry of the journal for a generator that is ready. -/
def readyEntry (s : Settings) : Entry :=
  .debug .generator
    ("Kotlin generator ready (enumPropertyNaming=" ++ s.enumNaming.option ++ ", modelPackage="
      ++ (if s.modelPackage = "" then "<none>" else s.modelPackage) ++ ")")

/-! ## Names -/

/-- The name of a variable or a parameter. -/
def variableName (name : Option String) : String :=
  String.ofList (Kotlin.variableName (name.map String.toList))

/-- The name of an enum constant with a text for its value. -/
def constantName (g : Generator) (value : String) : String :=
  String.ofList (Kotlin.constantName g.tables.transcoder g.settings.enumNaming value.toList)

/-- The name of an enum constant; a value that is not present counts as the empty text. -/
def constantNameOf (g : Generator) (value : Value) : Except Mismatch String :=
  if value.isPresent then value.asText.map g.constantName else .ok (g.constantName "")

/-- The name of the enum of a property. -/
def enumName (property : String) : String := Naming.capitalize property

/-- Whether the values of a type are written as texts. -/
def isTextType (type : Value) : Except Mismatch Bool :=
  type.asKey.map fun
    | .text t => textTypes.contains t
    | _ => false

/-- How a value of an enum is written for a type. -/
def constantValue (value type : Value) : Except Mismatch Value := do
  if ← isTextType type then
    return .text (onText textLiteral (← value.asText))
  else return value

/-- The class name of a model: complete names as they are, well-known ones by the table, all others
by derivation. -/
def modelName (g : Generator) (name : String) : String :=
  if hasBuiltinPrefix name then name
  else match g.tables.imports.lookup name with
    | some known => known
    | none => onText (className g.tables.transcoder) name

/-- The name of the file of a model, without its extension. -/
def modelFile (g : Generator) (name : String) : String :=
  g.modelName (onText (List.map fun c => if c = '-' then '_' else c) name)

/-- One constant of an enum. -/
structure Constant where
  name : String
  value : Value

/-- The constant of a value. -/
def constant (g : Generator) (type value : Value) : Except Mismatch Constant := do
  let name ← g.constantNameOf value
  let value ← constantValue value type
  return { name, value }

/-- The constants of an enum. -/
def constants (g : Generator) (values : List Value) (type : Value) :
    Except Mismatch (List Constant) :=
  values.mapM (g.constant type)

/-! ## Types -/

/-- The type of a keyword, named like a model. -/
def resolveKeyword (g : Generator) (keyword : Value) : Except Mismatch String := do
  let key ← keyword.asKey
  let name ← key.textFor "startswith"
  return g.modelName (g.tables.typeOf name)

/-- The outermost type of a property. -/
def outerType (g : Generator) (p : Property) : Except Mismatch String := do
  g.resolveKeyword (← p.keyword)

/-- The declaration of an array of declared items. -/
def arrayDeclaration (g : Generator) (items : String) : String :=
  g.tables.arrayType ++ "<" ++ items ++ ">"

/-- The declaration of a property that holds no other: a reference is named like its model, any
other type is looked up by its name once more. -/
def leafDeclaration (g : Generator) (p : Property) : Except Mismatch String :=
  match p.shape with
  | .reference => p.targetName.map g.modelName
  | _ => (g.outerType p).map g.tables.typeOf

/-- The declaration of the element of a container that states none. -/
def objectDeclaration (g : Generator) : Except Mismatch String := g.leafDeclaration Property.object

mutual

/-- The declaration of a property. Arrays and maps contain the declaration of their element. -/
def declaration (g : Generator) : Property → Except Mismatch String
  | .mk .array _ _ items _ _ _ => (g.elementDeclaration items).map g.arrayDeclaration
  | .mk .map type format items entries target choices => do
    let inner ← g.elementDeclaration entries
    let outer ← g.outerType (.mk .map type format items entries target choices)
    return outer ++ "<" ++ g.tables.textType ++ ", " ++ inner ++ ">"
  | .mk .reference type format items entries target choices =>
    g.leafDeclaration (.mk .reference type format items entries target choices)
  | .mk .primitive type format items entries target choices =>
    g.leafDeclaration (.mk .primitive type format items entries target choices)

/-- The declaration of the element of a container. -/
def elementDeclaration (g : Generator) : Option Property → Except Mismatch String
  | none => g.objectDeclaration
  | some p => g.declaration p

end

/-- The expression that makes a default value, for containers only. -/
def instantiation (g : Generator) (p : Property) : Except Mismatch (Option String) :=
  match p.shape with
  | .array => (g.elementDeclaration p.items).map fun items => some (g.arrayDeclaration items)
  | .map =>
    (g.outerType (p.entries.getD Property.object)).map fun inner =>
      some (Tables.mapConstructor ++ "<" ++ g.tables.textType ++ ", " ++ inner ++ ">")
  | _ => .ok none

mutual

/-- The types that a property refers to: the declarations of its innermost properties. -/
def typeNames (g : Generator) : Property → Except Mismatch (List String)
  | .mk shape type format none none target choices =>
    (g.declaration (.mk shape type format none none target choices)).map fun d => [d]
  | .mk _ _ _ items entries _ _ => do
    let first ← g.elementTypeNames items
    let second ← g.elementTypeNames entries
    return first ++ second

/-- The types that the element of a container refers to. -/
def elementTypeNames (g : Generator) : Option Property → Except Mismatch (List String)
  | none => .ok []
  | some p => g.typeNames p

end

/-! ## Imports -/

/-- Whether a type needs an import. -/
def needsImport (type : String) : Bool :=
  !hasBuiltinPrefix type && !includedTypes.contains type && !primitiveTypes.contains type

/-- The full name of a type, as an import states it. -/
def importPath (g : Generator) (type : String) : String :=
  if !needsImport type then type
  else match g.tables.imports.lookup type with
    | some known => known
    | none =>
      if type.toList.contains '.' || g.settings.modelPackage = "" then type
      else g.settings.modelPackage ++ "." ++ type

/-! ## Folders and options -/

/-- The folder of a package: its segments below the source folder. -/
def packageFolder (g : Generator) (package : String) : String :=
  let segments := (Text.segments '.' package.toList).filter fun part => !part.isEmpty
  let base := (Path.ofText g.settings.outputFolder).join (Path.ofText g.settings.sourceFolder)
  (segments.foldl (fun folder part => folder.join (Path.ofText (String.ofList part))) base).toText

/-- The folder of the interfaces. -/
def apiFolder (g : Generator) : String := g.packageFolder g.settings.apiPackage

/-- The folder of the models. -/
def modelFolder (g : Generator) : String := g.packageFolder g.settings.modelPackage

/-- A folder of documents, put behind the output folder as it is written. -/
def documentFolder (g : Generator) (path : String) : String :=
  g.settings.outputFolder ++ "/" ++ path

/-- The folder of the documents of the interfaces. -/
def apiDocumentFolder (g : Generator) : String := g.documentFolder g.settings.apiDocPath

/-- The folder of the documents of the models. -/
def modelDocumentFolder (g : Generator) : String := g.documentFolder g.settings.modelDocPath

/-- The options that templates do not see. -/
def privateOptions : List String :=
  ["outputFolder", "typeMappings", "importMappings", "specialCharReplacements"]

/-- The options that templates see. -/
def publicOptions (g : Generator) : Table Value :=
  g.settings.toOptions.filter fun entry => !privateOptions.contains entry.1

end Generator

end Nomenclator.Kotlin
