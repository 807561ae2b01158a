import Nomenclator.Fault
import Nomenclator.Files.Store
import Nomenclator.Template.Compilation
import Nomenclator.Template.Render
import Nomenclator.Value.Keyed

/-!
# The template engine

An engine renders templates for one generator. Templates are given as text, or by names under which
they were added or lie in a directory. Those that were added come first; but once a template has
been taken from the directory, it stays in use under its name, for the directory does not change.

Anything that can be looked up may be the name of a template that is added, and anything at all its
source; what is no text is refused when it is compiled. The name of a template in the directory is
its path, in which empty parts and single dots do not count and two dots lead nowhere.
-/

namespace Nomenclator.Template

/-- An engine. -/
structure Engine where
  generator : Kotlin.Generator
  /-- The sources of the templates that were added. -/
  added : Keyed Value := []
  /-- The sources of the templates of the directory, by their paths; nothing without a directory. -/
  directory : Option (Table String) := none
  /-- The names that are in use for templates of the directory. -/
  settled : List String := []

namespace Engine

/-- The templates below a directory of files; nothing where the path leads to no directory. -/
def templatesBelow (files : Files) (path : String) : Except Fault (Option (Table String)) :=
  if path = "" then .ok none
  else
    let p := Path.ofText path
    match files.locate p with
    | .directory _ =>
      .ok (some ((files.below p).filterMap fun (place, content) =>
        (String.fromUTF8? content).map fun s => ("/".intercalate place, s)))
    | .tooLong => .error .pathTooLong
    | _ => .ok none

/-- An engine for a generator, with a directory of templates. -/
def ofFiles (g : Kotlin.Generator) (files : Files) (path : String) : Except Fault Engine :=
  (templatesBelow files path).map fun directory => { generator := g, directory }

/-- The engine with a template added under a name. -/
def add (e : Engine) (name source : Value) : Except Mismatch Engine := do
  return { e with added := e.added.put (← name.asKey) source }

/-- The names of all templates. -/
def names (e : Engine) : List Value :=
  e.added.map Prod.fst ++ (e.directory.getD []).keys.map .text

/-- Whether there is a template of exactly this name. The names are put in order to tell. -/
def hasTemplate (e : Engine) (name : Value) : Except Mismatch Bool :=
  if Value.areOrdered e.names then .ok (e.names.any (·.isSameKey name)) else .error .unordered

/-! ## Finding templates -/

/-- Where a template was found. -/
inductive Origin where
  | added
  | directory (name : String)

/-- The template of the directory that a name leads to. -/
def fromDirectory? (e : Engine) (name : Value) : Except String (Option (Origin × Value)) :=
  match e.directory, name with
  | none, _ => .ok none
  | some templates, .text s =>
    let parts := (Path.ofText s).parts
    if parts.contains ".." then .ok none
    else .ok ((templates.lookup ("/".intercalate parts)).map fun source =>
      (.directory s, .text source))
  | some _, _ => .error (Mismatch.lacks name.kindName "split").message

/-- Whether a name is in use for a template of the directory. -/
def isSettled (e : Engine) (name : Value) : Bool := e.settled.any fun s => name.isSameKey (.text s)

/-- The source of the template of a name and where it was found. -/
def find (e : Engine) (name : Value) : Except String (Origin × Value) := do
  let name ← name.asKey.mapError Mismatch.message
  match if e.isSettled name then none else e.added.find? name with
  | some source => return (.added, source)
  | none =>
    match ← e.fromDirectory? name with
    | some found => return found
    | none => throw (← name.display.mapError Mismatch.message)

/-- The statements of a template that is given as a value. -/
def compileValue (e : Engine) (source : Value) : Except String (List Node) :=
  match source with
  | .text s => compile e.generator s
  | _ => .error "Can't compile non template nodes"

/-- The statements of the template of a name, and the engine in which the name is settled if they
come from the directory. -/
def load (e : Engine) (name : Value) : Except String (List Node × Engine) := do
  let (origin, source) ← e.find name
  let nodes ← e.compileValue source
  match origin with
  | .added => return (nodes, e)
  | .directory s => return (nodes, { e with settled := s :: e.settled })

/-! ## Rendering -/

/-- The text of the template of a name over a context, and the engine afterwards. A name that cannot
be shown has no template in the directory, and the failure is that it cannot be shown. -/
def render (e : Engine) (name : Value) (context : List (String × Datum)) :
    Except Fault String × Engine :=
  match name.display with
  | .error m => (.error (.mismatch m), e)
  | .ok shown =>
    match e.load name with
    | .error problem => (.error (.template (.load shown problem)), e)
    | .ok (nodes, e) =>
      ((renderNodes e.generator name context nodes).mapError fun problem =>
        .template (.render (.named shown) problem), e)

/-- The text over a context of a template that is given as a value. -/
def renderValue (e : Engine) (source : Value) (context : List (String × Datum)) :
    Except TemplateError String := do
  let nodes ← (e.compileValue source).mapError .compile
  (renderNodes e.generator .null context nodes).mapError (.render .string)

/-- The context in which a resolved model is rendered. -/
def modelContext (s : ResolvedSchema) : List (String × Datum) := [("model", .schema s)]

/-- A filter as a plain function. -/
def applyFilter (e : Engine) (name : String) (arguments : List Datum) : Except Fault String :=
  match Filter.ofName? e.generator.flavor name with
  | none => .error (.unknownFilter name)
  | some f =>
    (f.apply e.generator (arguments.map ({ datum := · }))).mapError .misapplied

end Engine

end Nomenclator.Template
