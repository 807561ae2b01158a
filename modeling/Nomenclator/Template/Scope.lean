import Nomenclator.Template.Loop
import Nomenclator.Template.Mention
import Nomenclator.Text.Decomposition

/-!
# What names stand for

A template and the parts of its loops are frames that lie in one another. A frame looks its names up
when it is entered, in the order in which its statements mention them: in the context of the
template, then in the globals. Only names that no outer frame has are looked up, so a name that a
loop gives covers the same name outside.

Names that are variants of each other are different names of one variable. The last of them that is
looked up, or given, decides what all of them stand for.
-/

namespace Nomenclator.Template

/-! ## Frames -/

/-- What tells a variable from the others: its name without regard to variants. -/
def variableKey (name : String) : List Char := Text.decompose name.toList

/-- The variables of one part of a template. -/
structure Frame where
  /-- The names that the frame has. -/
  names : List String := []
  /-- What the variables stand for, the last one written first; nothing for what was not found. -/
  bindings : List (List Char × Option Datum) := []

namespace Frame

/-- The frame in which a name stands for something, or for nothing. -/
def write (f : Frame) (name : String) (d : Option Datum) : Frame :=
  { names := name :: f.names, bindings := (variableKey name, d) :: f.bindings }

/-- What a name of the frame stands for. -/
def read? (f : Frame) (name : String) : Option Datum :=
  (f.bindings.lookup (variableKey name)).join

end Frame

/-! ## Globals -/

/-- A type of data that every template sees. -/
def globalType (name shown : String) : Datum := .dataType name ("<class '" ++ shown ++ "'>")

/-- What every template sees, apart from its options. -/
def sharedGlobals : List (String × Datum) :=
  [("range", globalType "range" "range"), ("dict", globalType "dict" "dict"),
   ("cycler", globalType "Cycler" "jinja2.utils.Cycler"),
   ("joiner", globalType "Joiner" "jinja2.utils.Joiner"),
   ("namespace", globalType "Namespace" "jinja2.utils.Namespace"),
   ("lipsum", .operation "function" "<function generate_lorem_ipsum>")]

/-! ## Scopes -/

/-- Where a template is rendered, and what its names stand for there. -/
structure Scope where
  generator : Kotlin.Generator
  /-- The name of the template; null for a template without one. -/
  template : Value := .null
  /-- How the name of the template is shown. -/
  shown : String := "None"
  context : List (String × Datum)
  /-- The frames, the innermost first. -/
  frames : List Frame := []

namespace Scope

/-- The options that a template sees. -/
def options (s : Scope) : Datum :=
  .value (.record (if s.generator.flavor.exposesOptions then s.generator.publicOptions else []))

/-- What is found under a name when a frame looks it up. -/
def resolve? (s : Scope) (name : String) : Option Datum :=
  s.context.lookup name <|> (("options", s.options) :: sharedGlobals).lookup name

/-- Whether a frame has a name. -/
def hasName (s : Scope) (name : String) : Bool := s.frames.any fun f => f.names.contains name

/-- A frame after names have been looked up. -/
def lookUp (s : Scope) (f : Frame) (names : List String) : Frame :=
  names.foldl (fun f name =>
    if s.hasName name || f.names.contains name then f else f.write name (s.resolve? name)) f

/-- The scope in a new frame in which some names are given and others are looked up. -/
def enter (s : Scope) (given : List (String × Datum)) (names : List String) : Scope :=
  let frame := given.foldl (fun f entry => f.write entry.1 (some entry.2)) {}
  { s with frames := s.lookUp frame names :: s.frames }

/-- What a name stands for. -/
def find (s : Scope) (name : String) : Datum :=
  ((s.frames.find? fun f => f.names.contains name).bind fun f => f.read? name).getD
    (.undefined (Text.quotedText name ++ " is undefined"))

/-- The name under which a template sees itself. -/
def ownName : String := "self"

/-- The name under which the body of a loop sees the loop. -/
def loopName : String := "loop"

/-- The scope of a whole template, whose name is shown as it is given. -/
def start (g : Kotlin.Generator) (template : Value) (shown : String)
    (context : List (String × Datum)) (nodes : List Node) : Scope :=
  let reference := "<TemplateReference " ++ shown ++ ">"
  let own := if needsName nodes ownName then [(ownName, Datum.whole reference)] else []
  let scope : Scope := { generator := g, template, shown, context }
  scope.enter own (Node.namesOf nodes)

end Scope

end Nomenclator.Template
