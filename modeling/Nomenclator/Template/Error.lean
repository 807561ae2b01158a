/-!
# What can go wrong with a template

Loading, compiling and rendering fail separately; each failure carries the problem that caused it.
-/

namespace Nomenclator

/-- What was being rendered. -/
inductive TemplateLabel where
  | string
  | named (name : String)
  deriving DecidableEq, Repr

/-- A failure with its problem. -/
inductive TemplateError where
  | load (name problem : String)
  | compile (problem : String)
  | render (label : TemplateLabel) (problem : String)
  deriving DecidableEq, Repr

/-- The message of a failure. -/
def TemplateError.message : TemplateError → String
  | load name problem => "Failed to load template " ++ name ++ ": " ++ problem
  | compile problem => "Failed to compile template string: " ++ problem
  | render .string problem => "Failed to render template string: " ++ problem
  | render (.named name) problem => "Failed to render template " ++ name ++ ": " ++ problem

end Nomenclator
