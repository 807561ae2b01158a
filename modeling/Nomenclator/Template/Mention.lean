import Nomenclator.Template.Tree

/-!
# The names that a template mentions

A name is looked up where it is used, and the item of a loop is a name that is given. The statements
of one frame mention its names in a fixed order, in which they are looked up before anything is
rendered; a loop stands in that frame only with its source, for its body, its condition and its
other branch have frames of their own.

Some names exist only for the templates that need them: a name is needed by statements when, of all
the places in which they mention it, the first one uses it.
-/

namespace Nomenclator.Template

/-! ## In one frame -/

mutual

/-- The names that an expression uses. -/
def Expr.names : Expr → List String
  | .name s => [s]
  | .literal _ => []
  | .member e _ => e.names
  | .item e place => e.names ++ place.names
  | .filter e _ arguments => e.names ++ Expr.namesOf arguments
  | .call e arguments => e.names ++ Expr.namesOf arguments
  | .named _ e => e.names
  | .negation e => e.names
  | .both left right => left.names ++ right.names
  | .either left right => left.names ++ right.names
  | .signed _ e => e.names
  | .choice condition yes no => condition.names ++ yes.names ++ no.names
  | .void _ => []
  | .unsupported _ operands => Expr.namesOf operands

/-- The names that expressions use. -/
def Expr.namesOf : List Expr → List String
  | [] => []
  | e :: rest => e.names ++ Expr.namesOf rest

end

mutual

/-- The names that a statement uses in the frame in which it stands. -/
def Node.names : Node → List String
  | .text _ => []
  | .print e => e.names
  | .choice condition body otherwise =>
    condition.names ++ Node.namesOf body ++ Node.namesOf otherwise
  | .loop _ source _ _ _ => source.names

/-- The names that statements use in the frame in which they stand. -/
def Node.namesOf : List Node → List String
  | [] => []
  | n :: rest => n.names ++ Node.namesOf rest

end

/-! ## In all frames -/

/-- A place in which a name is mentioned. -/
structure Mention where
  name : String
  /-- Whether the name is used there; otherwise it is given. -/
  isUse : Bool

/-- Names that are used. -/
def Mention.uses (names : List String) : List Mention := names.map ({ name := ·, isUse := true })

mutual

/-- The mentions of names in a statement. -/
def Node.mentions : Node → List Mention
  | .text _ => []
  | .print e => Mention.uses e.names
  | .choice condition body otherwise =>
    Mention.uses condition.names ++ Node.mentionsOf body ++ Node.mentionsOf otherwise
  | .loop item source condition body otherwise =>
    { name := item, isUse := false } :: Mention.uses source.names ++ Node.mentionsOf body
      ++ Node.mentionsOf otherwise ++ Mention.uses ((condition.map Expr.names).getD [])

/-- The mentions of names in statements. -/
def Node.mentionsOf : List Node → List Mention
  | [] => []
  | n :: rest => n.mentions ++ Node.mentionsOf rest

end

/-- Whether statements need a name: whether it is used where they mention it first. -/
def needsName (nodes : List Node) (name : String) : Bool :=
  ((Node.mentionsOf nodes).find? fun m => m.name = name).any Mention.isUse

end Nomenclator.Template
