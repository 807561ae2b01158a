import Nomenclator.Template.Folding

/-!
# Compiling a template

Before a template is rendered its constant parts are folded, and a print statement that always
prints the same becomes text. What is left is checked on the way.

A filter that is not installed is refused, except inside a choice, where it is a problem only if the
branch is taken; the body of a loop is outside again. Of the filters in a chain the last is looked
at first. A whole number has to be short enough to be written, and the item of a loop may not have
the name of the state of the loop. -/

namespace Nomenclator.Template

/-- What a template is compiled for, and whether a missing filter is left for later. -/
structure Checker where
  generator : Kotlin.Generator
  isSoft : Bool := false

namespace Checker

/-- The checker inside a choice. -/
def soft (c : Checker) : Checker := { c with isSoft := true }

/-- The checker in the body of a loop. -/
def hard (c : Checker) : Checker := { c with isSoft := false }

/-- Whether there is a filter of a name. -/
def isInstalled (c : Checker) (name : String) : Bool :=
  (Filter.ofName? c.generator.flavor name).isSome

/-! ## Expressions -/

/-- Checks a literal. -/
def literal : Value → Except String Unit
  | .int n => if Value.isTooLong n then .error Mismatch.tooManyDigits.message else .ok ()
  | _ => .ok ()

mutual

/-- Checks an expression. -/
def expr (c : Checker) : Expr → Except String Unit
  | .name _ => .ok ()
  | .literal v => literal v
  | .member e _ => c.expr e
  | .item e place => do
    c.expr e
    c.expr place
  | .call e arguments => do
    c.expr e
    c.exprs arguments
  | .named _ e => c.expr e
  | .both left right => do
    c.expr left
    c.expr right
  | .either left right => do
    c.expr left
    c.expr right
  | .signed _ e => c.expr e
  | .void _ => .ok ()
  | .unsupported _ operands => c.exprs operands
  | .filter e name arguments => do
    if !c.isSoft && !c.isInstalled name then
      throw ("No filter named " ++ Text.quotedText name ++ ".")
    c.expr e
    c.exprs arguments
  | .negation e => c.expr e
  | .choice condition yes no => do
    c.soft.expr yes
    c.soft.expr condition
    c.soft.expr no

/-- Checks expressions. -/
def exprs (c : Checker) : List Expr → Except String Unit
  | [] => .ok ()
  | e :: rest => do
    c.expr e
    c.exprs rest

end

/-- An expression that is folded and checked. -/
def compiled (c : Checker) (e : Expr) : Except String Expr := do
  let e ← e.fold c.generator
  c.expr e
  return e

/-! ## Statements -/

mutual

/-- Whether a statement gives the name of the state of a loop to the items of a loop. -/
def takesLoop : Node → Bool
  | .text _ => false
  | .print _ => false
  | .choice _ body otherwise => anyTakesLoop body || anyTakesLoop otherwise
  | .loop item _ _ body otherwise => item = "loop" || anyTakesLoop body || anyTakesLoop otherwise

/-- Whether one of some statements does. -/
def anyTakesLoop : List Node → Bool
  | [] => false
  | n :: rest => takesLoop n || anyTakesLoop rest

end

/-- The text that an expression always prints, where that is known. -/
def constantText? (g : Kotlin.Generator) (e : Expr) : Option String := do
  (← e.constant? g).display.toOption

mutual

/-- A statement that is folded and checked. -/
def node (c : Checker) : Node → Except String Node
  | .text s => .ok (.text s)
  | .print e =>
    match constantText? c.generator e with
    | some s => .ok (.text s)
    | none => (c.compiled e).map .print
  | .choice condition body otherwise => do
    let condition ← c.soft.compiled condition
    let body ← c.soft.nodes body
    return .choice condition body (← c.soft.nodes otherwise)
  | .loop item source condition body otherwise => do
    let condition ← match condition with
      | some e => some <$> c.hard.compiled e
      | none => pure none
    if item = "loop" || anyTakesLoop body || anyTakesLoop otherwise then
      throw "Can't assign to special loop variable in for-loop target"
    let source ← c.compiled source
    let body ← c.hard.nodes body
    return .loop item source condition body (← c.hard.nodes otherwise)

/-- Statements that are folded and checked. -/
def nodes (c : Checker) : List Node → Except String (List Node)
  | [] => .ok []
  | n :: rest => do
    let n ← c.node n
    return n :: (← c.nodes rest)

end

end Checker

/-- The statements of a template that is ready to be rendered. -/
def compile (g : Kotlin.Generator) (source : String) : Except String (List Node) := do
  Checker.nodes { generator := g } (← parse source)

end Nomenclator.Template
