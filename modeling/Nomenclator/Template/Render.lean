import Nomenclator.Template.Filter
import Nomenclator.Template.Scope

/-!
# Rendering

The text of a template over a context is made statement by statement, while its loops run. The
statements are those of a compiled template; what could not be settled there fails here.
-/

namespace Nomenclator.Template

namespace Scope

/-! ## Expressions -/

/-- What a literal stands for. A number beyond all others is written as a name, which nothing
defines. -/
def literal (v : Value) : Except String Datum :=
  match v with
  | .real (.infinite _) => .error "name 'inf' is not defined"
  | _ => .ok (.value v)

/-- The problem with what is left of a choice on a line that has no other branch. -/
def voidProblem (s : Scope) (line : Nat) : String :=
  let place := match s.template with
    | .null => ""
    | .text name => " in '" ++ name ++ "'"
    | _ => " in " ++ s.shown
  "the inline if-expression on line " ++ toString line ++ place
    ++ " evaluated to false and no else section was defined."

/-- The problem with calling a datum. -/
def callProblem (d : Datum) : String :=
  match d with
  | .undefined problem => problem
  | .void problem => problem
  | .operation _ _ | .dataType _ _ => "operations are not supported"
  | .loop _ _ => "The loop must have the 'recursive' marker to be called."
  | _ => "'" ++ d.kindName ++ "' object is not callable"

mutual

/-- What an expression stands for. -/
def eval (s : Scope) : Expr → Run Datum
  | .name n => Run.refresh (s.find n)
  | .literal v => literal v
  | .member e field => do Run.member (← s.eval e) field
  | .item e place => do
    let d ← s.eval e
    Run.item d (← s.eval place)
  | .call e arguments => do
    let d ← s.eval e
    let _ ← s.evalAll arguments
    throw (callProblem d)
  | .named _ e => s.eval e
  | .both left right => do
    let d ← s.eval left
    if ← d.isPresent then s.eval right else return d
  | .either left right => do
    let d ← s.eval left
    if ← d.isPresent then return d else s.eval right
  | .signed isNegative e => do (← s.eval e).signed isNegative
  | .void line => return .void (s.voidProblem line)
  | .unsupported operator operands => do
    let _ ← s.evalAll operands
    throw ("operator " ++ Text.quotedText operator ++ " is not supported")
  | .filter e name arguments => do
    let d ← s.eval e
    let rest ← s.evalAll arguments
    match Filter.ofName? s.generator.flavor name with
    | some f => return .ofText (← f.apply s.generator ({ datum := d } :: rest))
    | none => throw ("No filter named " ++ Text.quotedText name ++ " found.")
  | .negation e => do return .ofBool (!(← (← s.eval e).isPresent))
  | .choice condition yes no => do
    if ← (← s.eval condition).isPresent then s.eval yes else s.eval no

/-- The arguments that expressions stand for. -/
def evalAll (s : Scope) : List Expr → Run (List Filter.Argument)
  | [] => return []
  | e :: rest => do
    let d ← s.eval e
    return ⟨e.key?, d⟩ :: (← s.evalAll rest)

end

/-! ## Statements -/

/-- What a loop over a datum goes through when its items have to fulfil a condition. The problem
with the first item that cannot be tested stands behind the items in front of it. -/
def supply (s : Scope) (item : String) (condition : Option Expr) (d : Datum) : Run Supply := do
  match condition with
  | none => Run.supplyOf d
  | some e =>
    let names := e.names
    let test (d : Datum) : Run Bool := do
      let found ← (s.enter [(item, ← Run.refresh d)] names).eval e
      found.isPresent
    Run.supplyWhere test d

mutual

/-- The text of a statement. -/
def render (s : Scope) : Node → Run String
  | .text t => return t
  | .print e => do (← s.eval e).display
  | .choice condition body otherwise => do
    if ← (← s.eval condition).isPresent then s.renderAll body else s.renderAll otherwise
  | .loop item source condition body otherwise => do
    let supply ← s.supply item condition (← s.eval source)
    let names := Node.namesOf body
    let seesLoop := needsName body loopName
    let text ← Run.loopOver supply fun id d => do
      let state ← if seesLoop then pure [(loopName, ← Run.datumOf id)] else pure []
      (s.enter ((item, d) :: state) names).renderAll body
    match text with
    | some text => return text
    | none => (s.enter [] (Node.namesOf otherwise)).renderAll otherwise

/-- The text of statements. -/
def renderAll (s : Scope) : List Node → Run String
  | [] => return ""
  | n :: rest => do
    let text ← s.render n
    return text ++ (← s.renderAll rest)

end

end Scope

/-- The text of the template of a name over a context; a template without a name has null for it. No
context may give the name under which a template sees itself. -/
def renderNodes (g : Kotlin.Generator) (template : Value) (context : List (String × Datum))
    (nodes : List Node) : Except String String := do
  if (context.lookup Scope.ownName).isSome then
    throw ("Template.render() got multiple values for argument " ++ Text.quotedText Scope.ownName)
  let shown ← template.inspectText.mapError Mismatch.message
  ((Scope.start g template shown context nodes).renderAll nodes).run' []

end Nomenclator.Template
