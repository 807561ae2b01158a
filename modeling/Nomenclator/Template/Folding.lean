import Nomenclator.Template.Filter
import Nomenclator.Template.Tree

/-!
# Constant parts of templates

What is made of literals alone always stands for the same datum, so it is evaluated before the
template is rendered, and a literal is put in its place. Whatever fails is left as it is, to fail
only if the rendering gets there.

There is one exception. Where a constant decides what is evaluated next, as the condition of a
choice does or the left side of a conjunction, it has to be tested at once; and if it is undefined,
the template cannot be used at all. -/

namespace Nomenclator.Template

namespace Expr

mutual

/-- What an expression stands for in every scope, where that is known. -/
def constant? (g : Kotlin.Generator) : Expr → Option Datum
  | .literal v => some (.value v)
  | .member e field => do ((← e.constant? g).member field).toOption
  | .item e place => do
    let d ← e.constant? g
    (d.item (← place.constant? g)).toOption
  | .filter e applied arguments => do
    let f ← Filter.ofName? g.flavor applied
    let rest ← constantArguments? g arguments
    let d ← e.constant? g
    (f.apply g ({ datum := d } :: rest)).toOption.map .ofText
  | .named _ e => e.constant? g
  | .negation e => do return .ofBool (!(← (← e.constant? g).isPresent.toOption))
  | .both left right => do
    let d ← left.constant? g
    if ← d.isPresent.toOption then right.constant? g else return d
  | .either left right => do
    let d ← left.constant? g
    if ← d.isPresent.toOption then return d else right.constant? g
  | .signed isNegative e => do ((← e.constant? g).signed isNegative).toOption
  | .choice condition yes no => do
    if ← (← condition.constant? g).isPresent.toOption then yes.constant? g else no.constant? g
  | .name _ | .call _ _ | .void _ | .unsupported _ _ => none

/-- The arguments that expressions stand for in every scope. -/
def constantArguments? (g : Kotlin.Generator) : List Expr → Option (List Filter.Argument)
  | [] => some []
  | e :: rest => do
    let d ← e.constant? g
    return ⟨e.key?, d⟩ :: (← constantArguments? g rest)

end

/-- The part of an expression that is tested to tell how it goes on. -/
def decisive? : Expr → Option Expr
  | .both left _ => some left
  | .either left _ => some left
  | .choice condition _ _ => some condition
  | _ => none

/-- An expression whose parts are folded. It becomes a literal if it stands for a value; it is
refused if a part that decides about it is constant and cannot be tested. -/
def settle (g : Kotlin.Generator) (e : Expr) : Except String Expr := do
  match e.decisive?.bind (constant? g) with
  | some d => discard d.isPresent
  | none => pure ()
  match e.constant? g with
  | some (.value v) => return .literal v
  | _ => return e

mutual

/-- An expression with literals in the place of its constant parts. -/
def fold (g : Kotlin.Generator) : Expr → Except String Expr
  | .name s => .ok (.name s)
  | .literal v => .ok (.literal v)
  | .member e field => do settle g (.member (← e.fold g) field)
  | .item e place => do
    let e ← e.fold g
    settle g (.item e (← place.fold g))
  | .filter e applied arguments => do
    let e ← e.fold g
    settle g (.filter e applied (← foldAll g arguments))
  | .call e arguments => do
    let e ← e.fold g
    return .call e (← foldAll g arguments)
  | .named key e => do return .named key (← e.fold g)
  | .negation e => do settle g (.negation (← e.fold g))
  | .both left right => do
    let left ← left.fold g
    settle g (.both left (← right.fold g))
  | .either left right => do
    let left ← left.fold g
    settle g (.either left (← right.fold g))
  | .signed isNegative e => do settle g (.signed isNegative (← e.fold g))
  | .choice condition yes no => do
    let condition ← condition.fold g
    let yes ← yes.fold g
    settle g (.choice condition yes (← no.fold g))
  | .void line => .ok (.void line)
  | .unsupported operator operands => do
    return .unsupported operator (← foldAll g operands)

/-- Expressions with literals in the place of their constant parts. -/
def foldAll (g : Kotlin.Generator) : List Expr → Except String (List Expr)
  | [] => .ok []
  | e :: rest => do
    let e ← e.fold g
    return e :: (← foldAll g rest)

end

end Expr

end Nomenclator.Template
