import Nomenclator.Template.Token

/-!
# Expressions of a template

An expression is a name, a literal, a member of another expression or what that holds at a place, a
filter applied to one, a negation, a choice between two, or an operator between two. Operators bind
in levels, `or` the loosest; the operators of a level are taken from left to right. A choice without
its other branch is empty where its condition fails, and keeps the line on which it begins.

Expressions are read with all the operators of the template language, so that a mistake behind an
operator is found where it is made. What the library has no use for (arithmetic, comparisons, tests
and containers) is kept as `unsupported` and refused when it is evaluated.
-/

namespace Nomenclator.Template

/-- An expression. -/
inductive Expr where
  | name (s : String)
  | literal (v : Value)
  | member (e : Expr) (field : String)
  | item (e place : Expr)
  | filter (e : Expr) (name : String) (arguments : List Expr)
  | call (e : Expr) (arguments : List Expr)
  /-- An argument that is given by its name. -/
  | named (key : String) (e : Expr)
  | negation (e : Expr)
  | both (left right : Expr)
  | either (left right : Expr)
  | signed (isNegative : Bool) (e : Expr)
  | choice (condition yes no : Expr)
  /-- What a choice without another branch stands for where its condition fails, with the line on
  which the choice begins. -/
  | void (line : Nat)
  /-- An operation that is not supported, with its operands. -/
  | unsupported (operator : String) (operands : List Expr)
  deriving Inhabited

/-- The name by which an argument is given, where it is given by one. -/
def Expr.key? : Expr → Option String
  | .named key _ => some key
  | _ => none

/-- A reader of tokens, which fails with a problem. -/
abbrev Parser := StateT (List Lexeme) (Except String)

namespace Parser

/-! ## Single tokens -/

/-- The next token, if there is one. -/
def peek : Parser (Option Token) := do return (← get).head?.map Lexeme.token

/-- The next two tokens, as far as there are so many. -/
def peekTwo : Parser (List Token) := do return ((← get).take 2).map Lexeme.token

/-- The line of the next token. -/
def nextLine : Parser Nat := do return ((← get).head?.map Lexeme.line).getD 0

/-- Takes the next token. What cannot be cut into a token is reported as soon as it comes next. -/
def advance : Parser Unit := do
  match ← get with
  | _ :: ⟨.broken problem, _⟩ :: _ => throw problem
  | _ :: rest => set rest
  | [] => return ()

/-- Takes the next `n` tokens. -/
def skip : Nat → Parser Unit
  | 0 => return ()
  | n + 1 => do
    advance
    skip n

/-- What the next token is called in messages. -/
def nextLabel : Parser String := do
  match ← peek with
  | some token => return token.label
  | none => return "end of template"

/-- Fails at the next token. -/
def unexpected {α : Type} : Parser α := do throw ("unexpected " ++ Text.quotedText (← nextLabel))

/-- Fails because the next token is not the one that is needed. -/
def missing {α : Type} (label : String) : Parser α := do
  match ← peek with
  | none => throw ("unexpected end of template, expected " ++ Text.quotedText label ++ ".")
  | some token =>
    throw ("expected token " ++ Text.quotedText label ++ ", got " ++ Text.quotedText token.label)

/-- Whether the next token is a given name. -/
def atName (s : String) : Parser Bool := do
  match ← peek with
  | some (.name t) => return t = s
  | _ => return false

/-- Whether the next token is a given sign. -/
def atSign (s : String) : Parser Bool := do
  match ← peek with
  | some (.sign t) => return t = s
  | _ => return false

/-- Takes a given name if it comes next. -/
def skipName (s : String) : Parser Bool := do
  if ← atName s then
    advance
    return true
  else return false

/-- Takes a given sign if it comes next. -/
def skipSign (s : String) : Parser Bool := do
  if ← atSign s then
    advance
    return true
  else return false

/-- Takes a given name, which has to come next. -/
def takeName (s : String) : Parser Unit := do
  if !(← skipName s) then missing s

/-- Takes a given sign, which has to come next. -/
def takeSign (s : String) : Parser Unit := do
  if !(← skipSign s) then missing s

/-- Takes any name, which has to come next. -/
def anyName : Parser String := do
  match ← peek with
  | some (.name s) =>
    advance
    return s
  | _ => missing "name"

/-- The rest of a name that may have points in it. -/
def dottedName : Nat → String → Parser String
  | 0, s => return s
  | fuel + 1, s => do
    if ← skipSign "." then dottedName fuel (s ++ "." ++ (← anyName)) else return s

/-! ## Atoms -/

/-- The value of a name that is a literal. -/
def literalOfName? (s : String) : Option Value :=
  if s = "true" || s = "True" then some (.bool true)
  else if s = "false" || s = "False" then some (.bool false)
  else if s = "none" || s = "None" then some .null
  else none

/-- The texts in quotes that follow one another, joined. -/
def quotes : Nat → String → Parser String
  | 0, s => return s
  | fuel + 1, s => do
    match ← peek with
    | some (.quote t) =>
      advance
      quotes fuel (s ++ t)
    | _ => return s

/-- A name or a literal. -/
def atom (fuel : Nat) : Parser Expr := do
  match ← peek with
  | some (.name s) =>
    advance
    match literalOfName? s with
    | some v => return .literal v
    | none => return .name s
  | some (.quote s) =>
    advance
    return .literal (.text (← quotes fuel s))
  | some (.number v) =>
    advance
    return .literal v
  | _ => unexpected

/-- The member or the place behind a point. -/
def pointed (e : Expr) : Parser Expr := do
  let found ← peek
  advance
  match found with
  | some (.name s) => return .member e s
  | some (.number (.int place)) => return .item e (.literal (.int place))
  | _ => throw "expected name or number"

/-! ## Operators -/

/-- The operators of one level: how many of the next tokens one of them takes, and what it makes of
its two operands. -/
abbrev Level := List Token → Option (Nat × (Expr → Expr → Expr))

/-- An operator that is not supported. -/
def refused (operator : String) : Nat × (Expr → Expr → Expr) :=
  (1, fun left right => .unsupported operator [left, right])

/-- The level of signs that are not supported. -/
def signLevel (signs : List String) : Level
  | .sign s :: _ => if signs.contains s then some (refused s) else none
  | _ => none

/-- The disjunction. -/
def orLevel : Level
  | .name "or" :: _ => some (1, .either)
  | _ => none

/-- The conjunction. -/
def andLevel : Level
  | .name "and" :: _ => some (1, .both)
  | _ => none

/-- Comparisons and membership. -/
def comparisonLevel : Level
  | .name "in" :: _ => some (refused "in")
  | .name "not" :: .name "in" :: _ =>
    some (2, fun left right => .unsupported "not in" [left, right])
  | tokens => signLevel ["==", "!=", "<", "<=", ">", ">="] tokens

/-- The levels that bind looser than a negation. -/
def looseLevels : List Level := [orLevel, andLevel]

/-- The levels that bind tighter than a negation. -/
def tightLevels : List Level :=
  [comparisonLevel, signLevel ["+", "-"], signLevel ["~"], signLevel ["*", "/", "//", "%"],
   signLevel ["**"]]

/-- The operators of a level behind an operand; `next` reads the operands. -/
def chain (next : Parser Expr) (level : Level) : Nat → Expr → Parser Expr
  | 0, e => return e
  | fuel + 1, e => do
    match level (← peekTwo) with
    | some (taken, join) =>
      skip taken
      chain next level fuel (join e (← next))
    | none => return e

/-- An expression with the operators of some levels, the loosest first, between operands that `base`
reads. -/
def binary (base : Parser Expr) (fuel : Nat) : List Level → Parser Expr
  | [] => base
  | level :: tighter => do chain (binary base fuel tighter) level fuel (← binary base fuel tighter)

/-! ## Expressions -/

/-- Whether a list of expressions cannot go on at the next token because something ends there. -/
def atEnd : Parser Bool := do
  match ← peek with
  | some .closePrint => return true
  | some .closeTag => return true
  | some (.sign ")") => return true
  | _ => return false

/-- Fails where an expression is needed and something ends instead. -/
def missingExpression {α : Type} : Parser α := do
  throw ("Expected an expression, got " ++ Text.quotedText (← nextLabel))

/-- One expression, or several with commas between them up to where a list ends; `next` reads one.
-/
def listed (next : Parser Expr) (isEnclosed : Bool) : Nat → Parser Expr
  | 0 => unexpected
  | fuel + 1 => do
    if ← atEnd then
      if isEnclosed then return .unsupported "()" [] else missingExpression
    else
      let first ← next
      if ← atSign "," then return .unsupported "," (first :: (← more fuel)) else return first
where
  /-- The expressions behind the first one. -/
  more : Nat → Parser (List Expr)
    | 0 => unexpected
    | fuel + 1 => do
      if ← skipSign "," then
        if ← atEnd then return []
        else
          let e ← next
          return e :: (← more fuel)
      else return []

/-- The items between two brackets, of which the opening one has been taken; `next` reads an item. A
comma may follow the last one. -/
def enclosed {α : Type} (next : Parser α) (closing : String) : Nat → Bool → Parser (List α)
  | 0, _ => unexpected
  | fuel + 1, isFirst => do
    if ← skipSign closing then return []
    else
      if !isFirst then takeSign ","
      if !isFirst && (← skipSign closing) then return []
      else
        let e ← next
        return e :: (← enclosed next closing fuel false)

/-- The forms of an argument: by its place, by its name, a list of places, a record of names. -/
inductive ArgumentForm where
  | placed
  | named (key : String)
  | places
  | names

namespace ArgumentForm

/-- The form of the argument that comes next, and how many tokens say so. -/
def ofTokens : List Token → ArgumentForm × Nat
  | .sign "**" :: _ => (names, 1)
  | .sign "*" :: _ => (places, 1)
  | [.name s, .sign "="] => (named s, 2)
  | _ => (placed, 0)

/-- How far a list of arguments has come when it holds one of this form. -/
def stage : ArgumentForm → Nat
  | placed => 0
  | named _ => 1
  | places => 2
  | names => 3

/-- The last stage at which an argument of this form can follow. -/
def lastStage : ArgumentForm → Nat
  | placed => 0
  | named _ => 2
  | places => 1
  | names => 2

/-- The argument of a form. Lists and records are not supported. -/
def build (form : ArgumentForm) (e : Expr) : Expr :=
  match form with
  | placed => e
  | named key => .named key e
  | places => .unsupported "*" [e]
  | names => .unsupported "**" [e]

end ArgumentForm

/-- The arguments of a call, of which the opening bracket has been taken; `next` reads an
expression. -/
def arguments (next : Parser Expr) : Nat → Nat → Bool → Parser (List Expr)
  | 0, _, _ => unexpected
  | fuel + 1, stage, isFirst => do
    if ← skipSign ")" then return []
    else
      if !isFirst then takeSign ","
      if !isFirst && (← skipSign ")") then return []
      else
        let (form, taken) := ArgumentForm.ofTokens (← peekTwo)
        if form.lastStage < stage then throw "invalid syntax for function call expression"
        skip taken
        let argument := form.build (← next)
        return argument :: (← arguments next fuel (max stage form.stage) false)

/-- Whether a test has an operand that begins at the next token. -/
def atTestOperand : Parser Bool := do
  match ← peek with
  | some (.name s) => return s != "else" && s != "or" && s != "and"
  | some (.quote _) => return true
  | some (.number _) => return true
  | some (.sign s) => return s = "[" || s = "\x7b"
  | _ => return false

mutual

/-- An expression: operands with operators, and choices between such. -/
def expression : Nat → Parser Expr
  | 0 => unexpected
  | fuel + 1 => do
    let line ← nextLine
    conditions fuel line (← disjunction fuel)

/-- The conditions behind an expression that begins on a given line. -/
def conditions : Nat → Nat → Expr → Parser Expr
  | 0, _, e => return e
  | fuel + 1, line, e => do
    if ← skipName "if" then
      let condition ← disjunction fuel
      let otherwise ← if ← skipName "else" then expression fuel else pure (.void line)
      conditions fuel (← nextLine) (.choice condition e otherwise)
    else return e

/-- An expression that is no choice. -/
def disjunction : Nat → Parser Expr
  | 0 => unexpected
  | fuel + 1 => binary (negated fuel) fuel looseLevels

/-- A negation, or operands with the operators that bind tighter. -/
def negated : Nat → Parser Expr
  | 0 => unexpected
  | fuel + 1 => do
    if ← skipName "not" then return .negation (← negated fuel)
    else binary (unary true fuel) fuel tightLevels

/-- An operand with its signs, its members and, where they are admitted, its filters. -/
def unary (hasFilters : Bool) : Nat → Parser Expr
  | 0 => unexpected
  | fuel + 1 => do
    let e ←
      if ← skipSign "-" then pure (.signed true (← unary false fuel))
      else if ← skipSign "+" then pure (.signed false (← unary false fuel))
      else primary fuel
    let e ← members fuel e
    if hasFilters then filters fuel e else return e

/-- An atom, or expressions between brackets. -/
def primary : Nat → Parser Expr
  | 0 => unexpected
  | fuel + 1 => do
    if ← skipSign "(" then
      let e ← listed (expression fuel) true fuel
      takeSign ")"
      return e
    else if ← skipSign "[" then
      return .unsupported "[]" (← enclosed (expression fuel) "]" fuel true)
    else if ← skipSign "\x7b" then
      return .unsupported "\x7b\x7d" (← enclosed (entry fuel) "\x7d" fuel true)
    else atom fuel

/-- An entry of a record: two expressions and a colon between them. -/
def entry : Nat → Parser Expr
  | 0 => unexpected
  | fuel + 1 => do
    let key ← expression fuel
    takeSign ":"
    return .unsupported ":" [key, ← expression fuel]

/-- The members, places and calls that follow an expression. -/
def members : Nat → Expr → Parser Expr
  | 0, e => return e
  | fuel + 1, e => do
    if ← skipSign "." then members fuel (← pointed e)
    else if ← skipSign "[" then
      match ← enclosed (expression fuel) "]" fuel true with
      | [place] => members fuel (.item e place)
      | places => members fuel (.item e (.unsupported "," places))
    else if ← skipSign "(" then
      members fuel (.call e (← arguments (expression fuel) fuel 0 true))
    else return e

/-- The filters, tests and calls that follow an expression. -/
def filters : Nat → Expr → Parser Expr
  | 0, e => return e
  | fuel + 1, e => do
    if ← skipSign "|" then
      let name ← dottedName fuel (← anyName)
      let arguments ←
        if ← skipSign "(" then arguments (expression fuel) fuel 0 true else pure []
      filters fuel (.filter e name arguments)
    else if ← skipName "is" then
      let _ ← skipName "not"
      let name ← dottedName fuel (← anyName)
      let operands ←
        if ← skipSign "(" then arguments (expression fuel) fuel 0 true
        else if ← atTestOperand then
          if ← atName "is" then throw "You cannot chain multiple tests with is"
          let operand ← primary fuel
          pure [← members fuel operand]
        else pure []
      filters fuel (.unsupported ("is " ++ name) (e :: operands))
    else if ← skipSign "(" then
      filters fuel (.call e (← arguments (expression fuel) fuel 0 true))
    else return e

end

end Parser

end Nomenclator.Template
