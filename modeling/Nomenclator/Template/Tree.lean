import Nomenclator.Template.Expression

/-!
# Statements of a template

`parse` makes statements of the tokens of a template. A statement is a stretch of text, a value that
is printed, a choice or a loop; further conditions of a choice are choices in its other branch, and
a loop may have a condition for its items.

Blocks nest, and what may end the innermost open block is known while it is read: an unknown
statement, or the end of the template, is reported with the endings that were looked for.
-/

namespace Nomenclator.Template

/-- A statement. -/
inductive Node where
  | text (s : String)
  | print (e : Expr)
  | choice (condition : Expr) (body otherwise : List Node)
  | loop (item : String) (source : Expr) (condition : Option Expr) (body otherwise : List Node)
  deriving Inhabited

namespace Parser

/-! ## The parts of statements -/

/-- Takes the end of a print statement. -/
def endPrint : Parser Unit := do
  match ← peek with
  | some .closePrint => advance
  | _ => missing Token.closePrint.label

/-- Takes the end of a statement. -/
def endTag : Parser Unit := do
  match ← peek with
  | some .closeTag => advance
  | _ => missing Token.closeTag.label

/-- An expression where a list of them may stand. -/
def subject (fuel : Nat) : Parser Expr := listed (expression fuel) false fuel

/-- An expression that is no choice, where a list of such may stand. -/
def source (fuel : Nat) : Parser Expr := listed (disjunction fuel) false fuel

/-! ## Statements -/

/-- What is open around a statement, the innermost first. -/
structure Surroundings where
  /-- The names that end the open blocks. -/
  endings : List (List String) := []
  /-- The statements that opened them. -/
  tags : List String := []

/-- The names that end a block, as messages list them. -/
def namesListed (names : List String) : String := " or ".intercalate (names.map Text.quotedText)

/-- The message for a statement of a given name, or for the end of the template, at a place where
neither is possible. -/
def misplaced (around : Surroundings) (name : Option String) : String :=
  let what := match name with
    | some s => "Encountered unknown tag " ++ Text.quotedText s ++ "."
    | none => "Unexpected end of template."
  let elsewhere := match name with
    | some s => around.endings.any fun names => names.contains s
    | none => false
  let looking := match around.endings.head? with
    | none => ""
    | some names =>
      (if elsewhere then
        " You probably made a nesting mistake."
          ++ " Jinja is expecting this tag, but currently looking for "
      else " Jinja was looking for the following tags: ") ++ namesListed names ++ "."
  let innermost := match around.tags.head? with
    | none => ""
    | some tag => " The innermost block that needs to be closed is " ++ Text.quotedText tag ++ "."
  what ++ looking ++ innermost

/-- The name that a loop gives to its items. -/
def loopItem (fuel : Nat) : Parser String := do
  match ← listed (primary fuel) false fuel with
  | .name s => return s
  | .literal _ => throw "can't assign to 'const'"
  | .unsupported "[]" _ => throw "can't assign to 'list'"
  | .unsupported "\x7b\x7d" _ => throw "can't assign to 'dict'"
  | _ => throw "can't assign to 'tuple'"

mutual

/-- The statements up to the end of the template, or up to a name that ends the innermost block,
which is left to be taken. -/
def statements (around : Surroundings) : Nat → Parser (List Node)
  | 0 => unexpected
  | fuel + 1 => do
    match ← peek with
    | none => return []
    | some (.text s) =>
      advance
      return .text s :: (← statements around fuel)
    | some .openPrint =>
      advance
      let e ← subject fuel
      endPrint
      return .print e :: (← statements around fuel)
    | some .openTag =>
      advance
      match ← peek with
      | some (.name s) =>
        if (around.endings.headD []).contains s then return []
        else
          let node ← statement around s fuel
          endTag
          return node :: (← statements around fuel)
      | _ => throw "tag name expected"
    | _ => unexpected

/-- The statement that begins with a given name. -/
def statement (around : Surroundings) (name : String) : Nat → Parser Node
  | 0 => unexpected
  | fuel + 1 =>
    if name = "if" then do
      advance
      choice { around with tags := name :: around.tags } fuel
    else if name = "for" then do
      advance
      let around := { around with tags := name :: around.tags }
      let item ← loopItem fuel
      takeName "in"
      let source ← source fuel
      let condition ← if ← skipName "if" then some <$> expression fuel else pure none
      let _ ← skipName "recursive"
      let body ← block around ["endfor", "else"] fuel
      let otherwise ← if ← skipName "else" then block around ["endfor"] fuel else pure []
      advance
      return .loop item source condition body otherwise
    else throw (misplaced around (some name))

/-- A choice from its condition on, up to the name that ends it. -/
def choice (around : Surroundings) : Nat → Parser Node
  | 0 => unexpected
  | fuel + 1 => do
    let condition ← source fuel
    let body ← block around ["elif", "else", "endif"] fuel
    if ← skipName "elif" then return .choice condition body [← choice around fuel]
    else
      let otherwise ← if ← skipName "else" then block around ["endif"] fuel else pure []
      advance
      return .choice condition body otherwise

/-- The statements of a block up to one of the names that end it. -/
def block (around : Surroundings) (endings : List String) : Nat → Parser (List Node)
  | 0 => unexpected
  | fuel + 1 => do
    let _ ← skipSign ":"
    endTag
    let inner := { around with endings := endings :: around.endings }
    let body ← statements inner fuel
    if (← peek).isNone then throw (misplaced inner none) else return body

end

end Parser

/-- The statements of a template. Every step of the parser takes a token or is one of a few that
lead to the next one, so the number of tokens bounds the depth. -/
def parse (source : String) : Except String (List Node) :=
  match Token.scan source with
  | ⟨.broken problem, _⟩ :: _ => .error problem
  | tokens => ((Parser.statements {} (8 * tokens.length + 16)).run tokens).map Prod.fst

end Nomenclator.Template
