import Nomenclator.Template.Numeral
import Nomenclator.Template.Quotation
import Nomenclator.Text.Blank
import Nomenclator.Text.Name

/-!
# Tokens of a template

A template is text with three kinds of inserts: print statements `{{ … }}`, statement blocks `{% …
%}` and comments `{# … #}`. `Token.scan` cuts a template into the text around the inserts and the
tokens inside them.

A line that holds nothing in front of a statement or a comment but white space loses the white
space, and a line feed directly behind a statement or a comment is dropped. A sign at the edge of an
insert changes this: a minus drops all white space on its side, a plus keeps what would be dropped.
An insert ends at its closing mark only where no bracket is open.

What cannot be cut is a token of its own, `broken`, and the last one: a reader of the tokens fails
when it gets there and not before, so the first problem of a template is the one that is reported.

Every token comes with the line on which it begins. Line feeds are counted where they are taken: in
text and comments, in quotes, and in the white space around the marks of an insert.
-/

namespace Nomenclator.Template

/-- A token. -/
inductive Token where
  | text (s : String)
  | openPrint
  | closePrint
  | openTag
  | closeTag
  | name (s : String)
  | quote (s : String)
  | number (v : Value)
  | sign (s : String)
  | broken (problem : String)

/-- A token at its place. -/
structure Lexeme where
  token : Token
  line : Nat

namespace Token

/-- What a token is called in messages. -/
def label : Token → String
  | text _ => "template data / text"
  | openPrint => "begin of print statement"
  | closePrint => "end of print statement"
  | openTag => "begin of statement block"
  | closeTag => "end of statement block"
  | name s => s
  | quote _ => "string"
  | number (.real _) => "float"
  | number _ => "integer"
  | sign s => s
  | broken _ => "error"

/-! ## Text around the inserts -/

/-- The kinds of insert. -/
inductive Insert where
  | print
  | tag
  | comment
  deriving DecidableEq

/-- The text up to the first insert, the kind of the insert and what follows its opening mark. -/
def splitText : List Char → List Char × Option (Insert × List Char)
  | '\x7b' :: '\x7b' :: rest => ([], some (.print, rest))
  | '\x7b' :: '%' :: rest => ([], some (.tag, rest))
  | '\x7b' :: '#' :: rest => ([], some (.comment, rest))
  | c :: rest =>
    let (before, insert) := splitText rest
    (c :: before, insert)
  | [] => ([], none)

/-- What happens to the white space on one side of an insert. -/
inductive Edge where
  /-- It goes with the rest of its line if that is blank. -/
  | line
  /-- All of it goes. -/
  | strip
  /-- It stays. -/
  | keep
  deriving DecidableEq

/-- The edge at the beginning of a text, and what follows its sign. -/
def openingEdge : List Char → Edge × List Char
  | '-' :: rest => (.strip, rest)
  | '+' :: rest => (.keep, rest)
  | rest => (.line, rest)

/-- A text without the white space at its end. -/
def trimEnd (cs : List Char) : List Char := (cs.reverse.dropWhile Text.isBlankChar).reverse

/-- A text without the white space at its beginning. -/
def trimStart (cs : List Char) : List Char := cs.dropWhile Text.isBlankChar

/-- The text without the white space that begins its last line, if that is all the line holds.
`lineStart` says that the text begins a line. -/
def trimIndent (lineStart : Bool) (cs : List Char) : List Char :=
  let indent := (cs.reverse.takeWhile (· ≠ '\n')).reverse
  let before := cs.take (cs.length - indent.length)
  if (lineStart || !before.isEmpty) && Text.isBlank indent then before else cs

/-- What is left of the text in front of an insert. -/
def trimBefore (lineStart : Bool) (insert : Insert) (edge : Edge) (cs : List Char) : List Char :=
  match edge with
  | .strip => trimEnd cs
  | .keep => cs
  | .line => if insert = .print then cs else trimIndent lineStart cs

/-- The token of a text, which is none when the text is empty. -/
def ofText (cs : List Char) : List Token := if cs.isEmpty then [] else [text (String.ofList cs)]

/-- The line feeds of a text. -/
def lineFeeds (cs : List Char) : Nat := cs.countP (· = '\n')

/-- The line feeds of the white space at the beginning of a text. -/
def leadingLineFeeds (cs : List Char) : Nat := lineFeeds (cs.takeWhile Text.isBlankChar)

/-- Where a text goes on behind a comment or a statement: whether a line begins there, how many line
feeds were taken, and what follows. -/
structure Resumption where
  lineStart : Bool
  lineFeeds : Nat
  rest : List Char

/-- A text that goes on behind a mark in the middle of a line. -/
def resumeInLine (rest : List Char) : Resumption := ⟨false, 0, rest⟩

/-- A text that goes on behind a mark that drops the line feed which follows it. -/
def resumeDroppingLine (rest : List Char) : Resumption :=
  match rest with
  | '\n' :: rest => ⟨true, 1, rest⟩
  | rest => resumeInLine rest

/-- A text that goes on behind a mark that drops all white space which follows it. -/
def resumeDroppingBlank (rest : List Char) : Resumption :=
  ⟨false, leadingLineFeeds rest, trimStart rest⟩

/-- Where the text goes on behind a comment. -/
def skipComment : List Char → Option Resumption
  | '+' :: '#' :: '\x7d' :: rest => some (resumeInLine rest)
  | '-' :: '#' :: '\x7d' :: rest => some (resumeDroppingBlank rest)
  | '#' :: '\x7d' :: rest => some (resumeDroppingLine rest)
  | c :: rest => (skipComment rest).map fun found =>
    if c = '\n' then { found with lineFeeds := found.lineFeeds + 1 } else found
  | [] => none

/-! ## Inside an insert -/

/-- The signs, the longer ones first. -/
def signs : List String :=
  ["//", "**", "==", "!=", ">=", "<=", "+", "-", "/", "*", "%", "~", "[", "]", "(", ")", "\x7b",
   "\x7d", ">", "<", "=", ".", ":", "|", ",", ";"]

/-- The sign at the beginning of a text. -/
def sign? (cs : List Char) : Option String := signs.find? fun s => s.toList.isPrefixOf cs

/-- A token at the beginning of a text: how many line feeds it holds, and what follows it. -/
structure Cut where
  token : Token
  lineFeeds : Nat := 0
  rest : List Char

/-- The text in quotes at the beginning of a text. -/
def quote? (cs : List Char) : Option Cut :=
  match cs with
  | mark :: rest =>
    if mark = Text.singleQuote || mark = Text.doubleQuote then
      (quoteContent? mark rest).map fun (content, rest) =>
        let token := match resolveEscapes content with
          | .ok cs => quote (String.ofList cs)
          | .error problem => broken problem
        { token, lineFeeds := lineFeeds content, rest }
    else none
  | [] => none

/-- The problem with a whole number in too many decimal digits. -/
def tooManyDigits (count : Nat) : String :=
  "Exceeds the limit (" ++ toString maxIntegerDigits
    ++ " digits) for integer string conversion: value has " ++ toString count
    ++ " digits; use sys.set_int_max_str_digits() to increase the limit"

/-- The token of a number with the characters that write it. -/
def ofNumber (v : Value) (written : List Char) : Token :=
  match v with
  | .int _ =>
    let digits := written.countP Text.isDecimalDigit
    if (radixNumber? written).isNone && maxIntegerDigits < digits then
      broken (tooManyDigits digits)
    else number v
  | _ =>
    match realProblem? written with
    | some problem => broken problem
    | none => number v

/-- The word at the beginning of a text, which may be a name, a number or a text in quotes. -/
def word? (afterPoint : Bool) (cs : List Char) : Option Cut :=
  match number? afterPoint cs with
  | some (v, rest) => some { token := ofNumber v (cs.take (cs.length - rest.length)), rest }
  | none =>
    let found := cs.takeWhile Text.isInWord
    let rest := cs.drop found.length
    if found.isEmpty then quote? cs
    else if Text.isName found then some { token := name (String.ofList found), rest }
    else some { token := broken "Invalid character in identifier", rest }

/-- The closing bracket of an opening one. -/
def brackets : List (String × String) := [("(", ")"), ("[", "]"), ("\x7b", "\x7d")]

/-- The brackets that are open behind a sign, the innermost first. -/
def openBrackets (pending : List String) (s : String) : Except String (List String) :=
  match brackets.lookup s with
  | some closing => .ok (closing :: pending)
  | none =>
    if brackets.any fun pair => pair.2 = s then
      match pending with
      | [] => .error ("unexpected '" ++ s ++ "'")
      | expected :: outer =>
        if expected = s then .ok outer
        else .error ("unexpected '" ++ s ++ "', expected '" ++ expected ++ "'")
    else .ok pending

/-- The token that closes an insert at the beginning of a text, and where the text goes on. -/
def close? (isTag : Bool) (cs : List Char) : Option (Token × Resumption) :=
  match isTag, cs with
  | true, '+' :: '%' :: '\x7d' :: rest => some (closeTag, resumeInLine rest)
  | true, '-' :: '%' :: '\x7d' :: rest => some (closeTag, resumeDroppingBlank rest)
  | true, '%' :: '\x7d' :: rest => some (closeTag, resumeDroppingLine rest)
  | false, '-' :: '\x7d' :: '\x7d' :: rest => some (closePrint, resumeDroppingBlank rest)
  | false, '\x7d' :: '\x7d' :: rest => some (closePrint, resumeInLine rest)
  | _, _ => none

/-! ## The whole template -/

/-- Where in a template a scan stands. -/
inductive Place where
  /-- In the text around the inserts. -/
  | outside (lineStart : Bool)
  /-- In an insert, directly behind a point or not, with brackets open. -/
  | inside (isTag afterPoint : Bool) (pending : List String)

/-- The message for a character that begins no token; `position` counts from the beginning of the
template. -/
def unexpectedChar (c : Char) (position : Nat) : String :=
  "unexpected char " ++ Text.quotedText (String.singleton c) ++ " at " ++ toString position

/-- The tokens of what is left of a template of `size` characters, from a given line on. Each step
takes at least one character. -/
def scanFrom (size : Nat) : Nat → Place → Nat → List Char → List Lexeme
  | 0, _, _, _ => []
  | _, _, _, [] => []
  | fuel + 1, .outside lineStart, line, cs =>
    match splitText cs with
    | (before, none) => (ofText before).map (⟨·, line⟩)
    | (before, some (insert, rest)) =>
      let (edge, rest) := openingEdge rest
      let next := line + lineFeeds before
      (ofText (trimBefore lineStart insert edge before)).map (⟨·, line⟩) ++
        match insert with
        | .print => ⟨openPrint, next⟩ :: scanFrom size fuel (.inside false false []) next rest
        | .tag => ⟨openTag, next⟩ :: scanFrom size fuel (.inside true false []) next rest
        | .comment =>
          match skipComment rest with
          | some found =>
            scanFrom size fuel (.outside found.lineStart) (next + found.lineFeeds) found.rest
          | none => if rest.isEmpty then [] else [⟨broken "Missing end of comment tag", next⟩]
  | fuel + 1, .inside isTag afterPoint pending, line, c :: cs =>
    match if pending.isEmpty then close? isTag (c :: cs) else none with
    | some (token, found) =>
      ⟨token, line⟩
        :: scanFrom size fuel (.outside found.lineStart) (line + found.lineFeeds) found.rest
    | none =>
      if Text.isBlankChar c then
        let next := if c = '\n' then line + 1 else line
        scanFrom size fuel (.inside isTag false pending) next cs
      else match word? afterPoint (c :: cs) with
        | some found =>
          let next := line + found.lineFeeds
          ⟨found.token, line⟩ :: scanFrom size fuel (.inside isTag false pending) next found.rest
        | none =>
          match sign? (c :: cs) with
          | none => [⟨broken (unexpectedChar c (size - (cs.length + 1))), line⟩]
          | some s =>
            match openBrackets pending s with
            | .error problem => [⟨broken problem, line⟩]
            | .ok pending =>
              let rest := (c :: cs).drop s.length
              ⟨sign s, line⟩ :: scanFrom size fuel (.inside isTag (s = ".") pending) line rest

/-- The tokens of a template. -/
def scan (source : String) : List Lexeme :=
  let cs := Text.unifyLineEnds source.toList
  scanFrom cs.length (cs.length + 1) (.outside true) 1 cs

end Token

end Nomenclator.Template
