import Nomenclator.Document.Reader
import Nomenclator.Text.CharacterName
import Nomenclator.Text.Quoted

/-!
# Quoted texts in templates

A text in a template stands between single or double quotes. Inside it a backslash begins an escape:
a letter for a control character, the code of a character in octal or hexadecimal digits, its name
in braces, or the end of a line, which joins the lines. A backslash in front of anything else stays.
A character beyond ASCII counts as the escape that would write it, so that a backslash in front of
it finds the backslash of that escape.

Two hexadecimal escapes for the halves of a pair of UTF-16 units stand for one character.
-/

namespace Nomenclator.Template

/-- The content of a text in quotes and what follows the closing quote. -/
def quoteContent? (mark : Char) : List Char → Option (List Char × List Char)
  | '\\' :: c :: rest => do
    let (content, rest) ← quoteContent? mark rest
    some ('\\' :: c :: content, rest)
  | c :: rest =>
    if c = mark then some ([], rest)
    else do
      let (content, rest) ← quoteContent? mark rest
      some (c :: content, rest)
  | [] => none

/-- The character that an escape of one letter stands for. -/
def letterEscapes : List (Char × Char) :=
  [('n', '\n'), ('t', '\t'), ('r', '\r'), ('\\', '\\'), ('\x27', '\x27'), ('\x22', '\x22'),
   ('a', '\x07'), ('b', '\x08'), ('f', '\x0c'), ('v', '\x0b')]

/-- How many hexadecimal digits follow the letter of an escape. -/
def codeLengths : List (Char × Nat) := [('x', 2), ('u', 4), ('U', 8)]

/-- A code of so many hexadecimal digits at the beginning of a text, and what follows it. -/
def hexCode? (width : Nat) (cs : List Char) : Option (Nat × List Char) :=
  let digits := cs.take width
  if digits.length < width then none else (Text.hexNumber? digits).map fun n => (n, cs.drop width)

/-- The problem with an escape that has too few digits. -/
def truncatedCode (letter : Char) (width : Nat) : String :=
  "truncated \\" ++ String.ofList (letter :: List.replicate width 'X') ++ " escape"

/-- The second half of a pair of units, written as an escape, and what follows it. -/
def lowUnit? (cs : List Char) : Option (Nat × List Char) :=
  match cs with
  | '\\' :: 'u' :: rest =>
    match hexCode? 4 rest with
    | some (n, rest) => if Document.isLowUnit n then some (n, rest) else none
    | none => none
  | _ => none

/-- The character of a code and what is left of the text behind it. -/
def charOfCode (n : Nat) (rest : List Char) : Except String (List Char × List Char) :=
  if 0x10ffff < n then .error "illegal Unicode character"
  else if Document.isHighUnit n then
    match lowUnit? rest with
    | some (low, rest) => .ok ([Document.joinUnits n low], rest)
    | none => .ok ([Document.unitChar n], rest)
  else .ok ([Document.unitChar n], rest)

/-- Whether a character is an octal digit. -/
def isOctalDigit (c : Char) : Bool := '0' ≤ c && c ≤ '7'

/-- The character of up to three octal digits. -/
def octalChar (digits : List Char) : Char :=
  Char.ofNat (digits.foldl (fun n c => 8 * n + (c.toNat - '0'.toNat)) 0)

/-- The character that is given by its name in braces, and what follows them. -/
def charOfName (rest : List Char) : Except String (List Char × List Char) :=
  match rest with
  | '\x7b' :: cs =>
    let name := cs.takeWhile (· ≠ '\x7d')
    if name.isEmpty || name.length = cs.length then .error "malformed \\N character escape"
    else match Text.namedChar? name with
      | some c => .ok ([c], cs.drop (name.length + 1))
      | none => .error "unknown Unicode character name"
  | _ => .error "malformed \\N character escape"

/-- The escape that writes a character beyond ASCII, without its backslash. -/
def escapeBody (c : Char) : List Char :=
  if c.toNat < 0x100 then 'x' :: Text.hexDigits 2 c.toNat
  else if c.toNat < 0x10000 then 'u' :: Text.hexDigits 4 c.toNat
  else 'U' :: Text.hexDigits 8 c.toNat

/-- What a backslash and a character stand for, and what is left of the text behind them. -/
def resolveEscape (c : Char) (rest : List Char) : Except String (List Char × List Char) :=
  if c = '\n' then .ok ([], rest)
  else if c = 'N' then charOfName rest
  else if isOctalDigit c then
    let more := (rest.take 2).takeWhile isOctalDigit
    .ok ([octalChar (c :: more)], rest.drop more.length)
  else match letterEscapes.lookup c, codeLengths.lookup c with
    | some e, _ => .ok ([e], rest)
    | none, some width =>
      match hexCode? width rest with
      | some (n, rest) => charOfCode n rest
      | none => .error (truncatedCode c width)
    | none, none => .ok ('\\' :: if c.toNat < 128 then [c] else escapeBody c, rest)

/-- The content of a text in quotes with its escapes resolved; every step takes at least one of at
most `fuel` characters. -/
def resolveFrom : Nat → List Char → Except String (List Char)
  | 0, _ => .ok []
  | fuel + 1, cs =>
    match cs with
    | [] => .ok []
    | '\\' :: c :: rest => do
      let (found, rest) ← resolveEscape c rest
      return found ++ (← resolveFrom fuel rest)
    | c :: rest => do return c :: (← resolveFrom fuel rest)

/-- The content of a text in quotes with its escapes resolved. -/
def resolveEscapes (content : List Char) : Except String (List Char) :=
  resolveFrom content.length content

end Nomenclator.Template
