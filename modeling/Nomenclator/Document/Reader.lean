import Nomenclator.Text.Digit
import Nomenclator.Value

/-!
# Reading JSON documents

`Document.read` takes a text to the value it writes down. It accepts standard JSON and the three
numbers `NaN`, `Infinity` and `-Infinity`, keeps the order of fields, and lets the last of several
fields of one name win at the place of the first.

A text that is no document is refused with the place where reading stopped and what was expected
there. Internally a place is the number of characters from it to the end of the text, which is what
a reader that only sees the rest of the text knows; `complaintMessage` turns it into line, column
and offset.

Two texts that are no less well written are not read either. A whole number may have so many digits
and no more, and brackets may nest only as deep as the reader has room: how deep that is depends on
where it is called, so the room is given with the text. A bracket for which there is no room ends
the reading at once, whatever follows it.

The mutual recursion of values, items and fields runs on a bound that `read` computes from the
length of the text: two calls are enough for every character.
-/

namespace Nomenclator.Document

/-- What was expected, or found wrong, at a place. -/
inductive Complaint where
  | value
  | propertyName
  | colon
  | comma
  | extraData
  | unterminated
  | controlCharacter
  | escape
  | unicodeEscape
  | byteOrderMark
  deriving DecidableEq, Repr

/-- The wording of a complaint. -/
def Complaint.wording : Complaint → String
  | value => "Expecting value"
  | propertyName => "Expecting property name enclosed in double quotes"
  | colon => "Expecting ':' delimiter"
  | comma => "Expecting ',' delimiter"
  | extraData => "Extra data"
  | unterminated => "Unterminated string starting at"
  | controlCharacter => "Invalid control character at"
  | escape => "Invalid \\escape"
  | unicodeEscape => "Invalid \\uXXXX escape"
  | byteOrderMark => "Unexpected UTF-8 BOM (decode using utf-8-sig)"

/-- Why a text could not be read. -/
inductive ReadError where
  /-- The text is no document; `remaining` characters follow the fault, its own included. -/
  | malformed (complaint : Complaint) (remaining : Nat)
  /-- A whole number has more digits than are converted. -/
  | integerTooLong
  /-- A bracket opens for which there is no room. -/
  | nestedTooDeep
  deriving DecidableEq, Repr

/-- A place in a text: lines and columns count from one, the offset from zero. -/
structure Position where
  line : Nat
  column : Nat
  offset : Nat
  deriving DecidableEq, Repr

/-- The place that `offset` characters precede. -/
def Position.ofOffset (cs : List Char) (offset : Nat) : Position :=
  let before := cs.take offset
  { line := before.count '\n' + 1
    column := (before.reverse.takeWhile (· ≠ '\n')).length + 1
    offset := offset }

/-- A complaint with its place in the text. -/
def Complaint.message (complaint : Complaint) (place : Position) : String :=
  complaint.wording ++ ": line " ++ toString place.line ++ " column " ++ toString place.column
    ++ " (char " ++ toString place.offset ++ ")"

/-- White space between the parts of a document. -/
def isSpace (c : Char) : Bool := c = ' ' || c = '\t' || c = '\n' || c = '\r'

/-- The text from its first character that is not white space. -/
def skipSpace (cs : List Char) : List Char := cs.dropWhile isSpace

/-- A complaint at the beginning of `rest`. -/
def failAt {α : Type} (complaint : Complaint) (rest : List Char) :
    Except ReadError (α × List Char) :=
  .error (.malformed complaint rest.length)

/-! ## Texts -/

/-- The character that a backslash and `c` stand for. -/
def simpleEscape? (c : Char) : Option Char :=
  match c with
  | '\x22' => some '\x22'
  | '\\' => some '\\'
  | '/' => some '/'
  | 'b' => some '\x08'
  | 'f' => some '\x0c'
  | 'n' => some '\n'
  | 'r' => some '\r'
  | 't' => some '\t'
  | _ => none

/-- The number that four hexadecimal digits write. -/
def hexQuad? (a b c d : Char) : Option Nat := do
  let a ← Text.hexDigit? a
  let b ← Text.hexDigit? b
  let c ← Text.hexDigit? c
  let d ← Text.hexDigit? d
  return ((a * 16 + b) * 16 + c) * 16 + d

/-- The first half of a pair of UTF-16 units. -/
def isHighUnit (n : Nat) : Bool := 0xd800 ≤ n && n < 0xdc00

/-- The second half of a pair of UTF-16 units. -/
def isLowUnit (n : Nat) : Bool := 0xdc00 ≤ n && n < 0xe000

/-- The character of a pair of UTF-16 units. -/
def joinUnits (high low : Nat) : Char :=
  Char.ofNat (0x10000 + (high - 0xd800) * 0x400 + (low - 0xdc00))

/-- The character of one UTF-16 unit. Half a pair is no character, and texts hold nothing else;
every such half is read as the replacement character, so texts that differ in their halves only are
read as the same text, and fields with such names as one field. -/
def unitChar (n : Nat) : Char :=
  if isHighUnit n || isLowUnit n then '\ufffd' else Char.ofNat n

/-- A read text with one more character in front. -/
def withChar (c : Char) :
    Except ReadError (List Char × List Char) → Except ReadError (List Char × List Char)
  | .ok (s, rest) => .ok (c :: s, rest)
  | .error e => .error e

/-- The characters up to the closing quote. `opening` is the place of the opening one, which an
unclosed text is reported at. An escape by code must be followed by at least one more character,
and so must the second half of a pair for the two to be joined. -/
def readText (opening : Nat) : List Char → Except ReadError (List Char × List Char)
  | [] => .error (.malformed .unterminated opening)
  | '\x22' :: rest => .ok ([], rest)
  | '\\' :: 'u' :: a :: b :: c :: d :: rest =>
    match rest, hexQuad? a b c d with
    | [], _ => failAt .unicodeEscape ('u' :: a :: b :: c :: d :: rest)
    | _, none => failAt .unicodeEscape ('u' :: a :: b :: c :: d :: rest)
    | '\\' :: 'u' :: e :: f :: g :: h :: after, some high =>
      let second := 'u' :: e :: f :: g :: h :: after
      if isHighUnit high && !after.isEmpty then
        match hexQuad? e f g h with
        | none => failAt .unicodeEscape second
        | some low =>
          if isLowUnit low then withChar (joinUnits high low) (readText opening after)
          else withChar (unitChar high) (readText opening ('\\' :: second))
      else withChar (unitChar high) (readText opening ('\\' :: second))
    | rest, some unit => withChar (unitChar unit) (readText opening rest)
  | '\\' :: 'u' :: rest => failAt .unicodeEscape ('u' :: rest)
  | ['\\'] => .error (.malformed .unterminated opening)
  | '\\' :: c :: rest =>
    match simpleEscape? c with
    | some x => withChar x (readText opening rest)
    | none => failAt .escape ('\\' :: c :: rest)
  | c :: rest =>
    if c.toNat < 0x20 then failAt .controlCharacter (c :: rest)
    else withChar c (readText opening rest)

/-! ## Numbers -/

/-- The natural number that decimal digits write. -/
def digitsValue (ds : List Char) : Nat := ds.foldl (fun n d => 10 * n + (d.toNat - '0'.toNat)) 0

/-- The digits after a point, if there are any. -/
def readFraction (cs : List Char) : Option (List Char) × List Char :=
  match cs with
  | '.' :: rest =>
    let ds := rest.takeWhile Char.isDigit
    if ds.isEmpty then (none, cs) else (some ds, rest.dropWhile Char.isDigit)
  | _ => (none, cs)

/-- The exponent after its mark, if digits follow. -/
def readExponent (cs : List Char) : Option Int × List Char :=
  match cs with
  | mark :: rest =>
    if mark = 'e' ∨ mark = 'E' then
      let (negative, rest) : Bool × List Char := match rest with
        | '-' :: r => (true, r)
        | '+' :: r => (false, r)
        | r => (false, r)
      let ds := rest.takeWhile Char.isDigit
      if ds.isEmpty then (none, cs)
      else
        let n : Int := digitsValue ds
        (some (if negative then -n else n), rest.dropWhile Char.isDigit)
    else (none, cs)
  | [] => (none, cs)

/-- A number whose sign and whole part have been read. With a fraction or an exponent it is a
floating-point number, otherwise a whole one. -/
def readTail (negative : Bool) (whole rest : List Char) : Except ReadError (Value × List Char) :=
  let (fraction, rest) := readFraction rest
  let (exponent, rest) := readExponent rest
  match fraction, exponent with
  | none, none =>
    if maxIntegerDigits < whole.length then .error .integerTooLong
    else
      let n : Int := digitsValue whole
      .ok (.int (if negative then -n else n), rest)
  | _, _ =>
    let fraction := fraction.getD []
    let power := exponent.getD 0 - fraction.length
    .ok (.real (Binary64.ofDecimal negative (digitsValue (whole ++ fraction)) power), rest)

/-- A number: an optional sign, then `0` or digits that do not start with it. -/
def readNumber (cs : List Char) : Except ReadError (Value × List Char) :=
  let (negative, body) : Bool × List Char := match cs with
    | '-' :: rest => (true, rest)
    | _ => (false, cs)
  match body with
  | '0' :: rest => readTail negative ['0'] rest
  | c :: rest =>
    if c.isDigit then
      readTail negative (c :: rest.takeWhile Char.isDigit) (rest.dropWhile Char.isDigit)
    else failAt .value cs
  | [] => failAt .value cs

/-- A value that no quote or bracket opens: a word or a number. -/
def readScalar (cs : List Char) : Except ReadError (Value × List Char) :=
  match cs with
  | 'n' :: 'u' :: 'l' :: 'l' :: rest => .ok (.null, rest)
  | 't' :: 'r' :: 'u' :: 'e' :: rest => .ok (.bool true, rest)
  | 'f' :: 'a' :: 'l' :: 's' :: 'e' :: rest => .ok (.bool false, rest)
  | 'N' :: 'a' :: 'N' :: rest => .ok (.real .nan, rest)
  | 'I' :: 'n' :: 'f' :: 'i' :: 'n' :: 'i' :: 't' :: 'y' :: rest =>
    .ok (.real (.infinite false), rest)
  | '-' :: 'I' :: 'n' :: 'f' :: 'i' :: 'n' :: 'i' :: 't' :: 'y' :: rest =>
    .ok (.real (.infinite true), rest)
  | _ => readNumber cs

/-! ## Values, items and fields -/

mutual

/-- A value at the beginning of the text, in whose brackets others may be nested as deep as there is
room. -/
def readValue : Nat → Nat → List Char → Except ReadError (Value × List Char)
  | 0, _, cs => failAt .value cs
  | fuel + 1, room, cs =>
    match cs, room with
    | '\x22' :: rest, _ => do
      let (s, r) ← readText cs.length rest
      return (.text (String.ofList s), r)
    | '[' :: _, 0 => .error .nestedTooDeep
    | '[' :: rest, room + 1 =>
      match skipSpace rest with
      | ']' :: r => .ok (.list [], r)
      | r => do
        let (items, r) ← readItems fuel room r
        return (.list items, r)
    | '\x7b' :: _, 0 => .error .nestedTooDeep
    | '\x7b' :: rest, room + 1 =>
      match skipSpace rest with
      | '\x7d' :: r => .ok (.record [], r)
      | r => do
        let (fields, r) ← readFields fuel room r
        return (.record (Table.ofEntries fields), r)
    | _, _ => readScalar cs

/-- The items of a list up to its bracket; at least one is expected. -/
def readItems : Nat → Nat → List Char → Except ReadError (List Value × List Char)
  | 0, _, cs => failAt .value cs
  | fuel + 1, room, cs => do
    let (v, r) ← readValue fuel room cs
    match skipSpace r with
    | ']' :: r => return ([v], r)
    | ',' :: r =>
      let (vs, r) ← readItems fuel room (skipSpace r)
      return (v :: vs, r)
    | r => failAt .comma r

/-- The fields of a record up to its brace, as written; at least one is expected. -/
def readFields : Nat → Nat → List Char → Except ReadError (List (String × Value) × List Char)
  | 0, _, cs => failAt .propertyName cs
  | fuel + 1, room, cs =>
    match cs with
    | '\x22' :: rest => do
      let (key, r) ← readText cs.length rest
      match skipSpace r with
      | ':' :: r =>
        let (v, r) ← readValue fuel room (skipSpace r)
        let field := (String.ofList key, v)
        match skipSpace r with
        | '\x7d' :: r => return ([field], r)
        | ',' :: r =>
          let (fields, r) ← readFields fuel room (skipSpace r)
          return (field :: fields, r)
        | r => failAt .comma r
      | r => failAt .colon r
    | _ => failAt .propertyName cs

end

/-- The value that a whole text writes down. -/
def readChars (room : Nat) (cs : List Char) : Except ReadError Value :=
  match cs with
  | '\ufeff' :: _ => .error (.malformed .byteOrderMark cs.length)
  | _ => do
    let (v, r) ← readValue (2 * cs.length + 2) room (skipSpace cs)
    match skipSpace r with
    | [] => return v
    | rest => .error (.malformed .extraData rest.length)

/-- The value that a text writes down, read with so much room for nesting. -/
def read (room : Nat) (s : String) : Except ReadError Value := readChars room s.toList

/-- The message of a complaint about a text, at the place that `remaining` characters follow. -/
def complaintMessage (s : String) (complaint : Complaint) (remaining : Nat) : String :=
  complaint.message (Position.ofOffset s.toList (s.toList.length - remaining))

end Nomenclator.Document
