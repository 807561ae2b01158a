import Nomenclator.Document.Reader
import Nomenclator.Text.Digit
import Nomenclator.Text.Quoted

/-!
# Numerals in templates

A numeral is a run of digits in which single underscores may stand between two digits. A whole
number does not begin with a zero unless it is all zeros, or a letter behind the zero names another
radix. With a fraction, an exponent or both a decimal numeral is a floating-point number; directly
behind a point it never is, so that a place can follow a name.

Digits of any script count as decimal digits, in radix 16 too, but the first digit of a whole number
is an ASCII one. A floating-point number with other digits is taken as a numeral and then refused.
-/

namespace Nomenclator.Template

/-- The digits of a run that continues, and what follows it. -/
def moreDigits : List Char → List Char × List Char
  | '_' :: c :: cs =>
    if Text.isDecimalDigit c then
      let (digits, rest) := moreDigits cs
      (c :: digits, rest)
    else ([], '_' :: c :: cs)
  | c :: cs =>
    if Text.isDecimalDigit c then
      let (digits, rest) := moreDigits cs
      (c :: digits, rest)
    else ([], c :: cs)
  | [] => ([], [])

/-- The digits of a run and what follows it. -/
def digitRun (cs : List Char) : List Char × List Char :=
  match cs with
  | c :: _ => if Text.isDecimalDigit c then moreDigits cs else ([], cs)
  | [] => ([], [])

/-- The digits of a fraction, where there is one. -/
def fractionDigits (cs : List Char) : List Char × List Char :=
  match cs with
  | '.' :: rest =>
    match digitRun rest with
    | ([], _) => ([], cs)
    | found => found
  | _ => ([], cs)

/-- The value of an exponent, where there is one. -/
def exponentValue? (cs : List Char) : Option (Int × List Char) :=
  match cs with
  | e :: rest =>
    if e = 'e' || e = 'E' then
      let (negative, rest) := match rest with
        | '+' :: rest => (false, rest)
        | '-' :: rest => (true, rest)
        | rest => (false, rest)
      match digitRun rest with
      | ([], _) => none
      | (digits, rest) =>
        let n : Int := Text.decimalValue digits
        some (if negative then -n else n, rest)
    else none
  | [] => none

/-- The radix that a letter behind a zero names. -/
def radixOf? (c : Char) : Option Nat :=
  if c = 'b' || c = 'B' then some 2
  else if c = 'o' || c = 'O' then some 8
  else if c = 'x' || c = 'X' then some 16
  else none

/-- The value of a digit of a radix. -/
def digitOf? (radix : Nat) (c : Char) : Option Nat :=
  match Text.hexDigit? c with
  | some d => if d < radix then some d else none
  | none => if radix = 16 then Text.digitValue? c else none

/-- The digits of a radix at the beginning of a text, with an underscore in front of any of them,
and what follows. -/
def radixDigits (radix : Nat) : List Char → List Nat × List Char
  | '_' :: c :: cs =>
    match digitOf? radix c with
    | some d =>
      let (digits, rest) := radixDigits radix cs
      (d :: digits, rest)
    | none => ([], '_' :: c :: cs)
  | c :: cs =>
    match digitOf? radix c with
    | some d =>
      let (digits, rest) := radixDigits radix cs
      (d :: digits, rest)
    | none => ([], c :: cs)
  | [] => ([], [])

/-- A whole number of another radix at the beginning of a text. -/
def radixNumber? (cs : List Char) : Option (Value × List Char) :=
  match cs with
  | '0' :: letter :: rest =>
    match radixOf? letter with
    | none => none
    | some radix =>
      match radixDigits radix rest with
      | ([], _) => none
      | (digits, rest) => some (.int (digits.foldl (fun n d => radix * n + d) 0 : Nat), rest)
  | _ => none

/-- What follows the zeros of a run that continues. -/
def dropZeros : List Char → List Char
  | '_' :: '0' :: cs => dropZeros cs
  | '0' :: cs => dropZeros cs
  | cs => cs

/-- A whole number in decimal digits at the beginning of a text. -/
def decimalNumber? (cs : List Char) : Option (Value × List Char) :=
  match cs with
  | '0' :: rest => some (.int 0, dropZeros rest)
  | c :: _ =>
    if c.isDigit then
      let (digits, rest) := moreDigits cs
      some (.int (Text.decimalValue digits), rest)
    else none
  | [] => none

/-- A whole number at the beginning of a text. -/
def wholeNumber? (cs : List Char) : Option (Value × List Char) :=
  match radixNumber? cs with
  | some found => some found
  | none => decimalNumber? cs

/-- A floating-point number at the beginning of a text. -/
def realNumber? (cs : List Char) : Option (Value × List Char) :=
  match digitRun cs with
  | ([], _) => none
  | (whole, rest) =>
    let (fraction, rest) := fractionDigits rest
    let number (exponent : Int) : Value :=
      let digits := Text.decimalValue (whole ++ fraction)
      .real (.ofDecimal false digits (exponent - fraction.length))
    match exponentValue? rest with
    | some (exponent, rest) => some (number exponent, rest)
    | none => if fraction.isEmpty then none else some (number 0, rest)

/-- A number at the beginning of a text; `afterPoint` says that a point stands in front of it. -/
def number? (afterPoint : Bool) (cs : List Char) : Option (Value × List Char) :=
  match if afterPoint then none else realNumber? cs with
  | some found => some found
  | none => wholeNumber? cs

/-- The problem with a floating-point number that is written with digits beyond ASCII, where it has
any. What stands in front of the first of them decides: an exponent that has begun lacks its digits,
and a whole number may not begin with a zero. -/
def realProblem? (written : List Char) : Option String :=
  let cs := written.filter (· ≠ '_')
  let ascii := cs.takeWhile fun c => c.toNat < 128
  match cs.drop ascii.length with
  | [] => none
  | c :: _ =>
    let problem :=
      if (ascii.getLast?.map fun d => !d.isDigit && d ≠ '.').getD false then
        "invalid decimal literal"
      else if ascii.all Char.isDigit && ascii.head? = some '0' && ascii.any (· ≠ '0') then
        "leading zeros in decimal integer literals are not permitted; use an 0o prefix for octal"
          ++ " integers"
      else
        let width := if c.toNat < 0x10000 then 4 else 5
        "invalid character '" ++ String.singleton c ++ "' (U+"
          ++ String.ofList ((Text.hexDigits width c.toNat).map Char.toUpper) ++ ")"
    some (problem ++ " (<unknown>, line 1)")

end Nomenclator.Template
