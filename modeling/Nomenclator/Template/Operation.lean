import Nomenclator.Value

/-!
# Operations of values

Values of every kind have operations of their own. A template finds one under its name as it finds a
member, but it cannot be run: it counts as present, and it can be neither gone through nor named.
The operations of a record hide those of its fields that have the same names.

Whole numbers have parts in the same way: a real and an imaginary one, a numerator and a
denominator.
-/

namespace Nomenclator.Template

/-- The operations of records. -/
def recordOperations : List String :=
  ["clear", "copy", "fromkeys", "get", "items", "keys", "pop", "popitem", "setdefault", "update",
   "values"]

/-- The operations of lists. -/
def listOperations : List String :=
  ["append", "clear", "copy", "count", "extend", "index", "insert", "pop", "remove", "reverse",
   "sort"]

/-- The operations of sequences that do not change. -/
def choicesOperations : List String := ["count", "index"]

/-- The operations of texts. -/
def textOperations : List String :=
  ["capitalize", "casefold", "center", "count", "encode", "endswith", "expandtabs", "find",
   "format", "format_map", "index", "isalnum", "isalpha", "isascii", "isdecimal", "isdigit",
   "isidentifier", "islower", "isnumeric", "isprintable", "isspace", "istitle", "isupper",
   "join", "ljust", "lower", "lstrip", "maketrans", "partition", "removeprefix", "removesuffix",
   "replace", "rfind", "rindex", "rjust", "rpartition", "rsplit", "rstrip", "split",
   "splitlines", "startswith", "strip", "swapcase", "title", "translate", "upper", "zfill"]

/-- The operations of whole numbers, which truth values share. -/
def wholeOperations : List String :=
  ["as_integer_ratio", "bit_count", "bit_length", "conjugate", "from_bytes", "to_bytes"]

/-- The operations of floating-point numbers. -/
def realOperations : List String :=
  ["as_integer_ratio", "conjugate", "fromhex", "hex", "is_integer"]

/-- The operations of a value. -/
def operationsOf : Value → List String
  | .null => []
  | .bool _ => wholeOperations
  | .int _ => wholeOperations
  | .real _ => realOperations
  | .text _ => textOperations
  | .list _ => listOperations
  | .record _ => recordOperations

/-- A part of a whole number. -/
def wholePart? (n : Int) (name : String) : Option Value :=
  match name with
  | "real" => some (.int n)
  | "imag" => some (.int 0)
  | "numerator" => some (.int n)
  | "denominator" => some (.int 1)
  | _ => none

/-- A part of a floating-point number. -/
def realPart? (x : Binary64) (name : String) : Option Value :=
  match name with
  | "real" => some (.real x)
  | "imag" => some (.real (.ofDecimal false 0 0))
  | _ => none

/-- What a value holds under a name: a field of a record or a part of a number. -/
def partOf? (v : Value) (name : String) : Option Value :=
  match v with
  | .record fields => fields.lookup name
  | .int n => wholePart? n name
  | .bool b => wholePart? (if b then 1 else 0) name
  | .real x => realPart? x name
  | _ => none

/-- What a value holds at a place, counted from zero on: an item of a list or a character of a text.
-/
def itemOf? (v : Value) (place : Nat) : Option Value :=
  match v with
  | .list items => items[place]?
  | .text s => s.toList[place]?.map fun c => .text (String.singleton c)
  | _ => none

end Nomenclator.Template
