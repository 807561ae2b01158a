import Nomenclator.Number.Binary64
import Nomenclator.Table

/-!
# Values of a document

A document is a tree of values in which whole numbers and floating-point numbers are kept apart and
the fields of a record keep their order. Options, schema definitions and template contexts arrive
in this form, so every reader of the library starts from a `Value` and says through a `Mismatch`
where the form does not fit.
-/

namespace Nomenclator

/-- The most digits of a whole number that is read from a text or written in one. -/
def maxIntegerDigits : Nat := 4300

/-- A value of a document. -/
inductive Value where
  | null
  | bool (b : Bool)
  | int (n : Int)
  | real (x : Binary64)
  | text (s : String)
  | list (items : List Value)
  | record (fields : List (String × Value))
  deriving Inhabited, Repr

/-- How a value can fail to have the form that is asked of it. `kind` is the name of the kind of the
value. -/
inductive Mismatch where
  /-- What is done with the value needs an ability that values of its kind lack. -/
  | lacks (kind ability : String)
  /-- The value holds no members. -/
  | noMembers (kind : String)
  /-- The value cannot be searched for a member. -/
  | notSearchable (kind : String)
  /-- The members of the value have places, no names. -/
  | unnamed (kind : String)
  /-- The value has no beginning that could be cut off. -/
  | noStart (kind : String)
  /-- A list or a record cannot be looked up in a table. -/
  | notKey (kind : String)
  /-- The value has so many members, where two are needed. -/
  | notPair (count : Nat)
  /-- There is no order between values of different kinds. -/
  | unordered
  /-- A record has a field that is not among those it may have. -/
  | unknownField (name : String)
  /-- The value cannot be written as a text, for a whole number in it has too many digits. -/
  | tooManyDigits
  deriving DecidableEq, Repr

/-- What is said about a value that does not have the form that is asked of it. -/
def Mismatch.message : Mismatch → String
  | lacks kind ability => "'" ++ kind ++ "' object has no attribute '" ++ ability ++ "'"
  | noMembers kind => "'" ++ kind ++ "' object is not iterable"
  | notSearchable kind => "argument of type '" ++ kind ++ "' is not iterable"
  | unnamed kind =>
    if kind = "str" then "string indices must be integers, not 'str'"
    else kind ++ " indices must be integers or slices, not str"
  | noStart kind => "'" ++ kind ++ "' object is not subscriptable"
  | notKey kind => "unhashable type: '" ++ kind ++ "'"
  | notPair count => "2 members are needed, not " ++ toString count
  | unordered => "there is no order between values of different kinds"
  | unknownField name => "unexpected keyword argument '" ++ name ++ "'"
  | tooManyDigits =>
    "Exceeds the limit (" ++ toString maxIntegerDigits
      ++ " digits) for integer string conversion; use sys.set_int_max_str_digits() to increase the"
      ++ " limit"

namespace Value

/-- The name of a value's form, as messages give it. -/
def kindName : Value → String
  | null => "NoneType"
  | bool _ => "bool"
  | int _ => "int"
  | real _ => "float"
  | text _ => "str"
  | list _ => "list"
  | record _ => "dict"

/-- Whether a value counts as present: null, `false`, the zeros and whatever is empty do not. -/
def isPresent : Value → Bool
  | null => false
  | bool b => b
  | int n => n != 0
  | real x => !x.isZero
  | text s => s != ""
  | list items => !items.isEmpty
  | record fields => !fields.isEmpty

/-- The text of a value that is one. Of any other value it is said that it lacks the ability for
which a text is needed. -/
def textFor (ability : String) (v : Value) : Except Mismatch String :=
  match v with
  | text s => .ok s
  | _ => .error (.lacks v.kindName ability)

/-- The text of a value that is one, whatever it is needed for. -/
def asText (v : Value) : Except Mismatch String := v.textFor "replace"

/-- The fields of a value that is a record. -/
def asRecord (v : Value) : Except Mismatch (Table Value) :=
  match v with
  | record fields => .ok fields
  | _ => .error (.lacks v.kindName "get")

/-- The members of a value: the items of a list, the characters of a text, the keys of a record. -/
def members (v : Value) : Except Mismatch (List Value) :=
  match v with
  | list items => .ok items
  | text s => .ok (s.toList.map fun c => text (String.singleton c))
  | record fields => .ok (fields.map fun field => text field.1)
  | _ => .error (.noMembers v.kindName)

/-- A value that can be looked up in a table: any but a list or a record. -/
def asKey (v : Value) : Except Mismatch Value :=
  match v with
  | list _ => .error (.notKey v.kindName)
  | record _ => .error (.notKey v.kindName)
  | _ => .ok v

/-- The two members of a value that has two. -/
def pair (v : Value) : Except Mismatch (Value × Value) := do
  match ← v.members with
  | [a, b] => return (a, b)
  | other => throw (.notPair other.length)

/-- The whole number that a value is equal to, where it is one. The truth values are `0` and `1`. -/
def wholeNumber? : Value → Option Int
  | bool b => some (if b then 1 else 0)
  | int n => some n
  | real x => x.toInt?
  | _ => none

/-- Whether two values are the same key of a table: equal texts, or equal numbers in whatever form
they are written. What is no number is equal to nothing. -/
def isSameKey (a b : Value) : Bool :=
  match a, b with
  | null, null => true
  | text s, text t => s = t
  | real x, real y => (x.isZero && y.isZero) || (decide (x = y) && decide (x ≠ .nan))
  | a, b =>
    match a.wholeNumber?, b.wholeNumber? with
    | some n, some m => n = m
    | _, _ => false

end Value

end Nomenclator
