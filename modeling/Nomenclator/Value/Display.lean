import Nomenclator.Number.Shortest
import Nomenclator.Text.Quoted
import Nomenclator.Value

/-!
# Values as text

`Value.inspect` shows a value so that its form can be told: texts in quotes, lists in brackets,
records in braces with their keys in quotes. `Value.display` differs from it on a bare text only,
which stands for itself.

A whole number of more digits than a document may hold is not written, so a value with such a number
anywhere in it cannot be shown at all. How deep a value nests makes no difference here: only the
reader of documents counts its room.
-/

namespace Nomenclator.Value

/-- Whether a whole number has more decimal digits than are written. The sign is not counted. -/
def isTooLong (n : Int) : Bool := maxIntegerDigits < (Nat.toDigits 10 n.natAbs).length

mutual

/-- A value shown with its form. -/
def inspect : Value → Except Mismatch (List Char)
  | null => .ok "None".toList
  | bool b => .ok (if b then "True".toList else "False".toList)
  | int n => if isTooLong n then .error .tooManyDigits else .ok (toString n).toList
  | real x => .ok x.display.toList
  | text s => .ok (Text.quoted s.toList)
  | list items => do return '[' :: (← inspectItems items) ++ [']']
  | record fields => do return '\x7b' :: (← inspectFields fields) ++ ['\x7d']

/-- The items of a list, separated by commas. -/
def inspectItems : List Value → Except Mismatch (List Char)
  | [] => .ok []
  | [v] => inspect v
  | v :: w :: rest => do
    let first ← inspect v
    return first ++ [',', ' '] ++ (← inspectItems (w :: rest))

/-- The fields of a record, separated by commas. -/
def inspectFields : List (String × Value) → Except Mismatch (List Char)
  | [] => .ok []
  | [(k, v)] => do return Text.quoted k.toList ++ [':', ' '] ++ (← inspect v)
  | (k, v) :: next :: rest => do
    let first ← inspect v
    return Text.quoted k.toList ++ [':', ' '] ++ first ++ [',', ' ']
      ++ (← inspectFields (next :: rest))

end

/-- A value shown with its form, as a text. -/
def inspectText (v : Value) : Except Mismatch String := v.inspect.map String.ofList

/-- The text a value stands for. -/
def display : Value → Except Mismatch String
  | text s => .ok s
  | v => v.inspectText

end Nomenclator.Value
