import Nomenclator.Value

/-!
# Tables keyed by values

A table whose keys are values, in the order of their first writing. Keys that are the same number in
two forms are one key.
-/

namespace Nomenclator

/-- A table by values. -/
abbrev Keyed (α : Type) := List (Value × α)

namespace Keyed

variable {α : Type}

/-- Writes a key: in place where the key stands already, at the end otherwise. -/
def put (key : Value) (content : α) : Keyed α → Keyed α
  | [] => [(key, content)]
  | (k, c) :: rest =>
    if k.isSameKey key then (k, content) :: rest else (k, c) :: put key content rest

/-- Writes the entries of the second table into the first. -/
def merge (base extra : Keyed α) : Keyed α :=
  extra.foldl (fun table entry => table.put entry.1 entry.2) base

/-- The content of a key. -/
def find? (table : Keyed α) (key : Value) : Option α :=
  (List.find? (fun entry => entry.1.isSameKey key) table).map Prod.snd

end Keyed

namespace Value

/-- Whether values can be put in an order: if they are all texts or all numbers, or if there are
fewer than two. -/
def areOrdered (vs : List Value) : Bool :=
  let isText : Value → Bool
    | text _ => true
    | _ => false
  let isNumber : Value → Bool
    | bool _ | int _ | real _ => true
    | _ => false
  vs.length < 2 || vs.all isText || vs.all isNumber

end Value

end Nomenclator
