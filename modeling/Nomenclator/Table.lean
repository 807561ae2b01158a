/-!
# Ordered tables

A table is a list of entries in the order in which their keys were first written. Writing a key
again changes its entry where it stands, and merging a table into another writes the entries of the
first, in order, into the second. The value of a key is what `List.lookup` finds.
-/

namespace Nomenclator

/-- Entries by key, in the order of their first writing. -/
abbrev Table (α : Type) := List (String × α)

namespace Table

variable {α : Type}

/-- Writes a key: in place where the key stands already, at the end otherwise. -/
def put (key : String) (value : α) : Table α → Table α
  | [] => [(key, value)]
  | (k, v) :: rest => if k = key then (key, value) :: rest else (k, v) :: put key value rest

/-- Writes the entries of the second table into the first. -/
def merge (base extra : Table α) : Table α :=
  extra.foldl (fun table entry => table.put entry.1 entry.2) base

/-- The table that results from writing the entries one after another. -/
def ofEntries (entries : List (String × α)) : Table α := merge [] entries

/-- Whether a key has an entry. -/
def hasKey (table : Table α) (key : String) : Bool := table.any fun entry => entry.1 = key

/-- The table without the entry of a key. -/
def erase (table : Table α) (key : String) : Table α := table.filter fun entry => entry.1 ≠ key

/-- The keys in order. -/
def keys (table : Table α) : List String := table.map Prod.fst

end Table

end Nomenclator
