/-!
# Keyed entries in insertion order

Maps, error details and object properties are lists of entries. A key stands where it was first
inserted, and inserting it again replaces its value in place.
-/

namespace DataShape

/-- Entries in insertion order. -/
abbrev Entries (α : Type) := List (String × α)

namespace Entries

variable {α : Type}

/-- The keys in order. -/
def keys (entries : Entries α) : List String := entries.map Prod.fst

/-- The value of the first entry with the key. -/
def find? (entries : Entries α) (key : String) : Option α := entries.lookup key

/-- Sets the value of a key: in place if it has an entry, else at the end. -/
def insert (key : String) (value : α) : Entries α → Entries α
  | [] => [(key, value)]
  | e :: rest => if e.1 = key then (key, value) :: rest else e :: insert key value rest

/-- Removes the entry of a key, the others keeping their order. -/
def erase (entries : Entries α) (key : String) : Entries α := entries.eraseP (·.1 == key)

/-- Inserts entries one by one: a repeated key keeps its first place and its last value. -/
def ofList (entries : List (String × α)) : Entries α :=
  entries.foldl (fun es e => insert e.1 e.2 es) []

/-- No key stands twice. -/
def Distinct (entries : Entries α) : Prop := entries.keys.Nodup

end Entries

end DataShape
