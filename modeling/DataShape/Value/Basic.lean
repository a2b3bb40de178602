import DataShape.Entries
import DataShape.Number.Binary64

/-!
# Values

A value is what a validator looks at: null, a truth value, a number, a text, a list or a map. There
is one kind of number, so that being whole is a property of the number and not of its kind. Maps
keep the order of their entries, and `Value.equals` does not look at it.
-/

namespace DataShape

/-- A value. The entries of a map are in insertion order. -/
inductive Value
  | null
  | bool (b : Bool)
  | number (x : Binary64)
  | string (s : String)
  | list (items : List Value)
  | map (entries : List (String × Value))
deriving Inhabited

/-- The kind of a value. -/
inductive ValueKind
  | null
  | bool
  | number
  | string
  | list
  | map
deriving DecidableEq

namespace ValueKind

/-- All kinds. -/
def all : List ValueKind := [null, bool, number, string, list, map]

/-- The name of a kind. -/
def name : ValueKind → String
  | null => "null"
  | bool => "bool"
  | number => "number"
  | string => "string"
  | list => "list"
  | map => "map"

end ValueKind

namespace Value

/-- The kind of a value. -/
def kind : Value → ValueKind
  | null => .null
  | bool _ => .bool
  | number _ => .number
  | string _ => .string
  | list _ => .list
  | map _ => .map

/-- The truth value of a boolean. -/
def bool? : Value → Option Bool
  | bool b => some b
  | _ => none

/-- The number of a number. -/
def number? : Value → Option Binary64
  | number x => some x
  | _ => none

/-- The text of a string. -/
def string? : Value → Option String
  | string s => some s
  | _ => none

/-- The items of a list. -/
def list? : Value → Option (List Value)
  | list items => some items
  | _ => none

/-- The entries of a map. -/
def map? : Value → Option (Entries Value)
  | map entries => some entries
  | _ => none

/-- The value under a key of a map. Other values have no keys. -/
def get? (v : Value) (key : String) : Option Value := v.map?.bind (Entries.find? · key)

/-- The item at a position of a list. Other values have no positions. -/
def item? (v : Value) (position : Nat) : Option Value := v.list?.bind (·[position]?)

/-- The map of the given entries: a repeated key keeps its first place and its last value. -/
def ofEntries (entries : List (String × Value)) : Value := map (Entries.ofList entries)

mutual

/-- Equality of values: numbers are compared as numbers, maps without regard to order. -/
def equals : Value → Value → Bool
  | null, null => true
  | bool a, bool b => a == b
  | number x, number y => x.equals y
  | string s, string t => s == t
  | list xs, list ys => itemsEqual xs ys
  | map xs, map ys => xs.length == ys.length && entriesFound xs ys
  | _, _ => false

/-- The items are equal one by one. -/
def itemsEqual : List Value → List Value → Bool
  | [], [] => true
  | x :: xs, y :: ys => x.equals y && itemsEqual xs ys
  | _, _ => false

/-- Each entry has an equal one under its key. -/
def entriesFound : List (String × Value) → List (String × Value) → Bool
  | [], _ => true
  | (key, x) :: xs, ys =>
    (match Entries.find? ys key with
    | some y => x.equals y
    | none => false) && entriesFound xs ys

end

mutual

/-- No key stands twice in a map, at any depth. -/
def WellFormed : Value → Prop
  | list items => ItemsWellFormed items
  | map entries => Entries.Distinct entries ∧ EntriesWellFormed entries
  | _ => True

/-- All items are well-formed. -/
def ItemsWellFormed : List Value → Prop
  | [] => True
  | x :: xs => x.WellFormed ∧ ItemsWellFormed xs

/-- The values of all entries are well-formed. -/
def EntriesWellFormed : List (String × Value) → Prop
  | [] => True
  | (_, x) :: xs => x.WellFormed ∧ EntriesWellFormed xs

end

end Value

/-- Types whose elements can be seen as values. -/
class ToValue (α : Type) where
  /-- The element as a value. -/
  toValue : α → Value

export ToValue (toValue)

instance : ToValue Value := ⟨id⟩

instance : ToValue Bool := ⟨.bool⟩

instance : ToValue Binary64 := ⟨.number⟩

instance : ToValue Int := ⟨fun n => .number (.ofInt n)⟩

instance : ToValue Nat := ⟨fun n => .number (.ofNat n)⟩

instance : ToValue UInt64 := ⟨fun n => toValue n.toNat⟩

instance : ToValue String := ⟨.string⟩

instance {α : Type} [ToValue α] : ToValue (List α) := ⟨fun items => .list (items.map toValue)⟩

/-- An absent element is null. -/
instance {α : Type} [ToValue α] : ToValue (Option α) := ⟨fun x? => (x?.map toValue).getD .null⟩

end DataShape
