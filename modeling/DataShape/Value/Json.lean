import DataShape.Json.Decode
import DataShape.Value.Basic

/-!
# Values as JSON

There are two ways to write a value as JSON. `Value.toJson` hands it to other programs: a whole
number in the range of 64-bit integers becomes an integer. `Value.encode` stores it: a number stays
a floating-point number, so that nothing is lost. Neither can write NaN or an infinity, which
become null.

There are two ways back. `Value.ofJson` is total. `Value.decode?` tries one shape after the other,
as a reader does that knows only the shapes.
-/

namespace DataShape.Value

/-- A number from the least integer of a range up to one past the greatest, which is left out. The
two ends are doubles, unlike the greatest integers of 64 bits. -/
def isWithin (range : Int × Int) (x : Binary64) : Bool :=
  (Binary64.ofInt range.1).le x && x.lt (.ofInt (range.2 + 1))

/-- A number for other programs: a signed integer if it is one, else an unsigned one, else a
floating-point number. -/
def numberToJson (x : Binary64) : Json :=
  if x.isWhole && isWithin (signedRange 64) x then .int (x.truncateInto (signedRange 64))
  else if x.isWhole && isWithin (unsignedRange 64) x then .int (x.truncateInto (unsignedRange 64))
  else match x with
    | .finite y => .float y
    | _ => .null

/-- A number for storage. -/
def encodeNumber : Binary64 → Json
  | .finite x => .float x
  | _ => .null

mutual

/-- The value for other programs. -/
def toJson : Value → Json
  | null => .null
  | bool b => .bool b
  | number x => numberToJson x
  | string s => .string s
  | list items => .array (itemsToJson items)
  | map entries => .object (entriesToJson entries)

/-- The items of a list for other programs. -/
def itemsToJson : List Value → List Json
  | [] => []
  | x :: xs => x.toJson :: itemsToJson xs

/-- The entries of a map for other programs. -/
def entriesToJson : List (String × Value) → List (String × Json)
  | [] => []
  | (key, x) :: xs => (key, x.toJson) :: entriesToJson xs

end

mutual

/-- The value for storage. -/
def encode : Value → Json
  | null => .null
  | bool b => .bool b
  | number x => encodeNumber x
  | string s => .string s
  | list items => .array (encodeItems items)
  | map entries => .object (encodeEntries entries)

/-- The items of a list for storage. -/
def encodeItems : List Value → List Json
  | [] => []
  | x :: xs => x.encode :: encodeItems xs

/-- The entries of a map for storage. -/
def encodeEntries : List (String × Value) → List (String × Json)
  | [] => []
  | (key, x) :: xs => (key, x.encode) :: encodeEntries xs

end

mutual

/-- The value that a document spells. -/
def ofJson : Json → Value
  | .null => null
  | .bool b => bool b
  | .int n => number (.ofInt n)
  | .float x => number (.finite x)
  | .string s => string s
  | .array items => list (itemsOfJson items)
  | .object entries => map (entriesOfJson entries)

/-- The items that the items of an array spell. -/
def itemsOfJson : List Json → List Value
  | [] => []
  | j :: js => ofJson j :: itemsOfJson js

/-- The entries that the entries of an object spell. -/
def entriesOfJson : List (String × Json) → List (String × Value)
  | [] => []
  | (key, j) :: js => (key, ofJson j) :: entriesOfJson js

end

/-- Reads null. -/
def nullOf? : Json → Option Value
  | .null => some null
  | _ => none

mutual

/-- Reads a document as the first shape that fits: null, a truth value, a number, a text, a list of
readable items, a map of readable values. -/
def decode? (j : Json) : Option Value :=
  nullOf? j <|> j.bool?.map bool <|> j.number?.map number <|> j.string?.map string
    <|> (match j with
      | .array items => (decodeItems? items).map list
      | _ => none)
    <|> (match j with
      | .object entries => (decodeEntries? entries).map map
      | _ => none)

/-- Reads all items. -/
def decodeItems? : List Json → Option (List Value)
  | [] => some []
  | j :: js => do return (← decode? j) :: (← decodeItems? js)

/-- Reads the values of all entries. -/
def decodeEntries? : List (String × Json) → Option (List (String × Value))
  | [] => some []
  | (key, j) :: js => do return (key, ← decode? j) :: (← decodeEntries? js)

end

end DataShape.Value

namespace DataShape

instance : Decode Value := ⟨Value.decode?⟩

/-- The kind for storage. -/
def ValueKind.encode (k : ValueKind) : Json := .string k.name

instance : Decode ValueKind := ⟨fun j => do ValueKind.all.find? (·.name == (← j.constant?))⟩

end DataShape
