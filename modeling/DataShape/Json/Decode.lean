import DataShape.Entries
import DataShape.Json.Basic
import DataShape.Number.WordRange

/-!
# Typed readers of JSON

`Decode α` says which JSON documents spell an `α`. An integer type reads integer documents in its
range and no others, not even a floating-point number that is whole.
-/

namespace DataShape

/-- A type that JSON documents can spell. -/
class Decode (α : Type) where
  /-- The element that a document spells, if it spells one. -/
  decode? : Json → Option α

namespace Json

/-- The integer of an integer document within a range, ends included. -/
def intWithin? (range : Int × Int) (j : Json) : Option Int :=
  j.int?.filter fun n => range.1 ≤ n && n ≤ range.2

/-- The field of an object, read as an `α`. -/
def field? (α : Type) [Decode α] (j : Json) (name : String) : Option α := do
  Decode.decode? (← Entries.find? (← j.entries?) name)

/-- The name that spells a constant: the name itself, or an object with the name as its only key
and null as its value. -/
def constant? : Json → Option String
  | string name => some name
  | object [(name, null)] => some name
  | _ => none

end Json

instance : Decode Json := ⟨some⟩

instance : Decode String := ⟨Json.string?⟩

instance : Decode Bool := ⟨Json.bool?⟩

instance : Decode Int8 := ⟨fun j => (j.intWithin? (signedRange 8)).map Int8.ofInt⟩

instance : Decode Int16 := ⟨fun j => (j.intWithin? (signedRange 16)).map Int16.ofInt⟩

instance : Decode Int32 := ⟨fun j => (j.intWithin? (signedRange 32)).map Int32.ofInt⟩

instance : Decode Int64 := ⟨fun j => (j.intWithin? (signedRange 64)).map Int64.ofInt⟩

instance : Decode UInt8 :=
  ⟨fun j => (j.intWithin? (unsignedRange 8)).map fun n => UInt8.ofNat n.toNat⟩

instance : Decode UInt16 :=
  ⟨fun j => (j.intWithin? (unsignedRange 16)).map fun n => UInt16.ofNat n.toNat⟩

instance : Decode UInt32 :=
  ⟨fun j => (j.intWithin? (unsignedRange 32)).map fun n => UInt32.ofNat n.toNat⟩

instance : Decode UInt64 :=
  ⟨fun j => (j.intWithin? (unsignedRange 64)).map fun n => UInt64.ofNat n.toNat⟩

end DataShape
