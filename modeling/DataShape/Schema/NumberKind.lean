import DataShape.Json.Decode

/-!
# Kinds of numbers

A number node asks for any number, for a whole number, or for a whole number that fits into a given
number of bits. The tag of a kind names it in descriptors.
-/

namespace DataShape

/-- The width of a sized integer. -/
inductive IntWidth
  | w8
  | w16
  | w32
  | w64
deriving DecidableEq

namespace IntWidth

/-- All widths. -/
def all : List IntWidth := [w8, w16, w32, w64]

/-- The number of bits. -/
def bits : IntWidth → Nat
  | w8 => 8
  | w16 => 16
  | w32 => 32
  | w64 => 64

/-- The name of a width in storage. -/
def name (w : IntWidth) : String := "W" ++ toString w.bits

/-- The width for storage. -/
def encode (w : IntWidth) : Json := .string w.name

end IntWidth

instance : Decode IntWidth := ⟨fun j => do IntWidth.all.find? (·.name == (← j.constant?))⟩

/-- A kind of numbers. -/
inductive NumberKind
  /-- Any number. -/
  | plain
  /-- Any number, for callers that tell floating-point numbers apart. -/
  | float
  /-- A whole number. -/
  | integer
  /-- A whole number in the two's-complement range of the width. -/
  | signed (w : IntWidth)
  /-- A whole number from 0 that fits into the width. -/
  | unsigned (w : IntWidth)
deriving DecidableEq

namespace NumberKind

/-- All kinds. -/
def all : List NumberKind :=
  [plain, float, integer] ++ IntWidth.all.map signed ++ IntWidth.all.map unsigned

/-- The tag of a kind. -/
def tag : NumberKind → String
  | plain => "number"
  | float => "float"
  | integer => "integer"
  | signed w => "i" ++ toString w.bits
  | unsigned w => "u" ++ toString w.bits

/-- The kind with a tag. -/
def ofTag? (tag : String) : Option NumberKind := all.find? (·.tag == tag)

/-- Only whole numbers are of this kind. -/
def isIntegral : NumberKind → Bool
  | plain => false
  | float => false
  | _ => true

/-- The least and the greatest integer of a sized kind. -/
def range? : NumberKind → Option (Int × Int)
  | signed w => some (signedRange w.bits)
  | unsigned w => some (unsignedRange w.bits)
  | _ => none

/-- The kind for storage. -/
def encode : NumberKind → Json
  | plain => .string "Plain"
  | float => .string "Float"
  | integer => .string "Integer"
  | signed w => .object [("Signed", w.encode)]
  | unsigned w => .object [("Unsigned", w.encode)]

/-- Reads a kind from storage. -/
def decode? : Json → Option NumberKind
  | .object [("Signed", w)] => (Decode.decode? w).map signed
  | .object [("Unsigned", w)] => (Decode.decode? w).map unsigned
  | j => do
    match ← j.constant? with
    | "Plain" => some plain
    | "Float" => some float
    | "Integer" => some integer
    | _ => none

end NumberKind

instance : Decode NumberKind := ⟨NumberKind.decode?⟩

end DataShape
