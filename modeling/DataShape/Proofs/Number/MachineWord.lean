import DataShape.Schema.NumberKind
import Mathlib.Order.Basic

/-!
# Machine integers

To each sized kind of numbers belongs a type of machine integers of that sign and width. JSON
documents spell the elements of such a type by the integers of its range, and each integer of the
range spells the element that is that integer (`SizedKind.decode?_eq_some_iff`).
-/

namespace DataShape

/-- An integer is read within a range when it lies there. -/
theorem Json.intWithin?_eq_some_iff (range : Int × Int) (j : Json) (n : Int) :
    j.intWithin? range = some n ↔ j = .int n ∧ range.1 ≤ n ∧ n ≤ range.2 := by
  unfold intWithin?
  rw [Option.filter_eq_some_iff, Bool.and_eq_true, decide_eq_true_eq, decide_eq_true_eq]
  cases j <;> simp [int?]

/-- A sign and a width. -/
inductive SizedKind
  | signed (w : IntWidth)
  | unsigned (w : IntWidth)
deriving DecidableEq

namespace SizedKind

/-- The kind of numbers. -/
def kind : SizedKind → NumberKind
  | signed w => .signed w
  | unsigned w => .unsigned w

/-- The least and the greatest integer. -/
def range : SizedKind → Int × Int
  | signed w => signedRange w.bits
  | unsigned w => unsignedRange w.bits

/-- The range is that of the kind of numbers. -/
theorem range?_kind (k : SizedKind) : k.kind.range? = some k.range := by
  cases k <;> rfl

/-- 64 bits, with a sign or without, hold all machine integers. -/
theorem range_within_64 (k : SizedKind) :
    (signedRange 64).1 ≤ k.range.1 ∧ k.range.2 ≤ (unsignedRange 64).2 := by
  cases k with
  | signed w => cases w <;> decide
  | unsigned w => cases w <;> decide

/-- The type of the machine integers. -/
def Word : SizedKind → Type
  | signed .w8 => Int8
  | signed .w16 => Int16
  | signed .w32 => Int32
  | signed .w64 => Int64
  | unsigned .w8 => UInt8
  | unsigned .w16 => UInt16
  | unsigned .w32 => UInt32
  | unsigned .w64 => UInt64

/-- Documents spell machine integers as they spell the elements of their type. -/
instance (k : SizedKind) : Decode k.Word :=
  match k with
  | signed .w8 => inferInstanceAs (Decode Int8)
  | signed .w16 => inferInstanceAs (Decode Int16)
  | signed .w32 => inferInstanceAs (Decode Int32)
  | signed .w64 => inferInstanceAs (Decode Int64)
  | unsigned .w8 => inferInstanceAs (Decode UInt8)
  | unsigned .w16 => inferInstanceAs (Decode UInt16)
  | unsigned .w32 => inferInstanceAs (Decode UInt32)
  | unsigned .w64 => inferInstanceAs (Decode UInt64)

/-- The integer that a machine integer is. -/
def toInt : (k : SizedKind) → k.Word → Int
  | signed .w8 => Int8.toInt
  | signed .w16 => Int16.toInt
  | signed .w32 => Int32.toInt
  | signed .w64 => Int64.toInt
  | unsigned .w8 => fun m => (UInt8.toNat m : Int)
  | unsigned .w16 => fun m => (UInt16.toNat m : Int)
  | unsigned .w32 => fun m => (UInt32.toNat m : Int)
  | unsigned .w64 => fun m => (UInt64.toNat m : Int)

/-- The machine integer that an integer of the range is. -/
def ofInt : (k : SizedKind) → Int → k.Word
  | signed .w8 => Int8.ofInt
  | signed .w16 => Int16.ofInt
  | signed .w32 => Int32.ofInt
  | signed .w64 => Int64.ofInt
  | unsigned .w8 => fun n => UInt8.ofNat n.toNat
  | unsigned .w16 => fun n => UInt16.ofNat n.toNat
  | unsigned .w32 => fun n => UInt32.ofNat n.toNat
  | unsigned .w64 => fun n => UInt64.ofNat n.toNat

/-- A document is read as an integer of the range first. -/
theorem decode?_eq (k : SizedKind) (j : Json) :
    (Decode.decode? j : Option k.Word) = (j.intWithin? k.range).map k.ofInt := by
  cases k with
  | signed w => cases w <;> rfl
  | unsigned w => cases w <;> rfl

/-- An integer of the range is the integer that its machine integer is. -/
theorem toInt_ofInt (k : SizedKind) (n : Int) (hlo : k.range.1 ≤ n) (hhi : n ≤ k.range.2) :
    k.toInt (k.ofInt n) = n := by
  cases k with
  | signed w =>
    simp only [range, signedRange] at hlo hhi
    cases w with
    | w8 => exact Int8.toInt_ofInt_of_le hlo (Int.lt_of_le_sub_one hhi)
    | w16 => exact Int16.toInt_ofInt_of_le hlo (Int.lt_of_le_sub_one hhi)
    | w32 => exact Int32.toInt_ofInt_of_le hlo (Int.lt_of_le_sub_one hhi)
    | w64 => exact Int64.toInt_ofInt_of_le hlo (Int.lt_of_le_sub_one hhi)
  | unsigned w =>
    -- From 0 on an integer is a natural number.
    simp only [range, unsignedRange] at hlo hhi
    obtain ⟨m, rfl⟩ := Int.eq_ofNat_of_zero_le hlo
    have hm := Int.lt_of_le_sub_one hhi
    cases w with
    | w8 => exact congrArg Int.ofNat (UInt8.toNat_ofNat_of_lt' (Int.ofNat_lt.1 hm))
    | w16 => exact congrArg Int.ofNat (UInt16.toNat_ofNat_of_lt' (Int.ofNat_lt.1 hm))
    | w32 => exact congrArg Int.ofNat (UInt32.toNat_ofNat_of_lt' (Int.ofNat_lt.1 hm))
    | w64 => exact congrArg Int.ofNat (UInt64.toNat_ofNat_of_lt' (Int.ofNat_lt.1 hm))

/-- A document is read as a machine integer when it is an integer of the range, and then as the
machine integer of that integer. -/
theorem decode?_eq_some_iff (k : SizedKind) (j : Json) (m : k.Word) :
    Decode.decode? j = some m ↔
      ∃ n, j = .int n ∧ k.range.1 ≤ n ∧ n ≤ k.range.2 ∧ k.ofInt n = m := by
  rw [decode?_eq, Option.map_eq_some_iff]
  simp only [Json.intWithin?_eq_some_iff, and_assoc]

end SizedKind

end DataShape
