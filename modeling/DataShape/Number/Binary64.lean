/-!
# Double-precision numbers

A finite double is a whole number of *units* of `2^-1074`, the least positive double. It is kept as
a sign, a significand and an exponent in the one form that fixes the bits: two doubles with the
same bits are equal terms, and `0` and `-0` are two terms.

Order, equality and rounding are computed on exact integers. The order goes through `rank`, which
puts the infinities past every finite number and gives NaN no place at all, so that every comparison
with NaN fails.
-/

namespace DataShape

/-- The significand and the exponent that the bits of a finite double spell: the significand fills
its 53 bits unless the exponent is the least one. -/
def CanonicalSignificand (mant exp : Nat) : Prop :=
  mant < Nat.pow 2 53 ∧ exp ≤ 2045 ∧ (exp = 0 ∨ Nat.pow 2 52 ≤ mant)

instance (mant exp : Nat) : Decidable (CanonicalSignificand mant exp) :=
  inferInstanceAs (Decidable (_ ∧ _ ∧ _))

/-- A finite double: `mant * 2^exp` units of `2^-1074`, negated if `neg`. -/
structure FiniteDouble where
  neg : Bool
  mant : Nat
  exp : Nat
  canonical : CanonicalSignificand mant exp
deriving DecidableEq

namespace FiniteDouble

/-- One in units of `2^-1074`. -/
def unitsOfOne : Nat := Nat.pow 2 1074

/-- The distance from zero in units of `2^-1074`. -/
def magnitude (x : FiniteDouble) : Nat := x.mant * Nat.pow 2 x.exp

/-- The signed value in units of `2^-1074`. -/
def units (x : FiniteDouble) : Int := if x.neg then -(x.magnitude : Int) else x.magnitude

/-- Positive zero. -/
def zero : FiniteDouble := ⟨false, 0, 0, by decide⟩

/-- The integer that the number is, if it is one. -/
def toInt? (x : FiniteDouble) : Option Int :=
  if x.magnitude % unitsOfOne = 0 then
    let n : Int := (x.magnitude / unitsOfOne : Nat)
    some (if x.neg then -n else n)
  else none

/-- The integer part: what stands behind the point is cut off. -/
def truncate (x : FiniteDouble) : Int :=
  let n : Int := (x.magnitude / unitsOfOne : Nat)
  if x.neg then -n else n

end FiniteDouble

/-- A double-precision number. All NaNs are one. -/
inductive Binary64
  | nan
  | infinity (neg : Bool)
  | finite (x : FiniteDouble)
deriving DecidableEq

namespace Binary64

/-- The place of a number on the line, in units of `2^-1074`. The infinities stand just past the
largest finite doubles, and NaN has no place. -/
def rank : Binary64 → Option Int
  | nan => none
  | infinity neg => some (if neg then -(Nat.pow 2 2098 : Int) else (Nat.pow 2 2098 : Int))
  | finite x => some x.units

/-- Numeric equality: the zeros are equal, and NaN equals nothing. -/
def equals (x y : Binary64) : Bool :=
  match x.rank, y.rank with
  | some a, some b => a == b
  | _, _ => false

/-- Numeric order, false as soon as a side is NaN. -/
def lt (x y : Binary64) : Bool :=
  match x.rank, y.rank with
  | some a, some b => a < b
  | _, _ => false

/-- Numeric order or equality, false as soon as a side is NaN. -/
def le (x y : Binary64) : Bool :=
  match x.rank, y.rank with
  | some a, some b => a ≤ b
  | _, _ => false

/-- Neither NaN nor an infinity. -/
def isFinite : Binary64 → Bool
  | finite _ => true
  | _ => false

/-- The integer that the number is, if it is one. -/
def toInt? : Binary64 → Option Int
  | finite x => x.toInt?
  | _ => none

/-- Finite with no fractional part. -/
def isWhole (x : Binary64) : Bool := x.toInt?.isSome

/-- The integer of a range that is nearest to the integer part. For NaN it is 0. -/
def truncateInto (range : Int × Int) : Binary64 → Int
  | nan => 0
  | infinity neg => if neg then range.1 else range.2
  | finite x => max range.1 (min x.truncate range.2)

/-- The integer nearest to `num / den`, the even one of two. -/
def roundQuotient (num den : Nat) : Nat :=
  let q := num / den
  let r := num % den
  if den < 2 * r ∨ (2 * r = den ∧ q % 2 = 1) then q + 1 else q

/-- The double with the given parts, an infinity if the exponent is out of range. -/
def ofParts (neg : Bool) (mant exp : Nat) : Binary64 :=
  if h : CanonicalSignificand mant exp then finite ⟨neg, mant, exp, h⟩ else infinity neg

/-- The double nearest to `num / den` units of `2^-1074`. Of two that are equally near it is the one
with the even significand, and from halfway past the largest finite double on it is an infinity. -/
def ofUnits (neg : Bool) (num den : Nat) : Binary64 :=
  let exp := Nat.log2 (num / den) - 52
  let mant := roundQuotient num (den * Nat.pow 2 exp)
  if mant = Nat.pow 2 53 then ofParts neg (Nat.pow 2 52) (exp + 1) else ofParts neg mant exp

/-- The double nearest to `num / den`. -/
def ofRatio (neg : Bool) (num den : Nat) : Binary64 :=
  ofUnits neg (num * FiniteDouble.unitsOfOne) den

/-- The double nearest to an integer. -/
def ofInt (n : Int) : Binary64 := ofRatio (n < 0) n.natAbs 1

/-- The double nearest to a natural number. -/
def ofNat (n : Nat) : Binary64 := ofRatio false n 1

/-- The double nearest to `coeff * 10^exp`. A power of ten that alone decides the answer, because
the number is past every finite double or nearer to zero than to any other, is not computed. -/
def ofDecimal (neg : Bool) (coeff : Nat) (exp : Int) : Binary64 :=
  if coeff = 0 then ofRatio neg 0 1
  else if 400 < exp then infinity neg
  else if exp + Nat.log2 coeff < -400 then ofRatio neg 0 1
  else if 0 ≤ exp then ofRatio neg (coeff * Nat.pow 10 exp.toNat) 1
  else ofRatio neg coeff (Nat.pow 10 (-exp).toNat)

end Binary64

end DataShape
