import DataShape.Number.Binary64

/-!
# The shortest decimal of a double

A double stands for the interval of reals that round to it, ends included when its significand is
even. `FiniteDouble.shortest` finds the decimal in that interval with the fewest digits, and among
those the nearest to the double. Everything is exact: for each number of digits the two points of
the decimal grid on either side of the double are compared with the ends of the interval as
naturals.
-/

namespace DataShape

/-- Which of two decimals is taken when both are equally near. -/
inductive TieRule
  | toEven
  | up
deriving DecidableEq

/-- A positive decimal `0.d₁d₂… * 10^point`, the digits being characters. -/
structure Decimal where
  digits : List Char
  point : Int
deriving DecidableEq

/-- The number of decimal digits of a natural number. -/
def digitCount (n : Nat) : Nat := (Nat.toDigits 10 n).length

namespace Decimal

/-- The decimal `coeff * 10^exp`, without the zeros at its end. -/
def ofCoefficient (coeff : Nat) (exp : Int) : Decimal :=
  let ds := Nat.toDigits 10 coeff
  { digits := (ds.reverse.dropWhile (· == '0')).reverse, point := exp + ds.length }

end Decimal

namespace FiniteDouble

/-- A point `d * 10^k` lies among the reals that round to the magnitude of `x`. The gap to the
double below is half as wide as the gap above when the significand is the least one of its
exponent. -/
def readsBack (x : FiniteDouble) (d : Nat) (k : Int) : Bool :=
  let ulp := Nat.pow 2 x.exp
  let below := if x.mant = Nat.pow 2 52 ∧ x.exp ≠ 0 then ulp else 2 * ulp
  let scale := Nat.pow 10 (-k).toNat
  let lo := (4 * x.magnitude - below) * scale
  let hi := (4 * x.magnitude + 2 * ulp) * scale
  let point := 4 * d * unitsOfOne * Nat.pow 10 k.toNat
  if x.mant % 2 = 0 then lo ≤ point && point ≤ hi else lo < point && point < hi

/-- The exponent `e` of the leading digit of a positive magnitude: `10^e ≤ x < 10^(e+1)`. -/
def leadingExponent (x : FiniteDouble) : Int :=
  if unitsOfOne ≤ x.magnitude then digitCount (x.magnitude / unitsOfOne) - 1
  else -digitCount ((unitsOfOne - 1) / x.magnitude)

/-- The point of the grid `10^k` that reads back, the nearer one of two, if there is any. -/
def onGrid? (x : FiniteDouble) (tie : TieRule) (k : Int) : Option Decimal :=
  let num := x.magnitude * Nat.pow 10 (-k).toNat
  let den := unitsOfOne * Nat.pow 10 k.toNat
  let d := num / den
  let r := num % den
  match x.readsBack d k, x.readsBack (d + 1) k with
  | true, true =>
    let upper := den < 2 * r || (2 * r == den && (tie == .up || d % 2 == 1))
    some (.ofCoefficient (if upper then d + 1 else d) k)
  | true, false => some (.ofCoefficient d k)
  | false, true => some (.ofCoefficient (d + 1) k)
  | false, false => none

/-- The fewest digits that identify the magnitude of a nonzero double. Seventeen digits always
suffice; the exact decimal stands behind them. -/
def shortest (x : FiniteDouble) (tie : TieRule) : Decimal :=
  let e := x.leadingExponent
  let found := (List.range 17).findSome? fun (n : Nat) => x.onGrid? tie (e - n)
  found.getD (.ofCoefficient (x.magnitude * Nat.pow 5 1074) (-1074))

end FiniteDouble

end DataShape
