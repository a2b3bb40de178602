import DataShape.Validator.Compile
import Mathlib.Tactic.SplitIfs

/-!
# Sized kinds accept exactly their integers

The kind test of a sized integer compares doubles: a whole number is accepted from the least integer
of the kind up to one past the greatest, which is left out. The greatest integer of 64 bits is no
double, but one past it is a power of two. `NumberKind.admits` says the same on exact integers, and
`NumberKind.accepts_test` shows that the two agree for every kind and every value.

The proof goes through the common scale of all doubles: a double that is an integer `n` has rank
`n * unitsOfOne`, so doubles that are integers are ordered as the integers are, and both ends of a
sized kind are doubles that are integers.
-/

namespace DataShape

/-- The numbers of a kind. A sized kind has the integers of its range, any other integral kind has
the integers, and the other kinds have all numbers. -/
def NumberKind.admits (k : NumberKind) (x : Binary64) : Bool :=
  match k.range? with
  | some (lo, hi) => x.toInt?.any fun n => lo ≤ n && n ≤ hi
  | none => !k.isIntegral || x.toInt?.isSome

/-- A double that is an integer `n` is `n` times one. -/
theorem FiniteDouble.units_of_toInt? (x : FiniteDouble) (n : Int) (h : x.toInt? = some n) :
    x.units = n * (unitsOfOne : Int) := by
  unfold toInt? at h
  by_cases hmod : x.magnitude % unitsOfOne = 0
  · have hmag : x.magnitude / unitsOfOne * unitsOfOne = x.magnitude :=
      Nat.div_mul_cancel (Nat.dvd_of_mod_eq_zero hmod)
    rw [if_pos hmod] at h
    unfold units
    split_ifs at h ⊢ with hneg
    · calc -(x.magnitude : Int) = -((x.magnitude / unitsOfOne * unitsOfOne : Nat) : Int) := by
            rw [hmag]
        _ = -((x.magnitude / unitsOfOne : Nat) : Int) * unitsOfOne := by
            rw [Int.natCast_mul, Int.neg_mul]
        _ = n * unitsOfOne := by rw [Option.some.inj h]
    · calc (x.magnitude : Int) = ((x.magnitude / unitsOfOne * unitsOfOne : Nat) : Int) := by
            rw [hmag]
        _ = ((x.magnitude / unitsOfOne : Nat) : Int) * unitsOfOne := Int.natCast_mul _ _
        _ = n * unitsOfOne := by rw [Option.some.inj h]
  · rw [if_neg hmod] at h
    cases h

namespace Binary64

/-- The rank of a double that is an integer. -/
theorem rank_of_toInt? (x : Binary64) (n : Int) (h : x.toInt? = some n) :
    x.rank = some (n * (FiniteDouble.unitsOfOne : Int)) := by
  cases x with
  | nan => cases h
  | infinity neg => cases h
  | finite y => exact congrArg some (y.units_of_toInt? n h)

/-- One is a positive number of units. -/
theorem unitsOfOne_pos : (0 : Int) < (FiniteDouble.unitsOfOne : Int) := by
  decide +kernel

/-- Doubles that are integers are ordered as the integers. -/
theorem le_iff_of_toInt? (x y : Binary64) (m n : Int) (hx : x.toInt? = some m)
    (hy : y.toInt? = some n) : x.le y = true ↔ m ≤ n := by
  unfold le
  rw [rank_of_toInt? x m hx, rank_of_toInt? y n hy]
  exact decide_eq_true_iff.trans (Int.mul_le_mul_right unitsOfOne_pos)

/-- Doubles that are integers are strictly ordered as the integers. -/
theorem lt_iff_of_toInt? (x y : Binary64) (m n : Int) (hx : x.toInt? = some m)
    (hy : y.toInt? = some n) : x.lt y = true ↔ m < n := by
  unfold lt
  rw [rank_of_toInt? x m hx, rank_of_toInt? y n hy]
  exact decide_eq_true_iff.trans (Int.mul_lt_mul_right unitsOfOne_pos)

end Binary64

namespace NumberKind

/-- Both ends of a sized kind are doubles: the least integer, and the one past the greatest. -/
theorem toInt?_ends (k : NumberKind) (lo hi : Int) (h : k.range? = some (lo, hi)) :
    (Binary64.ofInt lo).toInt? = some lo ∧ (Binary64.ofInt (hi + 1)).toInt? = some (hi + 1) := by
  -- One past the greatest integer of 64 bits is a power of two, and so is a double.
  cases k with
  | plain => cases h
  | float => cases h
  | integer => cases h
  | signed w =>
    obtain ⟨rfl, rfl⟩ := Prod.mk.inj (Option.some.inj h)
    cases w <;> decide +kernel
  | unsigned w =>
    obtain ⟨rfl, rfl⟩ := Prod.mk.inj (Option.some.inj h)
    cases w <;> decide +kernel

/-- A whole number from `lo` up to `hi + 1`, which is left out, is an integer from `lo` to `hi`. -/
theorem sized_accepts_iff (k : NumberKind) (lo hi : Int) (h : k.range? = some (lo, hi))
    (x : Binary64) :
    (x.isWhole && (Binary64.ofInt lo).le x && x.lt (Binary64.ofInt (hi + 1))) =
      x.toInt?.any fun n => lo ≤ n && n ≤ hi := by
  obtain ⟨hlo, hhi⟩ := k.toInt?_ends lo hi h
  unfold Binary64.isWhole
  cases hx : x.toInt? with
  | none => rfl
  | some n =>
    have hle := Binary64.le_iff_of_toInt? _ x lo n hlo hx
    have hlt := Binary64.lt_iff_of_toInt? x _ n (hi + 1) hx hhi
    rw [Bool.eq_iff_iff]
    simp only [Option.isSome_some, Bool.true_and, Bool.and_eq_true, Option.any_some,
      decide_eq_true_eq]
    rw [hle, hlt, Int.lt_add_one_iff]

/-- The kind test of a number node accepts the numbers of the kind and no other value. -/
theorem accepts_test (k : NumberKind) (v : Value) :
    k.test.accepts v = v.number?.any k.admits := by
  unfold test
  cases hr : k.range? with
  | some range =>
    -- A sized kind: the ends of its range are compared as doubles.
    obtain ⟨lo, hi⟩ := range
    have hadmits : k.admits = fun x => x.toInt?.any fun n => lo ≤ n && n ≤ hi := by
      funext x
      unfold admits
      rw [hr]
    have hsized := k.sized_accepts_iff lo hi hr
    rw [hadmits]
    simp only [KindTest.accepts, hsized]
  | none =>
    -- Without a range it only matters whether the number is whole.
    have hadmits : k.admits = fun x => !k.isIntegral || x.isWhole := by
      funext x
      unfold admits
      rw [hr]
      rfl
    rw [hadmits]
    cases hi : k.isIntegral with
    | true => rfl
    | false => cases v <;> rfl

end NumberKind

end DataShape
