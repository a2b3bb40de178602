import DataShape.Proofs.Number.Rounding
import DataShape.Proofs.Number.WholeRange
import Mathlib.Algebra.Order.Field.Rat
import Mathlib.Data.Rat.Cast.CharZero

/-!
# Rounding keeps doubles as they are

Rounding is exact where it can be: the double nearest to a number that is a double is that double
(`Binary64.ofUnits_magnitude`). So a whole double that is written down as an integer is read back
unchanged, but for the sign of zero (`Binary64.ofInt_of_toInt?`).

`Binary64.toRat?` says which rational number a double is. It gives "mathematically an integer" a
meaning of its own, and `Binary64.toInt?_eq_some_iff` shows that the integer test agrees with it.
-/

namespace DataShape

/-! ## The number that a double is -/

/-- The rational number that a finite double is. -/
def FiniteDouble.toRat (x : FiniteDouble) : ℚ := x.units / (unitsOfOne : ℚ)

/-- The rational number that a double is. NaN and the infinities are none. -/
def Binary64.toRat? : Binary64 → Option ℚ
  | finite x => some x.toRat
  | _ => none

/-- Negative zero. -/
def FiniteDouble.negZero : FiniteDouble := ⟨true, 0, 0, FiniteDouble.zero.canonical⟩

namespace FiniteDouble

/-- One is a positive number of units. -/
theorem zero_lt_unitsOfOne : 0 < unitsOfOne := Int.natCast_pos.1 Binary64.unitsOfOne_pos

/-- The units of a double without their sign. -/
theorem natAbs_units (x : FiniteDouble) : x.units.natAbs = x.magnitude := by
  unfold units
  cases x.neg <;> simp

/-- The magnitude of a double whose units are those of an integer. -/
theorem magnitude_of_units (x : FiniteDouble) (n : Int) (h : x.units = n * (unitsOfOne : Int)) :
    x.magnitude = n.natAbs * unitsOfOne := by
  rw [← natAbs_units, h, Int.natAbs_mul, Int.natAbs_natCast]

/-- A double whose units are those of an integer is that integer. -/
theorem toInt?_of_units (x : FiniteDouble) (n : Int) (h : x.units = n * (unitsOfOne : Int)) :
    x.toInt? = some n := by
  have hpos : (0 : Int) < unitsOfOne := Int.natCast_pos.2 zero_lt_unitsOfOne
  -- The magnitude is that of the integer, and the sign is kept beside it.
  have hsign : (if x.neg then -(n.natAbs : Int) else n.natAbs) = n := by
    unfold units at h
    split_ifs at h ⊢ with hneg
    · have hn : n ≤ 0 := Int.le_of_mul_le_mul_right (by omega : n * _ ≤ 0 * _) hpos
      omega
    · have hn : 0 ≤ n := Int.le_of_mul_le_mul_right (by omega : 0 * _ ≤ n * _) hpos
      omega
  unfold toInt?
  rw [x.magnitude_of_units n h, Nat.mul_mod_left, if_pos rfl,
    Nat.mul_div_cancel _ zero_lt_unitsOfOne]
  exact congrArg some hsign

/-- A double is an integer when its units are those of the integer. -/
theorem toInt?_eq_some_iff_units (x : FiniteDouble) (n : Int) :
    x.toInt? = some n ↔ x.units = n * (unitsOfOne : Int) :=
  ⟨x.units_of_toInt? n, x.toInt?_of_units n⟩

/-- Nothing is cut off a double that is an integer. -/
theorem truncate_of_toInt? (x : FiniteDouble) (n : Int) (h : x.toInt? = some n) :
    x.truncate = n := by
  unfold toInt? at h
  split_ifs at h with hmod hneg
  · unfold truncate
    rw [if_pos hneg]
    exact Option.some.inj h
  · unfold truncate
    rw [if_neg hneg]
    exact Option.some.inj h

/-- A double without units is one of the zeros. -/
theorem eq_zero_or_negZero (x : FiniteDouble) (h : x.magnitude = 0) : x = zero ∨ x = negZero := by
  obtain ⟨neg, mant, exp, hcanonical⟩ := x
  have hmant : mant = 0 := by
    rcases Nat.mul_eq_zero.1 h with hmant | hpow
    · exact hmant
    · exact absurd hpow (Nat.pow_pos Nat.zero_lt_two).ne'
  -- Without a significand the exponent is the least one.
  have hexp : exp = 0 := by
    rcases hcanonical.2.2 with hexp | hfull
    · exact hexp
    · rw [hmant] at hfull
      exact absurd hfull (by decide)
  subst hmant hexp
  cases neg
  · exact Or.inl rfl
  · exact Or.inr rfl

/-- Every natural number up to `2^53` is a double. -/
theorem exists_toInt?_of_le (n : Nat) (h : n ≤ 2 ^ 53) : ∃ x : FiniteDouble, x.toInt? = some n := by
  obtain ⟨u, hunits, hu⟩ := Binary64.exists_unitsOfOne_eq_pow
  -- A double is the number if its significand is that of the number, moved by as many places as its
  -- exponent is off.
  have hread (mant exp : Nat) (hcanonical : CanonicalSignificand mant exp)
      (hmagnitude : mant * 2 ^ exp = n * 2 ^ u) : ∃ x : FiniteDouble, x.toInt? = some n := by
    refine ⟨⟨false, mant, exp, hcanonical⟩, toInt?_of_units _ _ ?_⟩
    rw [hunits, Nat.pow_eq, ← Int.natCast_mul, ← hmagnitude]
    rfl
  clear hunits
  rcases Nat.eq_zero_or_pos n with rfl | hpos
  · exact hread 0 0 zero.canonical (by rw [Nat.zero_mul, Nat.zero_mul])
  · have hself : 2 ^ Nat.log2 n ≤ n := Nat.log2_self_le hpos.ne'
    have hlog : Nat.log2 n ≤ 53 := (Nat.pow_le_pow_iff_right Nat.one_lt_two).1 (hself.trans h)
    rcases hlog.lt_or_eq with hlt | heq
    · -- The leading digit moves to the highest place of a significand.
      have hupper : n * 2 ^ (52 - Nat.log2 n) < 2 ^ 53 := by
        calc n * 2 ^ (52 - Nat.log2 n) < 2 ^ (Nat.log2 n + 1) * 2 ^ (52 - Nat.log2 n) :=
              Nat.mul_lt_mul_of_pos_right Nat.lt_log2_self (Nat.pow_pos Nat.zero_lt_two)
          _ = 2 ^ 53 := by
              rw [← Nat.pow_add]
              congr 1
              omega
      have hlower : 2 ^ 52 ≤ n * 2 ^ (52 - Nat.log2 n) := by
        calc 2 ^ 52 = 2 ^ Nat.log2 n * 2 ^ (52 - Nat.log2 n) := by
              rw [← Nat.pow_add]
              congr 1
              omega
          _ ≤ n * 2 ^ (52 - Nat.log2 n) := Nat.mul_le_mul_right _ hself
      refine hread (n * 2 ^ (52 - Nat.log2 n)) (u + Nat.log2 n - 52)
        ⟨hupper, by omega, .inr hlower⟩ ?_
      rw [Nat.mul_assoc, ← Nat.pow_add]
      congr 2
      omega
    · -- Only the greatest of the numbers has a leading digit past that place.
      have hn : n = 2 ^ 53 := Nat.le_antisymm h (heq ▸ hself)
      refine hread (2 ^ 52) (u + 1) ⟨by decide, by omega, .inr le_rfl⟩ ?_
      rw [hn, ← Nat.pow_add, ← Nat.pow_add]
      congr 1
      omega

end FiniteDouble

namespace Binary64

/-- The integer test finds the integers among the rational numbers. -/
theorem toInt?_eq_some_iff (x : Binary64) (n : Int) :
    x.toInt? = some n ↔ x.toRat? = some (n : ℚ) := by
  cases x with
  | nan => exact ⟨nofun, nofun⟩
  | infinity neg => exact ⟨nofun, nofun⟩
  | finite y =>
    have hone : (FiniteDouble.unitsOfOne : ℚ) ≠ 0 :=
      Nat.cast_ne_zero.2 FiniteDouble.zero_lt_unitsOfOne.ne'
    calc toInt? (finite y) = some n ↔ y.units = n * (FiniteDouble.unitsOfOne : Int) :=
          y.toInt?_eq_some_iff_units n
      _ ↔ (y.units : ℚ) = (n : ℚ) * (FiniteDouble.unitsOfOne : ℚ) := by
          rw [← Int.cast_inj (α := ℚ), Int.cast_mul, Int.cast_natCast]
      _ ↔ y.toRat = (n : ℚ) := (div_eq_iff hone).symm
      _ ↔ toRat? (finite y) = some (n : ℚ) := Option.some_inj.symm

/-! ## Rounding -/

/-- The double nearest to the units of a double is the double, with the sign that is asked for. -/
theorem ofUnits_magnitude (neg : Bool) (x : FiniteDouble) :
    ofUnits neg x.magnitude 1 = finite { x with neg } := by
  have hself := x.attracts_self 1 Nat.one_pos
  have hmagnitude : x.mant * x.step 1 = x.magnitude := by
    unfold FiniteDouble.step FiniteDouble.magnitude
    rw [Nat.one_mul]
  rw [hmagnitude] at hself
  exact ofUnits_of_attracts neg x x.magnitude 1 Nat.one_pos hself

/-- A double that is an integer is the double nearest to the integer. Of the zeros it is the
positive one. -/
theorem ofInt_of_toInt? (x : FiniteDouble) (n : Int) (h : x.toInt? = some n) :
    ofInt n = finite (if x = .negZero then .zero else x) := by
  have hunits := x.units_of_toInt? n h
  have hmag := x.magnitude_of_units n hunits
  have hround : ofInt n = finite { x with neg := decide (n < 0) } := by
    unfold ofInt ofRatio
    rw [← hmag]
    exact ofUnits_magnitude _ x
  rw [hround]
  by_cases hzero : x.magnitude = 0
  · -- An integer without units is zero, which is not below zero.
    have hn : n = 0 := by
      rcases Nat.mul_eq_zero.1 (hmag.symm.trans hzero) with hn | hone
      · exact Int.natAbs_eq_zero.1 hn
      · exact absurd hone FiniteDouble.zero_lt_unitsOfOne.ne'
    subst hn
    rcases x.eq_zero_or_negZero hzero with rfl | rfl
    · rfl
    · rfl
  · -- Any other integer has the sign of the double.
    have hsign : n < 0 ↔ x.neg = true := by
      unfold FiniteDouble.units at hunits
      rw [← Int.mul_lt_mul_right unitsOfOne_pos, ← hunits, Int.zero_mul]
      split_ifs with hneg
      · exact iff_of_true (by omega) hneg
      · exact iff_of_false (by omega) hneg
    have hne : x ≠ .negZero := by
      rintro rfl
      exact hzero (Nat.zero_mul _)
    rw [if_neg hne, Bool.decide_congr hsign, Bool.decide_eq_true]

/-- The double nearest to an integer is the integer if any double is. -/
theorem toInt?_ofInt_iff (n : Int) :
    (ofInt n).toInt? = some n ↔ ∃ x : Binary64, x.toInt? = some n := by
  refine ⟨fun h => ⟨_, h⟩, ?_⟩
  rintro ⟨x, hx⟩
  cases x with
  | nan => cases hx
  | infinity neg => cases hx
  | finite y =>
    rw [ofInt_of_toInt? y n hx]
    split_ifs with hzero
    · rw [← hx, hzero]
      decide +kernel
    · exact hx

/-- A natural number is rounded as an integer. -/
theorem ofNat_eq_ofInt (n : Nat) : ofNat n = ofInt n := by
  unfold ofInt ofNat
  rw [decide_eq_false (Int.not_lt.2 (Int.natCast_nonneg n)), Int.natAbs_natCast]

end Binary64

end DataShape
