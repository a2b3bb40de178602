import DataShape.Number.Binary64

/-!
# The order of doubles

Every double but NaN has a place on the line, its rank. A comparison is one of places, and false as
soon as a side has none. So `x.lt y = false` says less than `y.le x = true`: it also holds when
there is nothing to compare (`Binary64.lt_eq_false_iff_eq_nan_or_le`).
-/

namespace DataShape

namespace Binary64

/-- NaN alone has no place. -/
theorem rank_eq_none_iff (x : Binary64) : x.rank = none ↔ x = nan := by
  cases x <;> simp only [rank, reduceCtorEq]

/-- A finite number is not NaN. -/
theorem ne_nan_of_isFinite (x : Binary64) (h : x.isFinite = true) : x ≠ nan := by
  rintro rfl
  cases h

/-- One number is at most another when both have a place and the places are in that order. -/
theorem le_eq_true_iff (x y : Binary64) :
    x.le y = true ↔ ∃ a b, x.rank = some a ∧ y.rank = some b ∧ a ≤ b := by
  unfold le
  cases x.rank <;> cases y.rank <;> simp

/-- One number is not below another when their places, if both have one, are not in that order. -/
theorem lt_eq_false_iff_rank (x y : Binary64) :
    x.lt y = false ↔ ∀ a b, x.rank = some a → y.rank = some b → b ≤ a := by
  unfold lt
  cases x.rank <;> cases y.rank <;> simp

/-- What is not below a bound is not below a lower one. -/
theorem not_lt_of_le (x bound bound' : Binary64) (hle : bound'.le bound = true)
    (h : x.lt bound = false) : x.lt bound' = false := by
  obtain ⟨b', b, hb', hb, hlower⟩ := (le_eq_true_iff _ _).1 hle
  have hplaces := (lt_eq_false_iff_rank _ _).1 h
  refine (lt_eq_false_iff_rank _ _).2 fun a c ha hc => ?_
  obtain rfl : b' = c := Option.some.inj (hb'.symm.trans hc)
  exact Int.le_trans hlower (hplaces a b ha hb)

/-- What is not above a bound is not above a higher one. -/
theorem not_gt_of_le (x bound bound' : Binary64) (hle : bound.le bound' = true)
    (h : bound.lt x = false) : bound'.lt x = false := by
  obtain ⟨b, b', hb, hb', hhigher⟩ := (le_eq_true_iff _ _).1 hle
  have hplaces := (lt_eq_false_iff_rank _ _).1 h
  refine (lt_eq_false_iff_rank _ _).2 fun c a hc ha => ?_
  obtain rfl : b' = c := Option.some.inj (hb'.symm.trans hc)
  exact Int.le_trans (hplaces b a hb ha) hhigher

/-- One number is not below another when one of them is NaN, or else when the other is at most the
one. -/
theorem lt_eq_false_iff_eq_nan_or_le (x y : Binary64) :
    x.lt y = false ↔ x = nan ∨ y = nan ∨ y.le x = true := by
  rw [lt_eq_false_iff_rank, le_eq_true_iff, ← rank_eq_none_iff, ← rank_eq_none_iff]
  cases hx : x.rank with
  | none => simp
  | some a =>
    cases hy : y.rank with
    | none => simp
    | some b => simp

/-- Finite numbers are in order when the greater is not below the lesser. -/
theorem lt_eq_false_iff (x y : Binary64) (hx : x.isFinite = true) (hy : y.isFinite = true) :
    y.lt x = false ↔ x.le y = true := by
  rw [lt_eq_false_iff_eq_nan_or_le, or_iff_right (y.ne_nan_of_isFinite hy),
    or_iff_right (x.ne_nan_of_isFinite hx)]

/-- A number is not below a finite bound when it is NaN or the bound is at most the number. -/
theorem not_lt_bound_iff (x bound : Binary64) (hbound : bound.isFinite = true) :
    x.lt bound = false ↔ x = nan ∨ bound.le x = true := by
  rw [lt_eq_false_iff_eq_nan_or_le, or_iff_right (bound.ne_nan_of_isFinite hbound)]

/-- A number is not above a finite bound when it is NaN or at most the bound. -/
theorem not_gt_bound_iff (x bound : Binary64) (hbound : bound.isFinite = true) :
    bound.lt x = false ↔ x = nan ∨ x.le bound = true := by
  rw [lt_eq_false_iff_eq_nan_or_le, or_iff_right (bound.ne_nan_of_isFinite hbound)]

end Binary64

end DataShape
