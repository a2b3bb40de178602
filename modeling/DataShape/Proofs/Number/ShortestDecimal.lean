import DataShape.Proofs.Number.Rounding
import Mathlib.Data.List.TakeWhile

/-!
# The shortest decimal reads back

The digits that are written of a double are those of a decimal that the double attracts
(`FiniteDouble.shortest_spec`). A point of the grid is taken only if it lies among what
rounds to the double, and the exact decimal, which stands behind the shorter ones, is the double
itself. So a reader that rounds to the nearest double finds the double again.

`Decimal.value` is the natural number that the digits spell. A decimal has many such forms, since zeros
may stand at the end of its digits; a double attracts all of them alike
(`FiniteDouble.attractsDecimal_mul_pow`).
-/

namespace DataShape

/-! ## Decimals that a double attracts -/

namespace FiniteDouble

/-- The decimal `coeff * 10^exp` is among what rounds to the magnitude of `x`. -/
def AttractsDecimal (x : FiniteDouble) (coeff : Nat) (exp : Int) : Prop :=
  x.Attracts (coeff * unitsOfOne * Nat.pow 10 exp.toNat) (Nat.pow 10 (-exp).toNat)

variable (x : FiniteDouble)

/-- A double attracts a decimal with zeros at its end if it does without them. -/
theorem attractsDecimal_mul_pow (coeff zeros : Nat) (exp : Int) :
    x.AttractsDecimal (coeff * 10 ^ zeros) exp ↔ x.AttractsDecimal coeff (exp + zeros) := by
  have hpos (n : Nat) : 0 < Nat.pow 10 n := Nat.pow_pos (by decide)
  -- What the exponent gains on one side of the quotient it loses on the other.
  have hpow : 10 ^ zeros * Nat.pow 10 exp.toNat * Nat.pow 10 (-(exp + zeros)).toNat =
      Nat.pow 10 (exp + zeros).toNat * Nat.pow 10 (-exp).toNat := by
    simp only [Nat.pow_eq, ← Nat.pow_add]
    congr 1
    omega
  have hcross : coeff * 10 ^ zeros * unitsOfOne * Nat.pow 10 exp.toNat *
        Nat.pow 10 (-(exp + zeros)).toNat =
      coeff * unitsOfOne * Nat.pow 10 (exp + zeros).toNat * Nat.pow 10 (-exp).toNat := by
    calc coeff * 10 ^ zeros * unitsOfOne * Nat.pow 10 exp.toNat *
          Nat.pow 10 (-(exp + zeros)).toNat =
        coeff * unitsOfOne *
          (10 ^ zeros * Nat.pow 10 exp.toNat * Nat.pow 10 (-(exp + zeros)).toNat) := by ring
      _ = _ := by rw [hpow, ← Nat.mul_assoc]
  exact ⟨fun h => h.congr (hpos _) (hpos _) hcross, fun h => h.congr (hpos _) (hpos _) hcross.symm⟩

/-- A point that reads back is one that the double attracts. -/
theorem attractsDecimal_of_readsBack (d : Nat) (k : Int) (h : x.readsBack d k = true) :
    x.AttractsDecimal d k := by
  have hmagnitude (den : Nat) : x.magnitude * den = x.mant * x.step den := by
    unfold magnitude step
    ring
  have hgap (den : Nat) : (if x.mant = Nat.pow 2 52 ∧ x.exp ≠ 0 then Nat.pow 2 x.exp
      else 2 * Nat.pow 2 x.exp) * den = x.twiceGapBelow den := by
    unfold twiceGapBelow step
    split_ifs <;> ring
  have hhigh (den : Nat) : (4 * x.magnitude + 2 * Nat.pow 2 x.exp) * den =
      4 * (x.mant * x.step den) + 2 * x.step den := by
    rw [← hmagnitude]
    unfold step
    ring
  unfold readsBack at h
  simp only [hhigh, Nat.sub_mul, hgap, Nat.mul_assoc 4, hmagnitude] at h
  split_ifs at h with heven
  · rw [Bool.and_eq_true, decide_eq_true_eq, decide_eq_true_eq] at h
    exact ⟨by omega, h.2, fun hodd => by omega⟩
  · rw [Bool.and_eq_true, decide_eq_true_eq, decide_eq_true_eq] at h
    exact ⟨by omega, h.2.le, fun _ => ⟨by omega, h.2.ne⟩⟩

/-- The exact decimal of a double is one that the double attracts. -/
theorem attractsDecimal_exact (u : Nat) (h : unitsOfOne = Nat.pow 2 u) :
    x.AttractsDecimal (x.magnitude * Nat.pow 5 u) (-u) := by
  have hself := x.attracts_self 1 Nat.one_pos
  have hmagnitude : x.mant * x.step 1 = x.magnitude := by
    unfold step magnitude
    rw [Nat.one_mul]
  have hzero : (-(u : Int)).toNat = 0 := by omega
  have hneg : (-(-(u : Int))).toNat = u := by omega
  have hten : Nat.pow 10 u = Nat.pow 5 u * Nat.pow 2 u := Nat.mul_pow 5 2 u
  rw [hmagnitude] at hself
  unfold AttractsDecimal
  rw [hzero, hneg]
  refine hself.congr Nat.one_pos (Nat.pow_pos (by decide)) ?_
  rw [hten, h, show Nat.pow 10 0 = 1 from rfl]
  ring

/-- What stands on a grid for a double is one that the double attracts. -/
theorem attractsDecimal_of_onGrid? (tie : TieRule) (k : Int) (d : Decimal)
    (h : x.onGrid? tie k = some d) :
    ∃ coeff, d = .ofCoefficient coeff k ∧ x.AttractsDecimal coeff k := by
  unfold onGrid? at h
  dsimp only at h
  split at h
  next hd hd' =>
    cases h
    split_ifs
    · exact ⟨_, rfl, x.attractsDecimal_of_readsBack _ k hd'⟩
    · exact ⟨_, rfl, x.attractsDecimal_of_readsBack _ k hd⟩
  next hd _ =>
    cases h
    exact ⟨_, rfl, x.attractsDecimal_of_readsBack _ k hd⟩
  next _ hd' =>
    cases h
    exact ⟨_, rfl, x.attractsDecimal_of_readsBack _ k hd'⟩
  next => cases h

/-- The shortest decimal of a double is one that the double attracts. -/
theorem exists_shortest (tie : TieRule) :
    ∃ coeff exp, x.shortest tie = .ofCoefficient coeff exp ∧ x.AttractsDecimal coeff exp := by
  unfold shortest
  dsimp only
  cases hfound : (List.range 17).findSome? fun (n : Nat) =>
      x.onGrid? tie (x.leadingExponent - n) with
  | none =>
    obtain ⟨u, hunits, hu⟩ := Binary64.exists_unitsOfOne_eq_pow
    have hexact := x.attractsDecimal_exact u hunits
    rw [show -(u : Int) = -1074 by omega] at hexact
    rw [← hu]
    exact ⟨_, _, rfl, hexact⟩
  | some d =>
    obtain ⟨n, -, hn⟩ := List.exists_of_findSome?_eq_some hfound
    obtain ⟨coeff, hd, hattracts⟩ := x.attractsDecimal_of_onGrid? tie _ d hn
    exact ⟨coeff, _, hd, hattracts⟩

end FiniteDouble

/-! ## The digits of a decimal -/

namespace Decimal

/-- The number that the digits spell. -/
def value (d : Decimal) : Nat := Nat.ofDigitChars 10 d.digits 0

/-- The digits of a coefficient are those that are kept, and then zeros. -/
theorem exists_zeros (coeff : Nat) (exp : Int) : ∃ zeros, Nat.toDigits 10 coeff =
    (ofCoefficient coeff exp).digits ++ List.replicate zeros '0' := by
  have hsplit := congrArg List.reverse
    (List.takeWhile_append_dropWhile (p := (· == '0')) (l := (Nat.toDigits 10 coeff).reverse))
  rw [List.reverse_append, List.reverse_reverse] at hsplit
  have hzeros : ∀ c ∈ (Nat.toDigits 10 coeff).reverse.takeWhile (· == '0'), c = '0' :=
    fun c hc => eq_of_beq (List.mem_takeWhile_imp (p := (· == '0')) hc)
  rw [List.eq_replicate_of_mem hzeros, List.reverse_replicate] at hsplit
  exact ⟨_, hsplit.symm⟩

/-- What is known of the decimal of a coefficient: its digits are digits, and it is the same number as
the coefficient with its exponent. -/
theorem ofCoefficient_spec (coeff : Nat) (exp : Int) :
    (∀ c ∈ (ofCoefficient coeff exp).digits, c.isDigit = true) ∧
      ∃ zeros : Nat, coeff = (ofCoefficient coeff exp).value * 10 ^ zeros ∧
        exp + zeros = (ofCoefficient coeff exp).point - (ofCoefficient coeff exp).digits.length := by
  obtain ⟨zeros, hdigits⟩ := exists_zeros coeff exp
  refine ⟨fun c hc => ?_, zeros, ?_, ?_⟩
  · have hmem : c ∈ Nat.toDigits 10 coeff := hdigits ▸ List.mem_append_left _ hc
    exact Nat.isDigit_of_mem_toDigits (by decide) (by decide) hmem
  · have hvalue := congrArg (Nat.ofDigitChars 10 · 0) hdigits
    rw [Nat.ofDigitChars_ten_toDigits, Nat.ofDigitChars_append, Nat.ofDigitChars_replicate_zero,
      Nat.mul_comm] at hvalue
    exact hvalue
  · have hlength := congrArg List.length hdigits
    rw [List.length_append, List.length_replicate] at hlength
    have hpoint : (ofCoefficient coeff exp).point = exp + (Nat.toDigits 10 coeff).length := rfl
    omega

end Decimal

/-- The shortest decimal of a double other than zero has digits, and is one that the double
attracts. -/
theorem FiniteDouble.shortest_spec (x : FiniteDouble) (hx : x.mant ≠ 0) (tie : TieRule) :
    (∀ c ∈ (x.shortest tie).digits, c.isDigit = true) ∧ (x.shortest tie).digits ≠ [] ∧
      x.AttractsDecimal (x.shortest tie).value
        ((x.shortest tie).point - (x.shortest tie).digits.length) := by
  obtain ⟨coeff, exp, hshortest, hattracts⟩ := x.exists_shortest tie
  obtain ⟨hdigits, zeros, hcoeff, hexp⟩ := Decimal.ofCoefficient_spec coeff exp
  rw [← hshortest] at hdigits hcoeff hexp
  rw [hcoeff, x.attractsDecimal_mul_pow, hexp] at hattracts
  refine ⟨hdigits, fun hnil => ?_, hattracts⟩
  have hpos := hattracts.num_pos hx (Nat.pow_pos (by decide))
  unfold Decimal.value at hpos
  rw [hnil, Nat.ofDigitChars_nil, Nat.zero_mul, Nat.zero_mul] at hpos
  exact Nat.lt_irrefl 0 hpos

end DataShape
