import DataShape.Number.Shortest
import Mathlib.Tactic.Ring

/-!
# What rounds to a double

A finite double attracts the quotients that are nearer to it than to its neighbours
(`FiniteDouble.Attracts`), with the ends of that interval if its significand is even. Rounding is right
on all of them: whatever a double attracts is rounded to it (`Binary64.ofUnits_of_attracts`). Decimals
are rounded in the same way, although powers of ten that are out of all range are never computed
(`Binary64.ofDecimal_of_attracts`).

Everything is counted in units of `2^-1074`, so that the interval has natural numbers for its ends.
-/

namespace DataShape

namespace FiniteDouble

/-- One step of the significand, when units are counted in parts of `1 / den`. -/
def step (x : FiniteDouble) (den : Nat) : Nat := den * Nat.pow 2 x.exp

/-- Twice the gap to the double below, which is half as wide when the significand is the least one of
its exponent. -/
def twiceGapBelow (x : FiniteDouble) (den : Nat) : Nat :=
  if x.mant = Nat.pow 2 52 ∧ x.exp ≠ 0 then x.step den else 2 * x.step den

/-- The gap below is no wider than the one above. -/
theorem twiceGapBelow_le (x : FiniteDouble) (den : Nat) : x.twiceGapBelow den ≤ 2 * x.step den := by
  unfold twiceGapBelow
  split_ifs <;> omega

/-- The quotient `num / den` lies between the ends of what rounds to the magnitude of `x`, and is an
end only if the significand is even. The ends stand half a gap below `x` and half a step above. -/
structure Attracts (x : FiniteDouble) (num den : Nat) : Prop where
  least : 4 * (x.mant * x.step den) ≤ 4 * num + x.twiceGapBelow den
  most : 4 * num ≤ 4 * (x.mant * x.step den) + 2 * x.step den
  noEnd : x.mant % 2 = 1 → 4 * (x.mant * x.step den) ≠ 4 * num + x.twiceGapBelow den ∧
    4 * num ≠ 4 * (x.mant * x.step den) + 2 * x.step den

/-- A double attracts itself. -/
theorem attracts_self (x : FiniteDouble) (den : Nat) (hden : 0 < den) :
    x.Attracts (x.mant * x.step den) den := by
  have hstep : 0 < x.step den := Nat.mul_pos hden (Nat.pow_pos Nat.zero_lt_two)
  have hgap : 0 < x.twiceGapBelow den := by
    unfold twiceGapBelow
    split_ifs <;> omega
  exact ⟨by omega, by omega, fun _ => ⟨by omega, by omega⟩⟩

namespace Attracts

variable {x : FiniteDouble} {num den : Nat}

/-- A quotient that a double attracts is at most one step above it. -/
theorem le_step (h : x.Attracts num den) : num ≤ (x.mant + 1) * x.step den := by
  have hmost := h.most
  rw [Nat.add_mul]
  omega

/-- A quotient that a double other than zero attracts is at least half a step. -/
theorem step_le (h : x.Attracts num den) (hx : x.mant ≠ 0) : x.step den ≤ 2 * num := by
  have hleast := h.least
  have hgap := x.twiceGapBelow_le den
  have hone : x.step den ≤ x.mant * x.step den :=
    Nat.le_mul_of_pos_left _ (Nat.pos_of_ne_zero hx)
  omega

/-- A double other than zero does not attract zero. -/
theorem num_pos (h : x.Attracts num den) (hx : x.mant ≠ 0) (hden : 0 < den) : 0 < num := by
  have hstep : 0 < x.step den := Nat.mul_pos hden (Nat.pow_pos Nat.zero_lt_two)
  have hleast := h.step_le hx
  omega

/-- A double attracts a quotient in any terms if it does in the lowest. -/
theorem mul_iff (factor : Nat) (hfactor : 0 < factor) :
    x.Attracts (num * factor) (den * factor) ↔ x.Attracts num den := by
  have hstep : x.step (den * factor) = x.step den * factor := Nat.mul_right_comm den factor _
  have hgap : x.twiceGapBelow (den * factor) = x.twiceGapBelow den * factor := by
    unfold twiceGapBelow
    rw [hstep, ← Nat.mul_assoc]
    split_ifs <;> rfl
  have hleast : 4 * (x.mant * x.step (den * factor)) = 4 * (x.mant * x.step den) * factor := by
    rw [hstep]
    ring
  have hlow : 4 * (num * factor) + x.twiceGapBelow (den * factor) =
      (4 * num + x.twiceGapBelow den) * factor := by
    rw [hgap]
    ring
  have hnum : 4 * (num * factor) = 4 * num * factor := by ring
  have hhigh : 4 * (x.mant * x.step (den * factor)) + 2 * x.step (den * factor) =
      (4 * (x.mant * x.step den) + 2 * x.step den) * factor := by
    rw [hstep]
    ring
  constructor
  · rintro ⟨h₁, h₂, h₃⟩
    rw [hlow, hleast] at h₁
    rw [hhigh, hnum] at h₂
    refine ⟨Nat.le_of_mul_le_mul_right h₁ hfactor, Nat.le_of_mul_le_mul_right h₂ hfactor,
      fun hodd => ?_⟩
    have hends := h₃ hodd
    rw [hlow, hhigh, hleast, hnum] at hends
    exact ⟨fun heq => hends.1 (congrArg (· * factor) heq),
      fun heq => hends.2 (congrArg (· * factor) heq)⟩
  · rintro ⟨h₁, h₂, h₃⟩
    refine ⟨?_, ?_, fun hodd => ?_⟩
    · rw [hlow, hleast]
      exact Nat.mul_le_mul_right factor h₁
    · rw [hhigh, hnum]
      exact Nat.mul_le_mul_right factor h₂
    · rw [hlow, hhigh, hleast, hnum]
      exact (h₃ hodd).imp (fun hne heq => hne (Nat.eq_of_mul_eq_mul_right hfactor heq))
        fun hne heq => hne (Nat.eq_of_mul_eq_mul_right hfactor heq)

/-- A double attracts equal quotients alike. -/
theorem congr {num' den' : Nat} (h : x.Attracts num den) (hden : 0 < den) (hden' : 0 < den')
    (heq : num * den' = num' * den) : x.Attracts num' den' := by
  rw [← mul_iff den hden, ← heq, Nat.mul_comm den']
  exact (mul_iff den' hden').2 h

end Attracts

end FiniteDouble

namespace Binary64

/-! ## Quotients -/

/-- A quotient is rounded to an integer that it is nearest to, or half between an even one and its
neighbour. -/
theorem roundQuotient_eq (num den k : Nat) (hden : 0 < den)
    (hleast : 2 * (k * den) ≤ 2 * num + den) (hmost : 2 * num ≤ 2 * (k * den) + den)
    (hodd : k % 2 = 1 → 2 * (k * den) ≠ 2 * num + den ∧ 2 * num ≠ 2 * (k * den) + den) :
    roundQuotient num den = k := by
  have hdiv := Nat.div_add_mod' num den
  have hmod := Nat.mod_lt num hden
  have hround : roundQuotient num den =
      if den < 2 * (num % den) ∨ (2 * (num % den) = den ∧ num / den % 2 = 1)
        then num / den + 1 else num / den := rfl
  rw [hround]
  generalize num / den = q at hdiv ⊢
  generalize num % den = r at hdiv hmod ⊢
  -- The integer is the quotient without its remainder, or the next one.
  have hlo : q ≤ k := by
    by_contra hlt
    have hstep : (k + 1) * den ≤ q * den := Nat.mul_le_mul_right den (Nat.not_le.1 hlt)
    rw [Nat.add_mul] at hstep
    omega
  have hhi : k ≤ q + 1 := by
    by_contra hlt
    have hstep : (q + 2) * den ≤ k * den := Nat.mul_le_mul_right den (Nat.not_le.1 hlt)
    rw [Nat.add_mul] at hstep
    omega
  obtain rfl | rfl : k = q ∨ k = q + 1 := by omega
  · rw [if_neg (by omega)]
  · rw [Nat.add_mul] at hleast hmost hodd
    rw [if_pos (by omega)]

/-- The exponent of a quotient that fills 53 bits from the exponent on, or fewer if it is the least
exponent. -/
theorem log2_div_sub (num den exp : Nat) (hden : 0 < den)
    (hleast : exp = 0 ∨ Nat.pow 2 52 * (den * Nat.pow 2 exp) ≤ num)
    (hmost : num < Nat.pow 2 53 * (den * Nat.pow 2 exp)) : Nat.log2 (num / den) - 52 = exp := by
  simp only [Nat.pow_eq] at hleast hmost
  have hupper : num / den < 2 ^ (53 + exp) := by
    rw [Nat.div_lt_iff_lt_mul hden, Nat.pow_add]
    calc num < 2 ^ 53 * (den * 2 ^ exp) := hmost
      _ = 2 ^ 53 * 2 ^ exp * den := by ring
  rcases hleast with rfl | hleast
  · by_cases hzero : num / den = 0
    · rw [hzero]
      decide
    · have := (Nat.log2_lt hzero).2 hupper
      omega
  · have hlower : 2 ^ (52 + exp) ≤ num / den := by
      rw [Nat.le_div_iff_mul_le hden, Nat.pow_add]
      calc 2 ^ 52 * 2 ^ exp * den = 2 ^ 52 * (den * 2 ^ exp) := by ring
        _ ≤ num := hleast
    have hne : num / den ≠ 0 := (Nat.lt_of_lt_of_le (Nat.pow_pos Nat.zero_lt_two) hlower).ne'
    have := (Nat.log2_lt hne).2 hupper
    have := (Nat.le_log2 hne).2 hlower
    omega

/-- A double is the rounded quotient if its exponent and its significand are the rounded ones. -/
theorem ofUnits_of_parts (neg : Bool) (x : FiniteDouble) (num den : Nat)
    (hexp : Nat.log2 (num / den) - 52 = x.exp)
    (hmant : roundQuotient num (den * Nat.pow 2 x.exp) = x.mant) :
    ofUnits neg num den = finite { x with neg } := by
  have hne : x.mant ≠ Nat.pow 2 53 := Nat.ne_of_lt x.canonical.1
  unfold ofUnits
  simp only [hexp, hmant]
  rw [if_neg hne]
  unfold ofParts
  rw [dif_pos x.canonical]

/-- Below a double with the least significand of its exponent the exponent of a quotient is smaller
by one. The significand is then rounded up to one with a bit too many. -/
theorem ofUnits_of_narrow (neg : Bool) (x : FiniteDouble) (num den : Nat) (hden : 0 < den)
    (hmant : x.mant = Nat.pow 2 52) (hexp : x.exp ≠ 0)
    (hleast : 4 * (x.mant * x.step den) ≤ 4 * num + x.twiceGapBelow den)
    (hbelow : num < x.mant * x.step den) : ofUnits neg num den = finite { x with neg } := by
  obtain ⟨exp, hsucc⟩ := Nat.exists_eq_succ_of_ne_zero hexp
  have hstep : x.step den = 2 * (den * Nat.pow 2 exp) := by
    unfold FiniteDouble.step
    rw [hsucc]
    simp only [Nat.pow_eq, Nat.pow_succ]
    ring
  have hpos : 0 < den * Nat.pow 2 exp := Nat.mul_pos hden (Nat.pow_pos Nat.zero_lt_two)
  have hgap : x.twiceGapBelow den = x.step den := if_pos ⟨hmant, hexp⟩
  have hdouble : Nat.pow 2 53 * (den * Nat.pow 2 exp) =
      2 * (Nat.pow 2 52 * (den * Nat.pow 2 exp)) := by
    rw [show Nat.pow 2 53 = 2 * Nat.pow 2 52 from rfl, Nat.mul_assoc]
  have hroom : den * Nat.pow 2 exp ≤ Nat.pow 2 52 * (den * Nat.pow 2 exp) :=
    Nat.le_mul_of_pos_left _ (Nat.pow_pos Nat.zero_lt_two)
  rw [hgap, hmant, hstep, Nat.mul_left_comm (Nat.pow 2 52)] at hleast
  rw [hmant, hstep, Nat.mul_left_comm] at hbelow
  have hlog : Nat.log2 (num / den) - 52 = exp :=
    log2_div_sub num den exp hden (.inr (by omega)) (by omega)
  have hround : roundQuotient num (den * Nat.pow 2 exp) = Nat.pow 2 53 :=
    roundQuotient_eq num _ (Nat.pow 2 53) hpos (by omega) (by omega) fun hodd => nomatch hodd
  have hcanonical : CanonicalSignificand (Nat.pow 2 52) (exp + 1) := by
    have hx := x.canonical
    rwa [hmant, hsucc] at hx
  unfold ofUnits
  simp only [hlog, hround, if_true]
  unfold ofParts
  rw [dif_pos hcanonical]
  obtain ⟨xneg, mant, e, hx⟩ := x
  subst hmant hsucc
  rfl

/-- Whatever a double attracts is rounded to it. -/
theorem ofUnits_of_attracts (neg : Bool) (x : FiniteDouble) (num den : Nat) (hden : 0 < den)
    (h : x.Attracts num den) : ofUnits neg num den = finite { x with neg } := by
  obtain ⟨hleast, hmost, hnoEnd⟩ := h
  obtain ⟨hmant, hexp, hfull⟩ := x.canonical
  have hstep : 0 < x.step den := Nat.mul_pos hden (Nat.pow_pos Nat.zero_lt_two)
  have hbound : (x.mant + 1) * x.step den ≤ Nat.pow 2 53 * x.step den :=
    Nat.mul_le_mul_right _ hmant
  rw [Nat.add_mul] at hbound
  have hroom : num < Nat.pow 2 53 * x.step den := by omega
  rcases Nat.lt_or_ge num (x.mant * x.step den) with hbelow | habove
  · by_cases hnarrow : x.mant = Nat.pow 2 52 ∧ x.exp ≠ 0
    · exact ofUnits_of_narrow neg x num den hden hnarrow.1 hnarrow.2 hleast hbelow
    · unfold FiniteDouble.twiceGapBelow at hleast hnoEnd
      rw [if_neg hnarrow] at hleast hnoEnd
      refine ofUnits_of_parts neg x num den (log2_div_sub num den x.exp hden ?_ hroom) ?_
      · rw [or_iff_not_imp_left]
        intro hne
        -- The significand is not the least one, so half a step below there are still 53 bits.
        have hmore : Nat.pow 2 52 + 1 ≤ x.mant :=
          Nat.lt_of_le_of_ne (hfull.resolve_left hne) fun heq => hnarrow ⟨heq.symm, hne⟩
        have hfloor := Nat.mul_le_mul_right (x.step den) hmore
        rw [Nat.add_mul] at hfloor
        show Nat.pow 2 52 * x.step den ≤ num
        omega
      · exact roundQuotient_eq num (x.step den) x.mant hstep (by omega) (by omega) (by omega)
  · have hgap := x.twiceGapBelow_le den
    refine ofUnits_of_parts neg x num den (log2_div_sub num den x.exp hden ?_ hroom) ?_
    · exact hfull.imp_right fun hfull => (Nat.mul_le_mul_right _ hfull).trans habove
    · exact roundQuotient_eq num (x.step den) x.mant hstep (by omega) (by omega) (by omega)

/-! ## Integers -/

/-- A quotient is not rounded up past an integer. -/
theorem roundQuotient_le (num den k : Nat) (hden : 0 < den) (h : num ≤ k * den) :
    roundQuotient num den ≤ k := by
  have hdiv := Nat.div_add_mod' num den
  have hmod := Nat.mod_lt num hden
  have hq : num / den ≤ k := Nat.div_le_of_le_mul (Nat.mul_comm k den ▸ h)
  unfold roundQuotient
  dsimp only
  split_ifs with hup
  · -- There is a remainder, so the quotient is below the integer.
    refine Nat.lt_of_le_of_ne hq fun heq => ?_
    rw [heq] at hdiv
    omega
  · exact hq

/-- A quotient is not rounded down past an integer. -/
theorem le_roundQuotient (num den k : Nat) (hden : 0 < den) (h : k * den ≤ num) :
    k ≤ roundQuotient num den := by
  have hq : k ≤ num / den := (Nat.le_div_iff_mul_le hden).2 h
  unfold roundQuotient
  dsimp only
  split_ifs <;> omega

/-- A whole number of units that is not past all doubles is rounded to a finite double. -/
theorem isFinite_ofUnits (neg : Bool) (num : Nat) (h : Nat.log2 num ≤ 2096) :
    (ofUnits neg num 1).isFinite = true := by
  have hupper : num < 2 ^ (Nat.log2 num + 1) := Nat.lt_log2_self
  have hdiv : num / 1 = num := Nat.div_one num
  have hpos : 0 < 1 * Nat.pow 2 (Nat.log2 num - 52) :=
    Nat.mul_pos Nat.one_pos (Nat.pow_pos Nat.zero_lt_two)
  have hmost : roundQuotient num (1 * Nat.pow 2 (Nat.log2 num - 52)) ≤ Nat.pow 2 53 := by
    refine roundQuotient_le num _ _ hpos ?_
    rw [Nat.one_mul, Nat.pow_eq, Nat.pow_eq, ← Nat.pow_add]
    exact hupper.le.trans (Nat.pow_le_pow_right Nat.zero_lt_two (by omega))
  have hleast : Nat.log2 num - 52 = 0 ∨
      Nat.pow 2 52 ≤ roundQuotient num (1 * Nat.pow 2 (Nat.log2 num - 52)) := by
    rw [or_iff_not_imp_left]
    intro hexp
    refine le_roundQuotient num _ _ hpos ?_
    rw [Nat.one_mul, Nat.pow_eq, Nat.pow_eq, ← Nat.pow_add,
      show 52 + (Nat.log2 num - 52) = Nat.log2 num by omega]
    exact Nat.log2_self_le fun hzero => hexp (by rw [hzero]; rfl)
  unfold ofUnits
  simp only [hdiv]
  split_ifs with hfull
  · unfold ofParts
    rw [dif_pos ⟨by decide, by omega, .inr le_rfl⟩]
    rfl
  · unfold ofParts
    rw [dif_pos ⟨Nat.lt_of_le_of_ne hmost hfull, by omega, hleast⟩]
    rfl

/-- One in units is a power of two. The exponent is kept as a variable, so that the power is not
computed. -/
theorem exists_unitsOfOne_eq_pow : ∃ u, FiniteDouble.unitsOfOne = Nat.pow 2 u ∧ u = 1074 := by
  unfold FiniteDouble.unitsOfOne
  exact ⟨1074, rfl, rfl⟩

/-- An integer of 64 bits is rounded to a finite double. -/
theorem isFinite_ofInt (n : Int) (h : n.natAbs ≤ 2 ^ 64) : (ofInt n).isFinite = true := by
  obtain ⟨u, hunits, hu⟩ := exists_unitsOfOne_eq_pow
  unfold ofInt ofRatio
  refine isFinite_ofUnits _ _ ?_
  by_cases hzero : n.natAbs * FiniteDouble.unitsOfOne = 0
  · rw [hzero]
    exact Nat.zero_le _
  · have hlt : n.natAbs * FiniteDouble.unitsOfOne < 2 ^ (65 + u) := by
      calc n.natAbs * FiniteDouble.unitsOfOne ≤ 2 ^ 64 * Nat.pow 2 u := by
            rw [hunits]
            exact Nat.mul_le_mul_right _ h
        _ = 2 ^ (64 + u) := by rw [Nat.pow_eq, Nat.pow_add]
        _ < 2 ^ (65 + u) := Nat.pow_lt_pow_right Nat.one_lt_two (by omega)
    have hlog := (Nat.log2_lt hzero).2 hlt
    omega

/-! ## Decimals -/

section

variable (x : FiniteDouble) (coeff exp : Nat)

/-- A power of eight is at most the power of ten. -/
theorem two_pow_le_ten_pow : 2 ^ (3 * exp) ≤ Nat.pow 10 exp := by
  rw [Nat.pow_mul]
  exact Nat.pow_le_pow_left (by decide) exp

/-- A decimal that a double attracts has no exponent past those of all doubles. -/
theorem exp_le_of_attracts (hcoeff : coeff ≠ 0)
    (h : x.Attracts (coeff * FiniteDouble.unitsOfOne * Nat.pow 10 exp) 1) : exp ≤ 400 := by
  obtain ⟨u, hunits, hu⟩ := exists_unitsOfOne_eq_pow
  obtain ⟨hmant, hexp, -⟩ := x.canonical
  have hpow : 2 ^ (u + 3 * exp) ≤ 2 ^ (53 + x.exp) := by
    calc 2 ^ (u + 3 * exp) = FiniteDouble.unitsOfOne * 2 ^ (3 * exp) := by
          rw [hunits, Nat.pow_eq, Nat.pow_add]
      _ ≤ FiniteDouble.unitsOfOne * Nat.pow 10 exp := Nat.mul_le_mul_left _ (two_pow_le_ten_pow exp)
      _ ≤ coeff * FiniteDouble.unitsOfOne * Nat.pow 10 exp :=
          Nat.mul_le_mul_right _ (Nat.le_mul_of_pos_left _ (Nat.pos_of_ne_zero hcoeff))
      _ ≤ (x.mant + 1) * x.step 1 := h.le_step
      _ ≤ 2 ^ 53 * x.step 1 := Nat.mul_le_mul_right _ hmant
      _ = 2 ^ (53 + x.exp) := by
          unfold FiniteDouble.step
          rw [Nat.one_mul, Nat.pow_eq, Nat.pow_add]
  have hle := (Nat.pow_le_pow_iff_right Nat.one_lt_two).1 hpow
  omega

/-- A decimal that a double other than zero attracts is not nearer to zero than all of them. -/
theorem exp_ge_of_attracts (hx : x.mant ≠ 0)
    (h : x.Attracts (coeff * FiniteDouble.unitsOfOne) (Nat.pow 10 exp)) :
    exp ≤ 400 + Nat.log2 coeff := by
  obtain ⟨u, hunits, hu⟩ := exists_unitsOfOne_eq_pow
  have hpow : 2 ^ (3 * exp) ≤ 2 ^ (1 + (Nat.log2 coeff + 1 + u)) := by
    calc 2 ^ (3 * exp) ≤ Nat.pow 10 exp := two_pow_le_ten_pow exp
      _ ≤ x.step (Nat.pow 10 exp) := Nat.le_mul_of_pos_right _ (Nat.pow_pos Nat.zero_lt_two)
      _ ≤ 2 * (coeff * FiniteDouble.unitsOfOne) := h.step_le hx
      _ ≤ 2 * (2 ^ (Nat.log2 coeff + 1) * FiniteDouble.unitsOfOne) :=
          Nat.mul_le_mul_left 2 (Nat.mul_le_mul_right _ Nat.lt_log2_self.le)
      _ = 2 ^ (1 + (Nat.log2 coeff + 1 + u)) := by
          rw [hunits, Nat.pow_eq, Nat.pow_add 2 1, Nat.pow_add 2 _ u, Nat.pow_one]
  have hle := (Nat.pow_le_pow_iff_right Nat.one_lt_two).1 hpow
  omega

end

/-- A decimal that a double other than zero attracts is rounded to it. -/
theorem ofDecimal_of_attracts (neg : Bool) (x : FiniteDouble) (hx : x.mant ≠ 0) (coeff : Nat)
    (exp : Int)
    (h : x.Attracts (coeff * FiniteDouble.unitsOfOne * Nat.pow 10 exp.toNat)
      (Nat.pow 10 (-exp).toNat)) :
    ofDecimal neg coeff exp = finite { x with neg } := by
  have hden : 0 < Nat.pow 10 (-exp).toNat := Nat.pow_pos (by decide)
  have hcoeff : coeff ≠ 0 := by
    rintro rfl
    have hpos := h.num_pos hx hden
    rw [Nat.zero_mul, Nat.zero_mul] at hpos
    exact Nat.lt_irrefl 0 hpos
  have hround := ofUnits_of_attracts neg x _ _ hden h
  unfold ofDecimal
  rw [if_neg hcoeff]
  rcases Int.lt_or_le exp 0 with hneg | hpos
  · have hzero : exp.toNat = 0 := by omega
    rw [hzero, Nat.pow_eq, Nat.pow_zero, Nat.mul_one] at h hround
    have hexp := exp_ge_of_attracts x coeff (-exp).toNat hx h
    rw [if_neg (by omega), if_neg (by omega), if_neg (by omega)]
    exact hround
  · have hzero : (-exp).toNat = 0 := by omega
    rw [hzero, show Nat.pow 10 0 = 1 from rfl] at h hround
    have hexp := exp_le_of_attracts x coeff exp.toNat hcoeff h
    rw [if_neg (by omega), if_neg (by omega), if_pos hpos]
    unfold ofRatio
    rw [Nat.mul_right_comm]
    exact hround

end Binary64

end DataShape
