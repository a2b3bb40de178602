import DataShape.Json.Basic
import DataShape.Proofs.Number.Exactness
import DataShape.Proofs.Number.ShortestDecimal

/-!
# Reading the text of a number

`Binary64.ofText?` reads a decimal: a sign, digits with a point among them, and an exponent. The
number is the double nearest to what the digits spell. Every text that is written of a finite double
is read as that double, in any style (`NumberStyle.ofText?_ofFinite`), since its digits are those of
a decimal that rounds to the double and the layout only says where the point stands. So are the
numbers of JSON documents, integers among them (`Json.ofText?_text`).

Hence doubles with the same text are the same (`NumberStyle.text_inj`). A text of a number is made
of few letters (`NumberStyle.isLetter_of_mem_text`), so it ends where another character stands.
-/

namespace DataShape

namespace Binary64

/-! ## A reader of decimals -/

/-- The number that digits spell. There has to be a digit, and nothing else. -/
def naturalOf? (cs : List Char) : Option Nat :=
  if cs ≠ [] ∧ cs.all Char.isDigit then some (Nat.ofDigitChars 10 cs 0) else none

/-- The exponent that stands behind the digits of a number, if it is written. -/
def exponentOf? : List Char → Option Int
  | [] => some 0
  | 'e' :: '-' :: cs => (naturalOf? cs).map fun n => -(n : Int)
  | 'e' :: '+' :: cs => (naturalOf? cs).map fun n => (n : Int)
  | 'e' :: cs => (naturalOf? cs).map fun n => (n : Int)
  | _ => none

/-- The digits behind a point, and what stands behind them. -/
def fractionOf : List Char → List Char × List Char
  | '.' :: cs => (cs.takeWhile Char.isDigit, cs.dropWhile Char.isDigit)
  | cs => ([], cs)

/-- A number without its sign. -/
def unsignedOf? (neg : Bool) (cs : List Char) : Option Binary64 := do
  let whole := cs.takeWhile Char.isDigit
  let (fraction, back) := fractionOf (cs.dropWhile Char.isDigit)
  let coeff ← naturalOf? (whole ++ fraction)
  let exp ← exponentOf? back
  return ofDecimal neg coeff (exp - fraction.length)

/-- The number that a text spells: the double nearest to the decimal. -/
def ofText? (s : String) : Option Binary64 :=
  match s.toList with
  | '-' :: cs => unsignedOf? true cs
  | cs => unsignedOf? false cs

/-! ## Reading digits -/

section

variable (whole fraction back : List Char)

/-- Digits spell a number. -/
theorem naturalOf?_eq (cs : List Char) (hne : cs ≠ []) (hdigits : ∀ c ∈ cs, c.isDigit = true) :
    naturalOf? cs = some (Nat.ofDigitChars 10 cs 0) :=
  if_pos ⟨hne, List.all_eq_true.2 hdigits⟩

/-- Digits are split off in front of what begins with no digit. -/
theorem span_digits (hdigits : ∀ c ∈ whole, c.isDigit = true)
    (hback : ∀ c ∈ back.head?, c.isDigit = false) :
    (whole ++ back).takeWhile Char.isDigit = whole ∧
      (whole ++ back).dropWhile Char.isDigit = back := by
  have hnone : back.takeWhile Char.isDigit = [] ∧ back.dropWhile Char.isDigit = back := by
    cases back with
    | nil => exact ⟨rfl, rfl⟩
    | cons c rest =>
      have hc := hback c rfl
      exact ⟨List.takeWhile_cons_of_neg (by simp [hc]), List.dropWhile_cons_of_neg (by simp [hc])⟩
  rw [List.takeWhile_append_of_pos hdigits, List.dropWhile_append_of_pos hdigits, hnone.1, hnone.2,
    List.append_nil]
  exact ⟨rfl, rfl⟩

/-- Behind the digits of a number stands nothing, or an exponent. -/
theorem eq_nil_or_of_exponentOf? (cs : List Char) (exp : Int) (h : exponentOf? cs = some exp) :
    cs = [] ∨ ∃ rest, cs = 'e' :: rest := by
  unfold exponentOf? at h
  split at h
  · exact .inl rfl
  · exact .inr ⟨_, rfl⟩
  · exact .inr ⟨_, rfl⟩
  · exact .inr ⟨_, rfl⟩
  · cases h

/-- A number without a point. -/
theorem unsignedOf?_whole (neg : Bool) (exp : Int) (hne : whole ≠ [])
    (hdigits : ∀ c ∈ whole, c.isDigit = true) (hexp : exponentOf? back = some exp) :
    unsignedOf? neg (whole ++ back) =
      some (ofDecimal neg (Nat.ofDigitChars 10 whole 0) exp) := by
  have hback := eq_nil_or_of_exponentOf? back exp hexp
  have hfraction : fractionOf back = ([], back) := by
    rcases hback with rfl | ⟨rest, rfl⟩ <;> rfl
  have hspan := span_digits whole back hdigits fun c hc => by
    rcases hback with rfl | ⟨rest, rfl⟩
    · cases hc
    · cases hc
      rfl
  unfold unsignedOf?
  simp only [hspan, hfraction, List.append_nil, naturalOf?_eq whole hne hdigits, hexp]
  simp

/-- A number with a point. -/
theorem unsignedOf?_point (neg : Bool) (exp : Int) (hne : whole ++ fraction ≠ [])
    (hdigits : ∀ c ∈ whole ++ fraction, c.isDigit = true) (hexp : exponentOf? back = some exp) :
    unsignedOf? neg (whole ++ '.' :: (fraction ++ back)) =
      some (ofDecimal neg (Nat.ofDigitChars 10 (whole ++ fraction) 0) (exp - fraction.length)) := by
  have hback := eq_nil_or_of_exponentOf? back exp hexp
  have hspan := span_digits whole ('.' :: (fraction ++ back))
    (fun c hc => hdigits c (List.mem_append_left _ hc)) fun c hc => by
      cases hc
      rfl
  have hspan' := span_digits fraction back
    (fun c hc => hdigits c (List.mem_append_right _ hc)) fun c hc => by
      rcases hback with rfl | ⟨rest, rfl⟩
      · cases hc
      · cases hc
        rfl
  have hfraction : fractionOf ('.' :: (fraction ++ back)) = (fraction, back) := by
    unfold fractionOf
    simp only [hspan']
  unfold unsignedOf?
  simp only [hspan, hfraction, naturalOf?_eq _ hne hdigits, hexp]
  simp

end

/-- An exponent without a sign. -/
theorem exponentOf?_digits (cs : List Char) (hne : cs ≠ [])
    (hdigits : ∀ c ∈ cs, c.isDigit = true) :
    exponentOf? ('e' :: cs) = some (Nat.ofDigitChars 10 cs 0 : Int) := by
  obtain ⟨c, rest, rfl⟩ := List.exists_cons_of_ne_nil hne
  have hc := hdigits c List.mem_cons_self
  have hminus : c ≠ '-' := by
    rintro rfl
    exact absurd hc (by decide)
  have hplus : c ≠ '+' := by
    rintro rfl
    exact absurd hc (by decide)
  have hread : exponentOf? ('e' :: c :: rest) = (naturalOf? (c :: rest)).map fun n => (n : Int) := by
    unfold exponentOf?
    split
    case h_2 heq => exact absurd (List.cons.inj (List.cons.inj heq).2).1 hminus
    case h_3 heq => exact absurd (List.cons.inj (List.cons.inj heq).2).1 hplus
    case h_4 heq => rw [(List.cons.inj heq).2]
    case h_1 heq => cases heq
    case h_5 h => exact absurd rfl (h (c :: rest))
  rw [hread, naturalOf?_eq _ hne hdigits]
  rfl

/-- An exponent as it is written. -/
theorem exponentOf?_layout (e : Int) (signs : Bool) :
    exponentOf? ('e' :: ((if e < 0 then ['-'] else if signs then ['+'] else []) ++
      Nat.toDigits 10 e.natAbs)) = some e := by
  have hdigits : ∀ c ∈ Nat.toDigits 10 e.natAbs, c.isDigit = true := fun c hc =>
    Nat.isDigit_of_mem_toDigits (by decide) (by decide) hc
  have hread := naturalOf?_eq _ Nat.toDigits_ne_nil hdigits
  rw [Nat.ofDigitChars_ten_toDigits] at hread
  by_cases hneg : e < 0
  · rw [if_pos hneg]
    show (naturalOf? (Nat.toDigits 10 e.natAbs)).map (fun n => -(n : Int)) = some e
    rw [hread]
    exact congrArg some (show -(e.natAbs : Int) = e by omega)
  · rw [if_neg hneg]
    cases signs with
    | true =>
      show (naturalOf? (Nat.toDigits 10 e.natAbs)).map (fun n => (n : Int)) = some e
      rw [hread]
      exact congrArg some (show (e.natAbs : Int) = e by omega)
    | false =>
      show exponentOf? ('e' :: Nat.toDigits 10 e.natAbs) = some e
      rw [exponentOf?_digits _ Nat.toDigits_ne_nil hdigits, Nat.ofDigitChars_ten_toDigits]
      exact congrArg some (by omega)

end Binary64

/-! ## Reading a layout -/

namespace NumberStyle

section

variable (style : NumberStyle) (d : Decimal) (hne : d.digits ≠ [])
  (hdigits : ∀ c ∈ d.digits, c.isDigit = true)

include hne hdigits

/-- Digits in positions are read as the decimal, perhaps with zeros at its end. -/
theorem unsignedOf?_layoutPositions (neg : Bool) : ∃ (zeros : Nat) (exp : Int),
    Binary64.unsignedOf? neg (style.layoutPositions d) =
      some (Binary64.ofDecimal neg (d.value * 10 ^ zeros) exp) ∧
    exp + zeros = d.point - d.digits.length := by
  have hzero (n : Nat) : ∀ c ∈ List.replicate n '0', c.isDigit = true := fun c hc => by
    rw [List.eq_of_mem_replicate hc]
    rfl
  unfold layoutPositions
  dsimp only
  split_ifs with hsmall hwhole hpoint
  · -- The point stands in front of the digits, with zeros between.
    have hread := Binary64.unsignedOf?_point ['0']
      (List.replicate (-d.point).toNat '0' ++ d.digits) [] neg 0 (List.cons_ne_nil _ _)
      (List.forall_mem_append.2 ⟨hzero 1, List.forall_mem_append.2 ⟨hzero _, hdigits⟩⟩) rfl
    have hvalue : Nat.ofDigitChars 10 (['0'] ++ (List.replicate (-d.point).toNat '0' ++ d.digits)) 0 =
        d.value * 10 ^ 0 := by
      rw [Nat.ofDigitChars_append, Nat.ofDigitChars_append, Nat.ofDigitChars_replicate_zero,
        Nat.pow_zero, Nat.mul_one]
      rfl
    rw [List.append_nil, hvalue, List.length_append, List.length_replicate] at hread
    exact ⟨0, _, hread, by omega⟩
  · -- Zeros fill the positions up to the point, and one more stands behind it.
    have hread := Binary64.unsignedOf?_point
      (d.digits ++ List.replicate (d.point - d.digits.length).toNat '0') ['0'] [] neg 0
      (List.append_ne_nil_of_right_ne_nil _ (List.cons_ne_nil _ _))
      (List.forall_mem_append.2 ⟨List.forall_mem_append.2 ⟨hdigits, hzero _⟩, hzero 1⟩) rfl
    have hvalue : Nat.ofDigitChars 10 (d.digits ++
        List.replicate (d.point - d.digits.length).toNat '0' ++ ['0']) 0 =
          d.value * 10 ^ ((d.point - d.digits.length).toNat + 1) := by
      rw [List.append_assoc, ← List.replicate_succ', Nat.ofDigitChars_append,
        Nat.ofDigitChars_replicate_zero, Nat.mul_comm]
      rfl
    rw [hvalue] at hread
    exact ⟨_, _, hread, by simp; omega⟩
  · -- Zeros fill the positions, and no point is written.
    have hread := Binary64.unsignedOf?_whole
      (d.digits ++ List.replicate (d.point - d.digits.length).toNat '0') [] neg 0
      (List.append_ne_nil_of_left_ne_nil hne _) (List.forall_mem_append.2 ⟨hdigits, hzero _⟩) rfl
    rw [Nat.ofDigitChars_append, Nat.ofDigitChars_replicate_zero, Nat.mul_comm] at hread
    exact ⟨_, _, hread, by omega⟩
  · -- The point stands among the digits.
    have hread := Binary64.unsignedOf?_point (d.digits.take d.point.toNat)
      (d.digits.drop d.point.toNat) [] neg 0 (by rwa [List.take_append_drop])
      (by rwa [List.take_append_drop]) rfl
    rw [List.take_append_drop, List.append_nil, List.length_drop] at hread
    rw [← Nat.mul_one (Nat.ofDigitChars 10 d.digits 0)] at hread
    exact ⟨0, _, hread, by omega⟩

/-- Digits with an exponent are read as the decimal. -/
theorem unsignedOf?_layoutExponent (neg : Bool) :
    Binary64.unsignedOf? neg (style.layoutExponent d) =
      some (Binary64.ofDecimal neg d.value (d.point - d.digits.length)) := by
  have hexp := Binary64.exponentOf?_layout (d.point - 1) style.signsExponent
  have hsplit := List.take_append_drop 1 d.digits
  have hlength := congrArg List.length hsplit
  rw [List.length_append] at hlength
  have hone : (d.digits.take 1).length = 1 := by
    rw [List.length_take, Nat.min_eq_left (List.length_pos_iff.2 hne)]
  unfold layoutExponent
  dsimp only
  generalize 'e' :: _ = back at hexp ⊢
  cases hrest : d.digits.drop 1 with
  | nil =>
    -- The only digit stands alone, without a point.
    rw [hrest, List.append_nil] at hsplit
    have hread := Binary64.unsignedOf?_whole d.digits back neg _ hne hdigits hexp
    rw [hrest, List.length_nil] at hlength
    rw [show d.point - d.digits.length = d.point - 1 by omega, hsplit, List.append_assoc]
    exact hread
  | cons c rest =>
    rw [hrest] at hsplit hlength
    have hread := Binary64.unsignedOf?_point (d.digits.take 1) (c :: rest) back
      neg _ (by rwa [hsplit]) (by rwa [hsplit]) hexp
    rw [hsplit] at hread
    rw [show d.point - d.digits.length = d.point - 1 - (c :: rest).length by omega,
      List.append_assoc]
    exact hread

/-- A layout of digits is read as the decimal, perhaps with zeros at its end. -/
theorem unsignedOf?_layout (neg : Bool) : ∃ (zeros : Nat) (exp : Int),
    Binary64.unsignedOf? neg (style.layout d) =
      some (Binary64.ofDecimal neg (d.value * 10 ^ zeros) exp) ∧
    exp + zeros = d.point - d.digits.length := by
  unfold layout
  split_ifs
  · exact style.unsignedOf?_layoutPositions d hne hdigits neg
  · refine ⟨0, _, ?_, Int.add_zero _⟩
    rw [Nat.pow_zero, Nat.mul_one]
    exact style.unsignedOf?_layoutExponent d hne hdigits neg

end

/-- The digits of a finite double are read as the double, with the sign that is asked for. -/
theorem unsignedOf?_body (style : NumberStyle) (x : FiniteDouble) (neg : Bool) :
    Binary64.unsignedOf? neg (if x.mant = 0 then '0' :: (if style.keepsPoint then ['.', '0'] else [])
      else style.layout (x.shortest style.tie)) = some (.finite { x with neg }) := by
  by_cases hzero : x.mant = 0
  · -- A zero is written without the digits of a decimal.
    have hx : x.magnitude = 0 := by
      unfold FiniteDouble.magnitude
      rw [hzero, Nat.zero_mul]
    have hread : Binary64.ofRatio neg 0 1 = .finite { x with neg } := by
      unfold Binary64.ofRatio
      rw [Nat.zero_mul, ← hx]
      exact Binary64.ofUnits_magnitude neg x
    have hdecimal (exp : Int) : Binary64.ofDecimal neg 0 exp = .finite { x with neg } :=
      (if_pos rfl).trans hread
    have hdigit : ∀ c ∈ ['0'], c.isDigit = true := fun c hc => by
      rw [List.mem_singleton.1 hc]
      rfl
    rw [if_pos hzero]
    cases style.keepsPoint with
    | true =>
      have hpoint := Binary64.unsignedOf?_point ['0'] ['0'] [] neg 0
        (List.cons_ne_nil _ _) (List.forall_mem_append.2 ⟨hdigit, hdigit⟩) rfl
      exact hpoint.trans (congrArg some (hdecimal _))
    | false =>
      have hwhole := Binary64.unsignedOf?_whole ['0'] [] neg 0
        (List.cons_ne_nil _ _) hdigit rfl
      exact hwhole.trans (congrArg some (hdecimal _))
  · -- The double attracts the decimal with or without the zeros that a layout adds.
    obtain ⟨hdigits, hne, hattracts⟩ := x.shortest_spec hzero style.tie
    obtain ⟨zeros, exp, hread, hexp⟩ :=
      style.unsignedOf?_layout (x.shortest style.tie) hne hdigits neg
    rw [← hexp, ← x.attractsDecimal_mul_pow] at hattracts
    rw [if_neg hzero, hread, Binary64.ofDecimal_of_attracts neg x hzero _ exp hattracts]

end NumberStyle

/-! ## Reading texts -/

namespace Binary64

/-- A sign in front of a number without a sign. -/
theorem ofText?_signed (neg : Bool) (cs : List Char) (x : Binary64)
    (h : unsignedOf? neg cs = some x) :
    ofText? (String.ofList ((if neg then ['-'] else []) ++ cs)) = some x := by
  cases neg with
  | true =>
    unfold ofText?
    rw [String.toList_ofList]
    exact h
  | false =>
    unfold ofText?
    rw [String.toList_ofList, if_neg Bool.false_ne_true, List.nil_append]
    split
    next rest => cases h -- No digit stands in front of the sign.
    next => exact h

/-- A natural number without exponent is rounded as it is. -/
theorem ofDecimal_zero (neg : Bool) (coeff : Nat) : ofDecimal neg coeff 0 = ofRatio neg coeff 1 := by
  unfold ofDecimal
  split_ifs with hzero h₁ h₂ h₃
  · rw [hzero]
  · omega
  · omega
  · rw [show (0 : Int).toNat = 0 from rfl, show Nat.pow 10 0 = 1 from rfl, Nat.mul_one]
  · omega

/-- The text of an integer is read as the double nearest to it. -/
theorem ofText?_toString (n : Int) : ofText? (toString n) = some (ofInt n) := by
  have hdigits : ∀ c ∈ Nat.toDigits 10 n.natAbs, c.isDigit = true := fun c hc =>
    Nat.isDigit_of_mem_toDigits (by decide) (by decide) hc
  have hread := unsignedOf?_whole _ [] (decide (n < 0)) 0 Nat.toDigits_ne_nil hdigits rfl
  rw [List.append_nil, Nat.ofDigitChars_ten_toDigits, ofDecimal_zero] at hread
  have htext : toString n =
      String.ofList ((if decide (n < 0) then ['-'] else []) ++ Nat.toDigits 10 n.natAbs) := by
    rw [Int.toString_eq_repr, Int.repr_eq_if]
    by_cases hneg : n < 0
    · rw [if_neg (Int.not_le.2 hneg), decide_eq_true hneg, if_pos rfl, String.ofList_append,
        Nat.repr_eq_ofList_toDigits, show (-n).toNat = n.natAbs by omega]
    · rw [if_pos (Int.not_lt.1 hneg), decide_eq_false hneg, if_neg Bool.false_ne_true,
        Nat.repr_eq_ofList_toDigits, show n.toNat = n.natAbs by omega]
      rfl
  rw [htext]
  exact ofText?_signed _ _ _ hread

/-- The text of a natural number is the text of the integer. -/
theorem toString_natCast (n : Nat) : toString (n : Int) = toString n := by
  rw [Int.toString_eq_repr, Int.repr_eq_if, if_pos (Int.natCast_nonneg n), Int.toNat_natCast]
  rfl

end Binary64

/-- The text of a finite double is read as the double, in any style. -/
theorem NumberStyle.ofText?_ofFinite (style : NumberStyle) (x : FiniteDouble) :
    Binary64.ofText? (style.ofFinite x) = some (.finite x) :=
  Binary64.ofText?_signed x.neg _ _ (style.unsignedOf?_body x x.neg)

/-- The text of a numeric document is read as the number it stands for. -/
theorem Json.ofText?_text (j : Json) (x : Binary64) (h : j.number? = some x) :
    Binary64.ofText? j.text = some x := by
  cases j with
  | int n =>
    rw [← Option.some.inj h]
    unfold text
    exact Binary64.ofText?_toString n
  | float y =>
    rw [← Option.some.inj h]
    unfold text
    exact NumberStyle.json.ofText?_ofFinite y
  | _ => cases h

/-! ## Texts tell numbers apart -/

namespace NumberStyle

variable (style : NumberStyle)

/-- If the text of a double is read as a number, it is read as the double. -/
theorem eq_of_ofText?_text (x y : Binary64) (h : Binary64.ofText? (style.text x) = some y) :
    x = y := by
  cases x with
  | nan =>
    have hname : Binary64.ofText? "NaN" = none := by decide
    cases hname.symm.trans h
  | infinity neg =>
    have hname : ∀ neg : Bool, Binary64.ofText? (if neg then "-inf" else "inf") = none := by decide
    cases (hname neg).symm.trans h
  | finite x => exact Option.some.inj ((style.ofText?_ofFinite x).symm.trans h)

/-- Doubles with the same text are the same. -/
theorem text_inj (x y : Binary64) (h : style.text x = style.text y) : x = y := by
  have hfinite (x : FiniteDouble) (y : Binary64) (h : style.text (.finite x) = style.text y) :
      .finite x = y :=
    (style.eq_of_ofText?_text y _ (h ▸ style.ofText?_ofFinite x)).symm
  cases x with
  | finite x => exact hfinite x y h
  | nan =>
    cases y with
    | finite y => exact (hfinite y _ h.symm).symm
    | nan => rfl
    | infinity neg =>
      cases neg with
      | true => exact absurd h (by decide : "NaN" ≠ "-inf")
      | false => exact absurd h (by decide : "NaN" ≠ "inf")
  | infinity neg =>
    cases y with
    | finite y => exact (hfinite y _ h.symm).symm
    | nan =>
      cases neg with
      | true => exact absurd h (by decide : "-inf" ≠ "NaN")
      | false => exact absurd h (by decide : "inf" ≠ "NaN")
    | infinity neg' =>
      have hneg : ∀ neg neg' : Bool, (if neg then "-inf" else "inf") =
          (if neg' then "-inf" else "inf") → neg = neg' := by decide
      exact congrArg Binary64.infinity (hneg neg neg' h)

/-! ## The letters of numbers -/

/-- A character that may stand in the text of a number. -/
def IsLetter (c : Char) : Prop :=
  c.isDigit = true ∨ c ∈ ['-', '+', '.', 'e', 'N', 'a', 'i', 'n', 'f']

instance (c : Char) : Decidable (IsLetter c) := inferInstanceAs (Decidable (_ ∨ _))

/-- A list of letters can be checked one by one. -/
theorem isLetter_of_all (cs : List Char) (h : (cs.all fun c => decide (IsLetter c)) = true) :
    ∀ c ∈ cs, IsLetter c := fun c hc => of_decide_eq_true (List.all_eq_true.1 h c hc)

section

variable (d : Decimal) (hdigits : ∀ c ∈ d.digits, c.isDigit = true)

include hdigits

/-- Digits in positions are letters of numbers, with the zeros and the point. -/
theorem isLetter_of_mem_layoutPositions : ∀ c ∈ style.layoutPositions d, IsLetter c := by
  have hletters : ∀ c ∈ d.digits, IsLetter c := fun c hc => .inl (hdigits c hc)
  have hzero (n : Nat) : ∀ c ∈ List.replicate n '0', IsLetter c := fun c hc =>
    List.eq_of_mem_replicate hc ▸ .inl rfl
  unfold layoutPositions
  dsimp only
  split_ifs
  · simp only [List.forall_mem_cons, List.forall_mem_append]
    exact ⟨by decide, by decide, hzero _, hletters⟩
  · simp only [List.forall_mem_append]
    exact ⟨⟨hletters, hzero _⟩, isLetter_of_all _ (by decide)⟩
  · simp only [List.forall_mem_append]
    exact ⟨⟨hletters, hzero _⟩, isLetter_of_all _ (by decide)⟩
  · simp only [List.forall_mem_cons, List.forall_mem_append]
    exact ⟨fun c hc => hletters c (List.mem_of_mem_take hc), by decide,
      fun c hc => hletters c (List.mem_of_mem_drop hc)⟩

/-- Digits with an exponent are letters of numbers, with the point, the mark and the sign. -/
theorem isLetter_of_mem_layoutExponent : ∀ c ∈ style.layoutExponent d, IsLetter c := by
  have htake : ∀ c ∈ d.digits.take 1, IsLetter c := fun c hc =>
    .inl (hdigits c (List.mem_of_mem_take hc))
  have hdrop : ∀ c ∈ d.digits.drop 1, IsLetter c := fun c hc =>
    .inl (hdigits c (List.mem_of_mem_drop hc))
  have hexponent : ∀ c ∈ Nat.toDigits 10 (d.point - 1).natAbs, IsLetter c := fun c hc =>
    .inl (Nat.isDigit_of_mem_toDigits (by decide) (by decide) hc)
  have hsign : ∀ c ∈ (if d.point - 1 < 0 then ['-'] else
      if style.signsExponent then ['+'] else []), IsLetter c := by
    split_ifs <;> exact isLetter_of_all _ (by decide)
  unfold layoutExponent
  dsimp only
  generalize d.digits.drop 1 = rest at hdrop ⊢
  cases rest with
  | nil =>
    simp only [List.forall_mem_cons, List.forall_mem_append]
    exact ⟨⟨htake, isLetter_of_all _ rfl⟩, by decide, hsign, hexponent⟩
  | cons c rest =>
    simp only [List.forall_mem_cons, List.forall_mem_append] at hdrop ⊢
    exact ⟨⟨htake, by decide, hdrop⟩, by decide, hsign, hexponent⟩

end

/-- The text of a number is made of the letters of numbers. -/
theorem isLetter_of_mem_text (x : Binary64) : ∀ c ∈ (style.text x).toList, IsLetter c := by
  cases x with
  | nan => exact isLetter_of_all "NaN".toList (by decide)
  | infinity neg =>
    cases neg with
    | true => exact isLetter_of_all "-inf".toList (by decide)
    | false => exact isLetter_of_all "inf".toList (by decide)
  | finite x =>
    show ∀ c ∈ (String.ofList _).toList, IsLetter c
    rw [String.toList_ofList, List.forall_mem_append]
    refine ⟨by cases x.neg <;> exact isLetter_of_all _ (by decide), ?_⟩
    by_cases hzero : x.mant = 0
    · rw [if_pos hzero]
      cases style.keepsPoint <;> exact isLetter_of_all _ (by decide)
    · have hdigits := (x.shortest_spec hzero style.tie).1
      rw [if_neg hzero]
      unfold layout
      split_ifs
      · exact style.isLetter_of_mem_layoutPositions _ hdigits
      · exact style.isLetter_of_mem_layoutExponent _ hdigits

end NumberStyle

end DataShape
