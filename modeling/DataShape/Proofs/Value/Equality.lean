import DataShape.Proofs.Entries
import DataShape.Proofs.Number.Exactness
import DataShape.Schema.Basic
import Mathlib.Data.List.Perm.Subperm

/-!
# Equal values

Equality of values compares numbers as numbers and maps without regard to order. So two equal values
need not be the same term: a zero may have either sign, and the entries of a map may stand in any
order. What cannot differ is told here. Equal values are of one kind and one length, and have one
text; their numbers are integers alike and lie in one place on the line. Equal lists have equal
items one by one, and equal maps, if they are well-formed, have the same keys and equal values under
each (`Value.Same.get?`).
-/

namespace DataShape

/-! ## Equal numbers -/

/-- The product of a short number and a power is short. -/
theorem mul_pow_two_lt (n exp bits bound : Nat) (hn : n < Nat.pow 2 bits) (hexp : exp ≤ bound) :
    n * Nat.pow 2 exp < Nat.pow 2 (bits + bound) :=
  calc n * 2 ^ exp < 2 ^ bits * 2 ^ exp :=
        Nat.mul_lt_mul_of_pos_right hn (Nat.pow_pos Nat.zero_lt_two)
    _ ≤ 2 ^ bits * 2 ^ bound := Nat.mul_le_mul_left _ (Nat.pow_le_pow_right Nat.zero_lt_two hexp)
    _ = 2 ^ (bits + bound) := (Nat.pow_add 2 bits bound).symm

/-- The power of two that a finite double is, if it is one, is below that of the infinities. -/
theorem FiniteDouble.ne_of_magnitude_eq (x : FiniteDouble) (place : Nat)
    (h : x.magnitude = Nat.pow 2 place) : place ≠ 53 + 2045 := by
  have hlt := mul_pow_two_lt x.mant x.exp 53 2045 x.canonical.1 x.canonical.2.1
  rintro rfl
  exact Nat.ne_of_lt hlt h

namespace Binary64

/-- Equal numbers have one place. -/
theorem rank_eq_of_equals (x y : Binary64) (h : x.equals y = true) : x.rank = y.rank := by
  unfold equals at h
  cases hx : x.rank <;> cases hy : y.rank <;> simp_all

/-- Equal numbers are below the same numbers. -/
theorem lt_eq_of_equals_left (x y z : Binary64) (h : x.equals y = true) : x.lt z = y.lt z := by
  unfold lt
  rw [rank_eq_of_equals x y h]

/-- Equal numbers are above the same numbers. -/
theorem lt_eq_of_equals_right (x y z : Binary64) (h : x.equals y = true) : z.lt x = z.lt y := by
  unfold lt
  rw [rank_eq_of_equals x y h]

/-- No finite double stands where an infinity does. -/
theorem rank_finite_ne_rank_infinity (x : FiniteDouble) (neg : Bool) :
    (finite x).rank ≠ (infinity neg).rank := by
  intro h
  have hmagnitude := congrArg Int.natAbs (Option.some.inj h)
  rw [x.natAbs_units, apply_ite Int.natAbs, Int.natAbs_neg, ite_self, Int.natAbs_natCast]
    at hmagnitude
  exact x.ne_of_magnitude_eq _ hmagnitude rfl

/-- Equal numbers are the same integer, or neither is one. -/
theorem toInt?_eq_of_equals (x y : Binary64) (h : x.equals y = true) : x.toInt? = y.toInt? := by
  have hrank := rank_eq_of_equals x y h
  cases x with
  | nan => cases h
  | infinity neg =>
    cases y with
    | nan => cases hrank
    | infinity neg' => rfl
    | finite y => exact absurd hrank.symm (rank_finite_ne_rank_infinity y neg)
  | finite x =>
    cases y with
    | nan => cases hrank
    | infinity neg => exact absurd hrank (rank_finite_ne_rank_infinity x neg)
    | finite y =>
      have hunits : x.units = y.units := Option.some.inj hrank
      refine Option.ext fun n => ?_
      show x.toInt? = some n ↔ y.toInt? = some n
      rw [x.toInt?_eq_some_iff_units, y.toInt?_eq_some_iff_units, hunits]

end Binary64

/-- A kind admits equal numbers alike. -/
theorem NumberKind.admits_eq_of_equals (k : NumberKind) (x y : Binary64) (h : x.equals y = true) :
    k.admits x = k.admits y := by
  unfold admits
  rw [Binary64.toInt?_eq_of_equals x y h]

/-! ## Equal values -/

namespace Value

/-- Lists are equal when their items are, one by one. -/
theorem itemsEqual_iff (xs : List Value) : ∀ ys,
    itemsEqual xs ys = true ↔ List.Forall₂ (fun x y => x.equals y = true) xs ys := by
  induction xs with
  | nil =>
    intro ys
    cases ys <;> simp [itemsEqual]
  | cons x xs ih =>
    intro ys
    cases ys with
    | nil => simp [itemsEqual]
    | cons y ys => simp [itemsEqual, ih]

/-- Each entry has an equal one under its key. -/
theorem entriesFound_iff (xs ys : List (String × Value)) :
    entriesFound xs ys = true ↔
      ∀ e ∈ xs, ∃ y, Entries.find? ys e.1 = some y ∧ e.2.equals y = true := by
  induction xs with
  | nil => simp [entriesFound]
  | cons e xs ih =>
    obtain ⟨key, x⟩ := e
    unfold entriesFound
    rw [Bool.and_eq_true, ih, List.forall_mem_cons]
    refine and_congr_left' ?_
    cases Entries.find? ys key <;> simp

/-- The items of a list are well-formed when each is. -/
theorem itemsWellFormed_iff (xs : List Value) : ItemsWellFormed xs ↔ ∀ x ∈ xs, x.WellFormed := by
  induction xs with
  | nil => simp [ItemsWellFormed]
  | cons x xs ih => rw [ItemsWellFormed, List.forall_mem_cons, ih]

/-- The values of entries are well-formed when each is. -/
theorem entriesWellFormed_iff (xs : List (String × Value)) :
    EntriesWellFormed xs ↔ ∀ e ∈ xs, e.2.WellFormed := by
  induction xs with
  | nil => simp [EntriesWellFormed]
  | cons e xs ih => rw [EntriesWellFormed, List.forall_mem_cons, ih]

section

variable (v w : Value) (h : v.equals w = true)

include h

/-- Equal values are of one kind. -/
theorem kind_eq_of_equals : v.kind = w.kind := by
  cases v <;> cases w <;> first | rfl | cases h

/-- Equal values have one text. -/
theorem string?_eq_of_equals : v.string? = w.string? := by
  cases v with
  | string s =>
    cases w with
    | string t => exact congrArg some (eq_of_beq h)
    | _ => cases h
  | _ => cases w <;> first | rfl | cases h

/-- Equal values have one length. -/
theorem length_eq_of_equals : v.length = w.length := by
  cases v with
  | string s =>
    cases w with
    | string t => rw [eq_of_beq (show (s == t) = true from h)]
    | _ => cases h
  | list xs =>
    cases w with
    | list ys => exact ((itemsEqual_iff xs ys).1 h).length_eq
    | _ => cases h
  | map xs =>
    cases w with
    | map ys => exact eq_of_beq (Bool.and_eq_true_iff.1 h).1
    | _ => cases h
  | _ => cases w <;> first | rfl | cases h

/-- What is true of equal numbers alike is true alike of the numbers of equal values. -/
theorem any_number?_eq_of_equals (P : Binary64 → Bool)
    (hP : ∀ x y : Binary64, x.equals y = true → P x = P y) :
    v.number?.any P = w.number?.any P := by
  cases v with
  | number x =>
    cases w with
    | number y => exact hP x y h
    | _ => cases h
  | _ => cases w <;> first | rfl | cases h

end

/-- Equal values in which no map has a key twice. -/
structure Same (v w : Value) : Prop where
  wellFormed : v.WellFormed
  wellFormed' : w.WellFormed
  equals : v.equals w = true

/-- Equal lists have equal items. -/
theorem Same.items (xs ys : List Value) (h : Same (list xs) (list ys)) :
    List.Forall₂ Same xs ys := by
  have hxs := (itemsWellFormed_iff xs).1 h.wellFormed
  have hys := (itemsWellFormed_iff ys).1 h.wellFormed'
  have hequals := (itemsEqual_iff xs ys).1 h.equals
  refine List.forall₂_iff_zip.2 ⟨hequals.length_eq, fun hxy => ?_⟩
  exact ⟨hxs _ (List.of_mem_zip hxy).1, hys _ (List.of_mem_zip hxy).2,
    (List.forall₂_iff_zip.1 hequals).2 hxy⟩

/-- Equal maps have the same keys. -/
theorem Same.keys_perm (xs ys : List (String × Value)) (h : Same (map xs) (map ys)) :
    (Entries.keys xs).Perm (Entries.keys ys) := by
  obtain ⟨hlength, hfound⟩ := Bool.and_eq_true_iff.1 h.equals
  have hsubset : Entries.keys xs ⊆ Entries.keys ys := by
    intro key hkey
    obtain ⟨e, he, rfl⟩ := List.mem_map.1 hkey
    obtain ⟨y, hy, -⟩ := (entriesFound_iff xs ys).1 hfound e he
    by_contra hnot
    rw [(Entries.find?_eq_none_iff ys e.1).2 hnot] at hy
    cases hy
  have hdistinct : (Entries.keys xs).Nodup := h.wellFormed.1
  refine (hdistinct.subperm hsubset).perm_of_length_le ?_
  unfold Entries.keys
  rw [List.length_map, List.length_map, eq_of_beq hlength]

/-- Under a key, equal maps have equal values or none. -/
theorem Same.get? (v w : Value) (h : Same v w) (key : String) :
    Option.Rel Same (v.get? key) (w.get? key) := by
  cases v with
  | map xs =>
    cases w with
    | map ys =>
      show Option.Rel Same (Entries.find? xs key) (Entries.find? ys key)
      cases hx : Entries.find? xs key with
      | none =>
        have hkey : key ∉ Entries.keys ys := fun hmem =>
          (Entries.find?_eq_none_iff xs key).1 hx ((h.keys_perm xs ys).mem_iff.2 hmem)
        rw [(Entries.find?_eq_none_iff ys key).2 hkey]
        exact .none
      | some x =>
        have hxmem := Entries.mem_of_find? xs key x hx
        obtain ⟨y, hy, hequals⟩ :=
          (entriesFound_iff xs ys).1 (Bool.and_eq_true_iff.1 h.equals).2 _ hxmem
        have hymem := Entries.mem_of_find? ys key y hy
        rw [hy]
        exact .some ⟨(entriesWellFormed_iff xs).1 h.wellFormed.2 _ hxmem,
          (entriesWellFormed_iff ys).1 h.wellFormed'.2 _ hymem, hequals⟩
    | _ => cases h.equals
  | _ =>
    cases w with
    | map ys => cases h.equals
    | _ => exact .none

/-- The items of equal values are equal. Values that are no lists have none. -/
theorem Same.list? (v w : Value) (h : Same v w) :
    List.Forall₂ Same (v.list?.getD []) (w.list?.getD []) := by
  cases v with
  | list xs =>
    cases w with
    | list ys => exact h.items xs ys
    | _ => cases h.equals
  | _ =>
    cases w with
    | list ys => cases h.equals
    | _ => exact .nil

/-- Lists that go together have related elements at a position, or none. -/
theorem rel_getElem? {α β : Type} {R : α → β → Prop} (xs : List α) (ys : List β)
    (h : List.Forall₂ R xs ys) : ∀ i : Nat, Option.Rel R xs[i]? ys[i]? := by
  induction h with
  | nil => exact fun _ => .none
  | cons hfirst _ ih =>
    intro i
    cases i with
    | zero => exact .some hfirst
    | succ i => exact ih i

/-- At a position, equal lists have equal items or none. -/
theorem Same.item? (v w : Value) (h : Same v w) (i : Nat) :
    Option.Rel Same (v.item? i) (w.item? i) := by
  have hitem (v : Value) : v.item? i = (v.list?.getD [])[i]? := by
    cases v <;> rfl
  rw [hitem v, hitem w]
  exact rel_getElem? _ _ (h.list? v w) i

end Value

end DataShape
