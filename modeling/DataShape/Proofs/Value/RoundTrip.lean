import DataShape.Proofs.Number.Exactness
import DataShape.Validator.Run

/-!
# From values to JSON and back

A value that is written as JSON and read again is the value with two changes, at every depth: NaN and
the infinities have become null, and negative zero has become zero. `Value.norm` makes these changes
and no others, so the keys of a map keep their order.

The number decides. A whole number is written as an integer as long as the ranges of 64-bit words,
compared as doubles, hold it (`Value.numberToJson_of_toInt?`); such an integer is a double, so
reading it rounds nothing. All other finite numbers are written as they are.

There are two readers of values, one by the shape of the document and one that tries shape after
shape. They agree on every document (`Value.decode?_eq`).
-/

namespace DataShape

namespace Value

/-! ## Writing a number -/

/-- The whole numbers that lie between the ends of a word's range are the integers of the range. -/
theorem isWhole_and_isWithin (k : NumberKind) (range : Int × Int) (h : k.range? = some range)
    (x : Binary64) :
    (x.isWhole && isWithin range x) = x.toInt?.any fun n => range.1 ≤ n && n ≤ range.2 := by
  unfold isWithin
  rw [← Bool.and_assoc]
  exact k.sized_accepts_iff range.1 range.2 h x

/-- A double that is an integer of a range is truncated to it. -/
theorem truncateInto_of_toInt? (x : Binary64) (n : Int) (h : x.toInt? = some n)
    (range : Int × Int) (hlo : range.1 ≤ n) (hhi : n ≤ range.2) : x.truncateInto range = n := by
  cases x with
  | nan => cases h
  | infinity neg => cases h
  | finite y =>
    show max range.1 (min y.truncate range.2) = n
    rw [y.truncate_of_toInt? n h, min_eq_left hhi, max_eq_right hlo]

/-- An integer of 64 bits is written as an integer. -/
theorem numberToJson_of_toInt? (x : Binary64) (n : Int) (h : x.toInt? = some n)
    (hlo : (signedRange 64).1 ≤ n) (hhi : n ≤ (unsignedRange 64).2) :
    numberToJson x = .int n := by
  unfold numberToJson
  rw [isWhole_and_isWithin (.signed .w64) (signedRange 64) rfl,
    isWhole_and_isWithin (.unsigned .w64) (unsignedRange 64) rfl, h, Option.any_some,
    Option.any_some]
  by_cases hsigned : n ≤ (signedRange 64).2
  · rw [decide_eq_true hlo, decide_eq_true hsigned, Bool.and_self, if_pos rfl,
      truncateInto_of_toInt? x n h _ hlo hsigned]
  · -- Past the signed integers a number is not below zero, so the unsigned ones hold it.
    have hzero : (unsignedRange 64).1 ≤ n :=
      (by decide : (unsignedRange 64).1 ≤ (signedRange 64).2).trans (Int.not_le.1 hsigned).le
    rw [decide_eq_false hsigned, Bool.and_false, if_neg Bool.false_ne_true, decide_eq_true hzero,
      decide_eq_true hhi, Bool.and_self, if_pos rfl, truncateInto_of_toInt? x n h _ hzero hhi]

/-- A number that is no integer of 64 bits is written as it is, if it is finite. -/
theorem numberToJson_of_forall_toInt? (x : Binary64)
    (h : ∀ n, x.toInt? = some n → ¬((signedRange 64).1 ≤ n ∧ n ≤ (unsignedRange 64).2)) :
    numberToJson x = encodeNumber x := by
  have hoff (range : Int × Int) (hlo : (signedRange 64).1 ≤ range.1)
      (hhi : range.2 ≤ (unsignedRange 64).2) :
      (x.toInt?.any fun n => range.1 ≤ n && n ≤ range.2) = false := by
    refine Bool.eq_false_iff.2 fun hany => ?_
    obtain ⟨n, hn, hrange⟩ := (Option.any_eq_true _ _).1 hany
    rw [Bool.and_eq_true, decide_eq_true_iff, decide_eq_true_iff] at hrange
    exact h n hn ⟨hlo.trans hrange.1, hrange.2.trans hhi⟩
  unfold numberToJson
  rw [isWhole_and_isWithin (.signed .w64) (signedRange 64) rfl,
    isWhole_and_isWithin (.unsigned .w64) (unsignedRange 64) rfl,
    hoff (signedRange 64) le_rfl (by decide), hoff (unsignedRange 64) (by decide) le_rfl]
  rfl

/-- A number is written as an integer exactly when it is that integer and 64 bits hold it. -/
theorem numberToJson_eq_int_iff (x : Binary64) (n : Int) :
    numberToJson x = .int n ↔
      x.toInt? = some n ∧ (signedRange 64).1 ≤ n ∧ n ≤ (unsignedRange 64).2 := by
  constructor
  · intro h
    by_cases hint : ∃ m, x.toInt? = some m ∧ (signedRange 64).1 ≤ m ∧ m ≤ (unsignedRange 64).2
    · obtain ⟨m, hm, hlo, hhi⟩ := hint
      rw [numberToJson_of_toInt? x m hm hlo hhi] at h
      cases h
      exact ⟨hm, hlo, hhi⟩
    · rw [numberToJson_of_forall_toInt? x fun m hm hrange => hint ⟨m, hm, hrange⟩] at h
      cases x <;> cases h
  · rintro ⟨hn, hlo, hhi⟩
    exact numberToJson_of_toInt? x n hn hlo hhi

/-! ## What a round trip leaves -/

/-- The number that a round trip leaves: null for NaN and the infinities, zero for negative zero. -/
def normNumber : Binary64 → Value
  | .finite x => number (.finite (if x = .negZero then .zero else x))
  | _ => null

mutual

/-- The value that a round trip leaves: its numbers are changed, at any depth, and all else stays in
its place. -/
def norm : Value → Value
  | null => null
  | bool b => bool b
  | number x => normNumber x
  | string s => string s
  | list items => list (normItems items)
  | map entries => map (normEntries entries)

/-- The items that a round trip leaves. -/
def normItems : List Value → List Value
  | [] => []
  | x :: xs => x.norm :: normItems xs

/-- The entries that a round trip leaves. -/
def normEntries : List (String × Value) → List (String × Value)
  | [] => []
  | (key, x) :: xs => (key, x.norm) :: normEntries xs

end

/-- The keys of a map are left as they are, in their order. -/
theorem keys_normEntries (entries : List (String × Value)) :
    Entries.keys (normEntries entries) = Entries.keys entries := by
  induction entries with
  | nil => rfl
  | cons e rest ih => exact congrArg (e.1 :: ·) ih

/-- A number comes back from a round trip as its normal form. -/
theorem ofJson_numberToJson (x : Binary64) : ofJson (numberToJson x) = normNumber x := by
  by_cases hint : ∃ n, x.toInt? = some n ∧ (signedRange 64).1 ≤ n ∧ n ≤ (unsignedRange 64).2
  · obtain ⟨n, hn, hlo, hhi⟩ := hint
    rw [numberToJson_of_toInt? x n hn hlo hhi]
    cases x with
    | nan => cases hn
    | infinity neg => cases hn
    | finite y =>
      unfold ofJson normNumber
      rw [Binary64.ofInt_of_toInt? y n hn]
  · rw [numberToJson_of_forall_toInt? x fun n hn hrange => hint ⟨n, hn, hrange⟩]
    cases x with
    | nan => rfl
    | infinity neg => rfl
    | finite y =>
      -- Negative zero is an integer, so the number is another one.
      have hne : y ≠ .negZero := by
        rintro rfl
        exact hint ⟨0, by decide +kernel, by decide, by decide⟩
      show number (.finite y) = number (.finite (if y = .negZero then .zero else y))
      rw [if_neg hne]

mutual

/-- A value comes back from a round trip as its normal form. -/
theorem ofJson_toJson (v : Value) : ofJson v.toJson = v.norm := by
  cases v with
  | null => rfl
  | bool b => rfl
  | number x => exact ofJson_numberToJson x
  | string s => rfl
  | list items =>
    unfold toJson ofJson norm
    rw [itemsOfJson_itemsToJson items]
  | map entries =>
    unfold toJson ofJson norm
    rw [entriesOfJson_entriesToJson entries]

/-- Items come back from a round trip in their normal form. -/
theorem itemsOfJson_itemsToJson (items : List Value) :
    itemsOfJson (itemsToJson items) = normItems items := by
  cases items with
  | nil => rfl
  | cons x xs =>
    unfold itemsToJson itemsOfJson normItems
    rw [ofJson_toJson x, itemsOfJson_itemsToJson xs]

/-- Entries come back from a round trip in their normal form. -/
theorem entriesOfJson_entriesToJson (entries : List (String × Value)) :
    entriesOfJson (entriesToJson entries) = normEntries entries := by
  match entries with
  | [] => rfl
  | (key, x) :: xs =>
    unfold entriesToJson entriesOfJson normEntries
    rw [ofJson_toJson x, entriesOfJson_entriesToJson xs]

end

/-! ## Writing a normal form -/

/-- The normal form of a number is written as the number is. -/
theorem toJson_normNumber (x : Binary64) : (normNumber x).toJson = numberToJson x := by
  cases x with
  | nan => rfl
  | infinity neg => rfl
  | finite y =>
    show numberToJson (.finite (if y = .negZero then .zero else y)) = _
    split_ifs with hzero
    · -- Both zeros are written as the integer.
      have hwritten (z : FiniteDouble) (hz : z.toInt? = some 0) :
          numberToJson (.finite z) = .int 0 :=
        numberToJson_of_toInt? (.finite z) 0 hz (by decide) (by decide)
      rw [hzero, hwritten _ (by decide +kernel), hwritten _ (by decide +kernel)]
    · rfl

mutual

/-- The normal form of a value is written as the value is. -/
theorem toJson_norm (v : Value) : v.norm.toJson = v.toJson := by
  cases v with
  | null => rfl
  | bool b => rfl
  | number x => exact toJson_normNumber x
  | string s => rfl
  | list items =>
    unfold norm toJson
    rw [itemsToJson_normItems items]
  | map entries =>
    unfold norm toJson
    rw [entriesToJson_normEntries entries]

/-- The normal forms of items are written as the items are. -/
theorem itemsToJson_normItems (items : List Value) :
    itemsToJson (normItems items) = itemsToJson items := by
  cases items with
  | nil => rfl
  | cons x xs =>
    unfold normItems itemsToJson
    rw [toJson_norm x, itemsToJson_normItems xs]

/-- The normal forms of entries are written as the entries are. -/
theorem entriesToJson_normEntries (entries : List (String × Value)) :
    entriesToJson (normEntries entries) = entriesToJson entries := by
  match entries with
  | [] => rfl
  | (key, x) :: xs =>
    unfold normEntries entriesToJson
    rw [toJson_norm x, entriesToJson_normEntries xs]

end

/-! ## Two readers -/

mutual

/-- Trying shape after shape reads every document, as the value that its shape spells. -/
theorem decode?_eq (j : Json) : decode? j = some (ofJson j) := by
  cases j with
  | null => rfl
  | bool b => rfl
  | int n => rfl
  | float x => rfl
  | string s => rfl
  | array items =>
    -- No shape before a list fits an array, so its items decide.
    have hread : decode? (.array items) = ((decodeItems? items).map list <|> none) := by
      unfold decode?
      rfl
    rw [hread, decodeItems?_eq items]
    unfold ofJson
    rfl
  | object entries =>
    have hread : decode? (.object entries) = (decodeEntries? entries).map map := by
      unfold decode?
      rfl
    rw [hread, decodeEntries?_eq entries]
    unfold ofJson
    rfl

/-- The same for the items of an array. -/
theorem decodeItems?_eq (items : List Json) : decodeItems? items = some (itemsOfJson items) := by
  cases items with
  | nil => rfl
  | cons j js =>
    unfold decodeItems? itemsOfJson
    rw [decode?_eq j, decodeItems?_eq js]
    rfl

/-- The same for the entries of an object. -/
theorem decodeEntries?_eq (entries : List (String × Json)) :
    decodeEntries? entries = some (entriesOfJson entries) := by
  match entries with
  | [] => rfl
  | (key, j) :: js =>
    unfold decodeEntries? entriesOfJson
    rw [decode?_eq j, decodeEntries?_eq js]
    rfl

end

/-- Writing a value as JSON and reading it back, with either reader, leaves its normal form. In that
form maps have the same keys in the same order, and it is written as the value is. So a validator
that parses values returns the errors if there are any, and else the normal form, and never finds a
value that it cannot read. The two readers agree on every document. -/
theorem json_round_trip :
    (∀ v : Value, ofJson v.toJson = v.norm ∧ decode? v.toJson = some v.norm ∧
      (ofJson v.toJson).toJson = v.toJson) ∧
    (∀ entries, norm (.map entries) = .map (normEntries entries) ∧
      Entries.keys (normEntries entries) = Entries.keys entries) ∧
    (∀ (validator : Validator) (v : Value) (args : List Value),
      validator.parse Value v args =
        match validator.validate v args with
        | [] => .ok v.norm
        | errors => .error (.invalid errors)) ∧
    ∀ j : Json, decode? j = some (ofJson j) := by
  refine ⟨fun v => ⟨ofJson_toJson v, ?_, ?_⟩, fun entries => ⟨rfl, keys_normEntries entries⟩,
    fun validator v args => ?_, decode?_eq⟩
  · rw [decode?_eq, ofJson_toJson]
  · rw [ofJson_toJson, toJson_norm]
  · have hread : (Decode.decode? v.toJson : Option Value) = some v.norm := by
      rw [← ofJson_toJson]
      exact decode?_eq v.toJson
    unfold Validator.parse
    cases validator.validate v args with
    | nil => simp only [hread]
    | cons e es => rfl

example : norm (.list [.number .nan, .map [("b", .number (.finite .negZero)), ("a", .null)]]) =
    .list [.null, .map [("b", .number (.finite .zero)), ("a", .null)]] :=
  rfl

end Value

end DataShape
