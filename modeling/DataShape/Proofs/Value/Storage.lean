import DataShape.Value.Json

/-!
# Values that storage keeps

A value for storage keeps its numbers as floating-point numbers, so nothing is rounded and negative
zero stays apart from zero. Only NaN and the infinities are lost. A value without them, at any depth,
comes back from storage unchanged (`Value.ofJson_encode`).

A document is well-formed when it can be written: no object has a key twice, and integers fit into 64
bits, with a sign or without.
-/

namespace DataShape

namespace Json

mutual

/-- No key stands twice in an object, at any depth, and all integers fit into 64 bits. -/
def WellFormed : Json → Prop
  | int n => (signedRange 64).1 ≤ n ∧ n ≤ (unsignedRange 64).2
  | array items => ItemsWellFormed items
  | object entries => Entries.Distinct entries ∧ EntriesWellFormed entries
  | _ => True

/-- All items are well-formed. -/
def ItemsWellFormed : List Json → Prop
  | [] => True
  | j :: js => j.WellFormed ∧ ItemsWellFormed js

/-- The documents of all entries are well-formed. -/
def EntriesWellFormed : List (String × Json) → Prop
  | [] => True
  | (_, j) :: js => j.WellFormed ∧ EntriesWellFormed js

end

/-- The documents of entries are well-formed one by one. -/
theorem entriesWellFormed_iff (entries : List (String × Json)) :
    EntriesWellFormed entries ↔ ∀ e ∈ entries, e.2.WellFormed := by
  induction entries with
  | nil => simp [EntriesWellFormed]
  | cons e rest ih => simp [EntriesWellFormed, ih]

end Json

namespace Value

mutual

/-- No number is NaN or an infinity, at any depth. -/
def isFinite : Value → Bool
  | number x => x.isFinite
  | list items => itemsFinite items
  | map entries => entriesFinite entries
  | _ => true

/-- All items are finite. -/
def itemsFinite : List Value → Bool
  | [] => true
  | x :: xs => x.isFinite && itemsFinite xs

/-- The values of all entries are finite. -/
def entriesFinite : List (String × Value) → Bool
  | [] => true
  | (_, x) :: xs => x.isFinite && entriesFinite xs

end

mutual

/-- Whether a value repeats a key can be looked up. -/
def decideWellFormed : (v : Value) → Decidable v.WellFormed
  | null => isTrue trivial
  | bool _ => isTrue trivial
  | number _ => isTrue trivial
  | string _ => isTrue trivial
  | list items => decideItemsWellFormed items
  | map entries =>
    @instDecidableAnd _ _ (inferInstanceAs (Decidable (Entries.keys entries).Nodup))
      (decideEntriesWellFormed entries)

/-- The same for the items of a list. -/
def decideItemsWellFormed : (items : List Value) → Decidable (ItemsWellFormed items)
  | [] => isTrue trivial
  | x :: xs => @instDecidableAnd _ _ (decideWellFormed x) (decideItemsWellFormed xs)

/-- The same for the entries of a map. -/
def decideEntriesWellFormed :
    (entries : List (String × Value)) → Decidable (EntriesWellFormed entries)
  | [] => isTrue trivial
  | (_, x) :: xs => @instDecidableAnd _ _ (decideWellFormed x) (decideEntriesWellFormed xs)

end

instance (entries : List (String × Value)) : Decidable (EntriesWellFormed entries) :=
  decideEntriesWellFormed entries

/-- The keys of a map stay in storage. -/
theorem keys_encodeEntries (entries : List (String × Value)) :
    Entries.keys (encodeEntries entries) = Entries.keys entries := by
  induction entries with
  | nil => rfl
  | cons e rest ih => exact congrArg (e.1 :: ·) ih

/-- A finite number is stored as it is. -/
theorem number?_encodeNumber (x : Binary64) (h : x.isFinite = true) :
    (encodeNumber x).number? = some x := by
  cases x with
  | finite y => rfl
  | nan => cases h
  | infinity neg => cases h

mutual

/-- A finite value comes back from storage unchanged. -/
theorem ofJson_encode (v : Value) (h : v.isFinite = true) : ofJson v.encode = v := by
  cases v with
  | null => rfl
  | bool b => rfl
  | number x =>
    cases x with
    | finite y => rfl
    | nan => cases h
    | infinity neg => cases h
  | string s => rfl
  | list items =>
    unfold encode ofJson
    rw [itemsOfJson_encodeItems items h]
  | map entries =>
    unfold encode ofJson
    rw [entriesOfJson_encodeEntries entries h]

/-- Finite items come back from storage unchanged. -/
theorem itemsOfJson_encodeItems (items : List Value) (h : itemsFinite items = true) :
    itemsOfJson (encodeItems items) = items := by
  cases items with
  | nil => rfl
  | cons x xs =>
    obtain ⟨hfirst, hrest⟩ := Bool.and_eq_true_iff.1 h
    unfold encodeItems itemsOfJson
    rw [ofJson_encode x hfirst, itemsOfJson_encodeItems xs hrest]

/-- Finite entries come back from storage unchanged, in their order. -/
theorem entriesOfJson_encodeEntries (entries : List (String × Value))
    (h : entriesFinite entries = true) : entriesOfJson (encodeEntries entries) = entries := by
  match entries with
  | [] => rfl
  | (key, x) :: xs =>
    obtain ⟨hfirst, hrest⟩ := Bool.and_eq_true_iff.1 h
    unfold encodeEntries entriesOfJson
    rw [ofJson_encode x hfirst, entriesOfJson_encodeEntries xs hrest]

end

mutual

/-- A value without repeated keys is stored as a well-formed document. -/
theorem wellFormed_encode (v : Value) (h : v.WellFormed) : v.encode.WellFormed := by
  cases v with
  | null => trivial
  | bool b => trivial
  | number x => cases x <;> trivial
  | string s => trivial
  | list items => exact itemsWellFormed_encodeItems items h
  | map entries =>
    refine ⟨?_, entriesWellFormed_encodeEntries entries h.2⟩
    unfold Entries.Distinct
    rw [keys_encodeEntries]
    exact h.1

/-- The same for the items of a list. -/
theorem itemsWellFormed_encodeItems (items : List Value) (h : ItemsWellFormed items) :
    Json.ItemsWellFormed (encodeItems items) := by
  cases items with
  | nil => trivial
  | cons x xs => exact ⟨wellFormed_encode x h.1, itemsWellFormed_encodeItems xs h.2⟩

/-- The same for the entries of a map. -/
theorem entriesWellFormed_encodeEntries (entries : List (String × Value))
    (h : EntriesWellFormed entries) : Json.EntriesWellFormed (encodeEntries entries) := by
  match entries with
  | [] => trivial
  | (key, x) :: xs => exact ⟨wellFormed_encode x h.1, entriesWellFormed_encodeEntries xs h.2⟩

end

end Value

end DataShape
