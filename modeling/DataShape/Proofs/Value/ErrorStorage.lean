import DataShape.Proofs.Entries
import DataShape.Proofs.Number.MachineWord
import DataShape.Proofs.Number.Rounding
import DataShape.Proofs.Value.RoundTrip
import DataShape.Proofs.Value.Storage

/-!
# Errors that storage keeps

An error is stored without a tag: a code as an integer, a message as a string, and a structured error
as an object, which leaves its details out if there are none. The three shapes are told apart by what
they are stored as, so reading gives the shape, the code, the message and the details in their order
(`ValidationError.decode?_encode`). Only the numbers in the details decide what else comes back: NaN
and the infinities have become null, at any depth (`Value.stored`), and all others are the same, with
negative zero among them.

Documents have no numbers but finite ones. So whatever error a document spells is stored without a
loss (`ValidationError.storage_round_trip`).
-/

namespace DataShape

namespace Value

/-! ## What storage leaves of a value -/

/-- The number that storage leaves: null for NaN and the infinities. -/
def storedNumber : Binary64 → Value
  | .finite x => number (.finite x)
  | _ => null

mutual

/-- The value that storage leaves: null in the place of each number that is not finite, at any depth,
and all else as it was. -/
def stored : Value → Value
  | null => null
  | bool b => bool b
  | number x => storedNumber x
  | string s => string s
  | list items => list (storedItems items)
  | map entries => map (storedEntries entries)

/-- The items that storage leaves. -/
def storedItems : List Value → List Value
  | [] => []
  | x :: xs => x.stored :: storedItems xs

/-- The entries that storage leaves. -/
def storedEntries : List (String × Value) → List (String × Value)
  | [] => []
  | (key, x) :: xs => (key, x.stored) :: storedEntries xs

end

mutual

/-- A value comes back from storage as what storage leaves. -/
theorem ofJson_encode_eq_stored (v : Value) : ofJson v.encode = v.stored := by
  cases v with
  | number x => cases x <;> rfl
  | list items => exact congrArg list (itemsOfJson_encodeItems_eq_stored items)
  | map entries => exact congrArg map (entriesOfJson_encodeEntries_eq_stored entries)
  | _ => rfl

/-- The same for the items of a list. -/
theorem itemsOfJson_encodeItems_eq_stored (items : List Value) :
    itemsOfJson (encodeItems items) = storedItems items := by
  cases items with
  | nil => rfl
  | cons x xs =>
    exact congrArg₂ List.cons (ofJson_encode_eq_stored x) (itemsOfJson_encodeItems_eq_stored xs)

/-- The same for the entries of a map. -/
theorem entriesOfJson_encodeEntries_eq_stored (entries : List (String × Value)) :
    entriesOfJson (encodeEntries entries) = storedEntries entries := by
  match entries with
  | [] => rfl
  | (key, x) :: xs =>
    exact congrArg₂ (fun y ys => (key, y) :: ys) (ofJson_encode_eq_stored x)
      (entriesOfJson_encodeEntries_eq_stored xs)

end

/-- Storage leaves finite entries as they are. -/
theorem storedEntries_of_finite (entries : List (String × Value))
    (h : entriesFinite entries = true) : storedEntries entries = entries := by
  rw [← entriesOfJson_encodeEntries_eq_stored, entriesOfJson_encodeEntries entries h]

/-! ## The numbers of a document -/

/-- The number of an integer of 64 bits, with a sign or without, is finite. -/
theorem isFinite_ofInt_of_wellFormed (n : Int) (h : (Json.int n).WellFormed) :
    (Binary64.ofInt n).isFinite = true := by
  obtain ⟨hlo, hhi⟩ := h
  have hrange : (signedRange 64).1 = -2 ^ 63 ∧ (unsignedRange 64).2 = 2 ^ 64 - 1 := by decide
  rw [hrange.1] at hlo
  rw [hrange.2] at hhi
  exact Binary64.isFinite_ofInt n (by omega)

mutual

/-- A well-formed document spells a finite value. -/
theorem isFinite_ofJson (j : Json) (h : j.WellFormed) : (ofJson j).isFinite = true := by
  cases j with
  | int n => exact isFinite_ofInt_of_wellFormed n h
  | array items => exact itemsFinite_itemsOfJson items h
  | object entries => exact entriesFinite_entriesOfJson entries h.2
  | _ => rfl

/-- The same for the items of an array. -/
theorem itemsFinite_itemsOfJson (items : List Json) (h : Json.ItemsWellFormed items) :
    itemsFinite (itemsOfJson items) = true := by
  cases items with
  | nil => rfl
  | cons j js =>
    exact Bool.and_eq_true_iff.2 ⟨isFinite_ofJson j h.1, itemsFinite_itemsOfJson js h.2⟩

/-- The same for the entries of an object. -/
theorem entriesFinite_entriesOfJson (entries : List (String × Json))
    (h : Json.EntriesWellFormed entries) : entriesFinite (entriesOfJson entries) = true := by
  match entries with
  | [] => rfl
  | (key, j) :: js =>
    exact Bool.and_eq_true_iff.2 ⟨isFinite_ofJson j h.1, entriesFinite_entriesOfJson js h.2⟩

end

end Value

namespace ValidationError

/-! ## What storage leaves of an error -/

/-- The details of a structured error. Other errors have none. -/
def details : ValidationError → List (String × Value)
  | structured _ details => details
  | _ => []

/-- The error that storage leaves: null in the place of each number in the details that is not finite,
and all else as it was. -/
def stored : ValidationError → ValidationError
  | structured n details => structured n (Value.storedEntries details)
  | e => e

/-- Storage leaves an error as it is if the details are finite. -/
theorem stored_of_finite (e : ValidationError) (h : Value.entriesFinite e.details = true) :
    e.stored = e := by
  cases e with
  | structured n details => exact congrArg (structured n) (Value.storedEntries_of_finite details h)
  | _ => rfl

/-- A code is read as it was written. -/
theorem decode?_toInt (n : Int64) : (Decode.decode? (.int n.toInt) : Option Int64) = some n := by
  have hhi : n.toInt ≤ (signedRange 64).2 := Int.le_sub_one_of_lt n.toInt_lt
  exact (SizedKind.decode?_eq_some_iff (.signed .w64) (.int n.toInt) n).2
    ⟨n.toInt, rfl, n.le_toInt, hhi, Int64.ofInt_toInt n⟩

/-- An object is read as a structured error or not at all. -/
theorem decode?_object (entries : List (String × Json)) :
    decode? (.object entries) = ((Json.object entries).field? Int64 "code").bind fun n =>
      (details? (.object entries)).map (structured n) := by
  show ((Json.object entries).field? Int64 "code").bind (fun n =>
    (details? (.object entries)).bind fun details => some (structured n details)) = _
  simp only [Option.map_eq_bind, Function.comp_def]

/-- An error comes back from storage as what storage leaves. -/
theorem decode?_encode (e : ValidationError) : decode? e.encode = some e.stored := by
  cases e with
  | code n =>
    unfold decode? encode
    rw [decode?_toInt]
    rfl
  | message text => rfl
  | structured n details =>
    have hcode (rest : List (String × Json)) :
        (Json.object (("code", .int n.toInt) :: rest)).field? Int64 "code" = some n :=
      decode?_toInt n
    cases details with
    | nil =>
      unfold encode
      rw [decode?_object, hcode]
      rfl
    | cons d ds =>
      have hdetails : details? (.object [("code", .int n.toInt),
          ("details", .object (Value.encodeEntries (d :: ds)))]) =
            some (Value.storedEntries (d :: ds)) := by
        rw [← Value.entriesOfJson_encodeEntries_eq_stored, ← Value.decodeEntries?_eq]
        rfl
      unfold encode
      rw [decode?_object, hcode, hdetails]
      rfl

/-- The details that an object of well-formed documents spells are finite. -/
theorem finite_of_details? (entries : List (String × Json)) (details : List (String × Value))
    (h : Json.EntriesWellFormed entries) (hread : details? (.object entries) = some details) :
    Value.entriesFinite details = true := by
  have hentries : (Json.object entries).entries?.getD [] = entries := rfl
  unfold details? at hread
  rw [hentries] at hread
  cases hfind : Entries.find? entries "details" with
  | none =>
    rw [hfind] at hread
    cases hread
    rfl
  | some found =>
    rw [hfind] at hread
    have hwell := (Json.entriesWellFormed_iff entries).1 h _ (Entries.mem_of_find? _ _ _ hfind)
    cases found with
    | object members =>
      have hspelled : Value.decodeEntries? members = some details := hread
      rw [Value.decodeEntries?_eq] at hspelled
      cases hspelled
      exact Value.entriesFinite_entriesOfJson members hwell.2
    | _ => cases hread

/-- An error that a well-formed document spells has finite details. -/
theorem finite_of_decode? (j : Json) (e : ValidationError) (h : j.WellFormed)
    (hread : decode? j = some e) : Value.entriesFinite e.details = true := by
  cases j with
  | int n =>
    -- Only a code is spelled by an integer.
    have hcode : decode? (.int n) = (Decode.decode? (.int n) : Option Int64).map code := by
      unfold decode?
      cases (Decode.decode? (.int n) : Option Int64) <;> rfl
    rw [hcode] at hread
    obtain ⟨m, -, rfl⟩ := Option.map_eq_some_iff.1 hread
    rfl
  | string text =>
    cases hread
    rfl
  | object entries =>
    rw [decode?_object] at hread
    obtain ⟨n, -, hdetails⟩ := Option.bind_eq_some_iff.1 hread
    obtain ⟨details, hspelled, rfl⟩ := Option.map_eq_some_iff.1 hdetails
    exact finite_of_details? entries details h.2 hspelled
  | _ => cases hread

/-- Storage keeps errors. What comes back is the error with null in the place of each number in its
details that is not finite, and so the error itself if all of them are finite. A well-formed document
that spells an error spells one that comes back unchanged. -/
theorem storage_round_trip :
    (∀ e : ValidationError, decode? e.encode = some e.stored) ∧
    (∀ e : ValidationError, Value.entriesFinite e.details = true → decode? e.encode = some e) ∧
    ∀ (j : Json) (e : ValidationError), j.WellFormed → decode? j = some e →
      decode? e.encode = some e := by
  have hkept (e : ValidationError) (h : Value.entriesFinite e.details = true) :
      decode? e.encode = some e := by
    rw [decode?_encode, e.stored_of_finite h]
  exact ⟨decode?_encode, hkept, fun j e h hread => hkept e (finite_of_decode? j e h hread)⟩

end ValidationError

namespace Demo

/-- An error about a reading, with a few details. -/
def readingError (readings : List Value) : ValidationError :=
  .structured 7 [("unit", .null), ("readings", .list readings)]

/-- The document of the error, with a key that is not asked for. -/
def readingDocument : Json :=
  .object [("level", .string "high"),
    ("details", .object [("unit", .null), ("readings", .array [.int 3])]), ("code", .int 7)]

/-- Negative zero comes back, and so does an error that a document spells. -/
theorem storage_round_trip_reading :
    Value.entriesFinite (readingError [.number (.finite .negZero)]).details = true ∧
      ValidationError.decode? (readingError [.number (.finite .negZero)]).encode =
        some (readingError [.number (.finite .negZero)]) ∧
      readingDocument.WellFormed ∧
      ValidationError.decode? readingDocument = some (readingError [toValue 3]) ∧
      ValidationError.decode? (readingError [toValue 3]).encode = some (readingError [toValue 3]) := by
  have hdetails : (Json.object [("unit", .null), ("readings", .array [.int 3])]).WellFormed :=
    ⟨by unfold Entries.Distinct; decide, trivial, ⟨⟨by decide, by decide⟩, trivial⟩, trivial⟩
  have hwell : readingDocument.WellFormed :=
    ⟨by unfold Entries.Distinct; decide, trivial, hdetails, ⟨by decide, by decide⟩, trivial⟩
  have hread : ValidationError.decode? readingDocument = some (readingError [toValue 3]) := rfl
  exact ⟨rfl, ValidationError.storage_round_trip.2.1 _ rfl, hwell, hread,
    ValidationError.storage_round_trip.2.2 _ _ hwell hread⟩

example : (readingError [.number .nan, .list [.number (.infinity true)]]).stored =
    readingError [.null, .list [.null]] :=
  rfl

end Demo

end DataShape
