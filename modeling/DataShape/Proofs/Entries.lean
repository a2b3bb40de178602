import DataShape.Entries
import Mathlib.Data.List.Forall2
import Mathlib.Data.List.Induction
import Mathlib.Data.List.Nodup

/-!
# Looking up keyed entries

An entry that is found under a key is the first one with that key. So entries that have a key are
split in front of it and behind it, and replacing or removing a key changes the entry in the middle
alone. Entries without a key twice are known by their keys and by what is found under each of them
(`Entries.eq_filterMap_find?`), so entries that are inserted one by one come to the last value of each
key, in the order of the first (`Entries.ofList_eq_lastOfEach`).
-/

namespace DataShape

namespace Entries

variable {α : Type}

instance (entries : List (String × α)) : Decidable (Distinct entries) :=
  inferInstanceAs (Decidable (keys entries).Nodup)

/-- Nothing is found under what is no key. -/
theorem find?_eq_none_iff (entries : List (String × α)) (key : String) :
    find? entries key = none ↔ key ∉ keys entries := by
  unfold find? keys
  rw [List.lookup_eq_none_iff, List.mem_map, not_exists]
  simp only [bne_iff_ne, ne_eq, not_and]
  exact forall₂_congr fun e _ => not_congr eq_comm

/-- Entries that have a key have a first one with it. -/
theorem exists_split_of_find? (entries : List (String × α)) (key : String) (value : α)
    (h : find? entries key = some value) :
    ∃ front back, entries = front ++ (key, value) :: back ∧ ∀ e ∈ front, e.1 ≠ key := by
  obtain ⟨front, back, rfl, hfront⟩ := List.lookup_eq_some_iff.1 h
  refine ⟨front, back, rfl, fun e he heq => ?_⟩
  exact absurd heq.symm (by simpa using hfront e he)

/-- What is found is an entry. -/
theorem mem_of_find? (entries : List (String × α)) (key : String) (value : α)
    (h : find? entries key = some value) : (key, value) ∈ entries := by
  obtain ⟨front, back, rfl, -⟩ := exists_split_of_find? entries key value h
  exact List.mem_append_right front List.mem_cons_self

/-- Entries go together when their keys are the same and their values go together. -/
theorem forall₂_of_keys_eq {β : Type} {R : α → β → Prop} (entries : List (String × α))
    (entries' : List (String × β)) (hkeys : keys entries = keys entries')
    (hvalues : List.Forall₂ R (entries.map Prod.snd) (entries'.map Prod.snd)) :
    List.Forall₂ (fun e e' => e.1 = e'.1 ∧ R e.2 e'.2) entries entries' := by
  rw [List.forall₂_map_left_iff, List.forall₂_map_right_iff] at hvalues
  induction hvalues with
  | nil => exact .nil
  | cons hfirst _ ih =>
    obtain ⟨hkey, hrest⟩ := List.cons.inj hkeys
    exact .cons ⟨hkey, hfirst⟩ (ih hrest)

section

variable (front back : List (String × α)) (key : String) (old : α) (h : ∀ e ∈ front, e.1 ≠ key)

include h

/-- The first entry with a key is the one that is replaced. -/
theorem insert_append_cons (value : α) :
    insert key value (front ++ (key, old) :: back) = front ++ (key, value) :: back := by
  induction front with
  | nil => exact if_pos rfl
  | cons e front ih =>
    rw [List.forall_mem_cons] at h
    rw [List.cons_append, insert, if_neg h.1, ih h.2, List.cons_append]

/-- The first entry with a key is the one that is removed. -/
theorem erase_append_cons : erase (front ++ (key, old) :: back) key = front ++ back := by
  have hfront : ∀ e ∈ front, ¬ (e.1 == key) = true := fun e he heq => h e he (eq_of_beq heq)
  unfold erase
  rw [List.eraseP_append_right _ hfront]
  exact congrArg (front ++ ·) (List.eraseP_cons_of_pos (beq_self_eq_true key))

end

/-! ## Inserting -/

section

variable (entries : List (String × α)) (key : String) (value : α)

/-- An inserted value is found. -/
theorem find?_insert_self : find? (insert key value entries) key = some value := by
  induction entries with
  | nil => simp [insert, find?]
  | cons e rest ih =>
    unfold insert
    split_ifs with h
    · simp [find?]
    · have hne : (key == e.1) = false := by simp [Ne.symm h]
      unfold find? at ih ⊢
      rw [List.lookup_cons, hne, ih]

/-- An inserted value is found under its key only. -/
theorem find?_insert_of_ne (key' : String) (hne : key' ≠ key) :
    find? (insert key value entries) key' = find? entries key' := by
  induction entries with
  | nil => simp [insert, find?, hne]
  | cons e rest ih =>
    unfold insert
    split_ifs with h
    · have hfalse : (key' == e.1) = false := by simp [h, hne]
      unfold find?
      rw [List.lookup_cons, List.lookup_cons, hfalse, beq_false_of_ne hne]
    · unfold find? at ih ⊢
      rw [List.lookup_cons, List.lookup_cons, ih]

/-- Replacing the value of a key leaves the keys as they are. -/
theorem keys_insert_of_find? (old : α) (h : find? entries key = some old) :
    keys (insert key value entries) = keys entries := by
  induction entries with
  | nil => cases h
  | cons e rest ih =>
    unfold insert
    split_ifs with heq
    · exact congrArg (· :: keys rest) heq.symm
    · have hne : (key == e.1) = false := by simp [Ne.symm heq]
      unfold find? at h ih
      rw [List.lookup_cons, hne] at h
      exact congrArg (e.1 :: ·) (ih h)

/-- Inserting a value leaves the keys as they are, unless the key is new and comes last. -/
theorem keys_insert :
    keys (insert key value entries) =
      if key ∈ keys entries then keys entries else keys entries ++ [key] := by
  induction entries with
  | nil => rfl
  | cons e rest ih =>
    have hcons : keys (e :: rest) = e.1 :: keys rest := rfl
    unfold insert
    split_ifs with hfirst hmem hmem
    · rw [hcons, ← hfirst]
      rfl
    · exact absurd (List.mem_cons.2 (.inl hfirst.symm)) hmem
    · have hrest : key ∈ keys rest := (List.mem_cons.1 hmem).resolve_left (Ne.symm hfirst)
      rw [if_pos hrest] at ih
      exact congrArg (e.1 :: ·) ih
    · have hrest : key ∉ keys rest := fun h => hmem (List.mem_cons_of_mem e.1 h)
      rw [if_neg hrest] at ih
      exact congrArg (e.1 :: ·) ih

/-- No key stands twice after a value has been inserted. -/
theorem distinct_insert (h : Distinct entries) : Distinct (insert key value entries) := by
  unfold Distinct at h ⊢
  rw [keys_insert]
  split_ifs with hmem
  · exact h
  · exact List.nodup_append.2 ⟨h, List.nodup_singleton key, fun k hk k' hk' heq =>
      hmem (List.mem_singleton.1 hk' ▸ heq ▸ hk)⟩

end

/-- Entries without a key twice are what is found under their keys, in order. -/
theorem eq_filterMap_find? (entries : List (String × α)) (h : Distinct entries) :
    entries = (keys entries).filterMap fun key => (find? entries key).map (key, ·) := by
  induction entries with
  | nil => rfl
  | cons e rest ih =>
    obtain ⟨hnew, hrest⟩ := List.nodup_cons.1 h
    have hfirst : find? (e :: rest) e.1 = some e.2 := by
      unfold find?
      rw [List.lookup_cons, beq_self_eq_true]
    have hothers : ∀ key ∈ keys rest, find? (e :: rest) key = find? rest key := by
      intro key hkey
      have hne : (key == e.1) = false := beq_false_of_ne fun heq => hnew (heq ▸ hkey)
      unfold find?
      rw [List.lookup_cons, hne]
    show e :: rest = List.filterMap _ (e.1 :: keys rest)
    rw [List.filterMap_cons, hfirst]
    exact congrArg (e :: ·) ((ih hrest).trans (List.filterMap_congr fun key hkey => by
      rw [hothers key hkey]))

/-! ## Inserting one by one -/

/-- The last value of a key. -/
def lastUnder? (key : String) (entries : List (String × α)) : Option α :=
  (entries.filterMap fun e => if e.1 = key then some e.2 else none).getLast?

/-- The keys in the order in which they stand first, each with its last value. -/
def lastOfEach (entries : List (String × α)) : Entries α :=
  (keys entries).eraseDups.filterMap fun key => (lastUnder? key entries).map (key, ·)

/-- One more entry is inserted after the others. -/
theorem ofList_append_singleton (entries : List (String × α)) (e : String × α) :
    ofList (entries ++ [e]) = insert e.1 e.2 (ofList entries) := by
  unfold ofList
  rw [List.foldl_append]
  rfl

/-- Keys stand in the order in which they are first inserted. -/
theorem keys_ofList (entries : List (String × α)) :
    keys (ofList entries) = (keys entries).eraseDups := by
  induction entries using List.reverseRecOn with
  | nil => rfl
  | append_singleton entries e ih =>
    have hkeys : keys (entries ++ [e]) = keys entries ++ [e.1] := List.map_append
    rw [ofList_append_singleton, keys_insert, ih, hkeys, List.eraseDups_append]
    by_cases hmem : e.1 ∈ keys entries
    · simp [List.removeAll, hmem]
    · simp [List.removeAll, hmem, List.eraseDups_cons]

/-- No key stands twice. -/
theorem distinct_ofList (entries : List (String × α)) : Distinct (ofList entries) := by
  induction entries using List.reverseRecOn with
  | nil => exact List.nodup_nil
  | append_singleton entries e ih =>
    rw [ofList_append_singleton]
    exact distinct_insert _ e.1 e.2 ih

/-- What is found under a key is its last value. -/
theorem find?_ofList (entries : List (String × α)) (key : String) :
    find? (ofList entries) key = lastUnder? key entries := by
  induction entries using List.reverseRecOn with
  | nil => rfl
  | append_singleton entries e ih =>
    rw [ofList_append_singleton]
    unfold lastUnder? at ih ⊢
    rw [List.filterMap_append, List.getLast?_append, ← ih]
    by_cases hkey : e.1 = key
    · rw [← hkey, find?_insert_self]
      simp
    · rw [find?_insert_of_ne _ _ _ key (Ne.symm hkey)]
      simp [hkey]

/-- Inserting entries one by one leaves the last value of each key, in the order of the first. -/
theorem ofList_eq_lastOfEach (entries : List (String × α)) :
    ofList entries = lastOfEach entries := by
  have hfound := eq_filterMap_find? (ofList entries) (distinct_ofList entries)
  simp only [keys_ofList, find?_ofList] at hfound
  exact hfound

end Entries

end DataShape
