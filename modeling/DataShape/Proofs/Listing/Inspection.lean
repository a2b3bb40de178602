import DataShape.Proofs.Listing.Spelling

/-!
# Values and errors can be read off their detailed forms

The detailed form of a value begins with the name of its kind and quotes every text in it. So it
says where it ends, and which value it is of (`Value.inspect_append_inj`), and so does the detailed
form of an error (`ValidationError.inspect_inj`).
-/

namespace DataShape

/-! ## Pieces with commas between them -/

/-- The pieces behind the first one stand behind a comma each. -/
theorem toList_intercalate_cons (separator text : String) (texts : List String) :
    (separator.intercalate (text :: texts)).toList =
      text.toList ++ texts.flatMap fun t => separator.toList ++ t.toList := by
  induction texts generalizing text with
  | nil => simp
  | cons next rest ih =>
    rw [String.intercalate_cons_cons, String.toList_append, String.toList_append, ih,
      List.flatMap_cons, List.append_assoc, List.append_assoc]

section

variable {α : Type} (code : α → String) (mark : Char) (as bs : List α) (u v : List Char)
  (hcode : ∀ a ∈ as, ∀ b s t, (code a).toList ++ s = (code b).toList ++ t → a = b ∧ s = t)
  (hcomma : mark ≠ ',')

include hcode hcomma

/-- Pieces with a comma in front of each can be taken apart up to a mark. -/
theorem commas_inj
    (h : (as.flatMap fun a => ", ".toList ++ (code a).toList) ++ mark :: u =
      (bs.flatMap fun b => ", ".toList ++ (code b).toList) ++ mark :: v) : as = bs ∧ u = v := by
  induction as generalizing bs with
  | nil =>
    cases bs with
    | nil => exact ⟨rfl, (List.cons.inj h).2⟩
    | cons b bs => exact absurd (List.cons.inj h).1 hcomma
  | cons a as ih =>
    cases bs with
    | nil => exact absurd (List.cons.inj h).1.symm hcomma
    | cons b bs =>
      rw [List.flatMap_cons, List.flatMap_cons, List.append_assoc, List.append_assoc,
        List.append_assoc, List.append_assoc] at h
      obtain ⟨rfl, hrest⟩ := hcode a List.mem_cons_self b _ _ (List.append_cancel_left h)
      obtain ⟨rfl, huv⟩ := ih bs (fun a ha => hcode a (List.mem_cons_of_mem _ ha)) hrest
      exact ⟨rfl, huv⟩

/-- Pieces with commas between them, of which none begins another, can be taken apart up to a mark
that no piece begins with. -/
theorem intercalate_inj (hmark : ∀ a s, ((code a).toList ++ s).head? ≠ some mark)
    (h : (", ".intercalate (as.map code)).toList ++ mark :: u =
      (", ".intercalate (bs.map code)).toList ++ mark :: v) : as = bs ∧ u = v := by
  cases as with
  | nil =>
    cases bs with
    | nil => exact ⟨rfl, (List.cons.inj h).2⟩
    | cons b bs =>
      rw [List.map_cons, toList_intercalate_cons, List.append_assoc] at h
      exact absurd (congrArg List.head? h.symm) (hmark b _)
  | cons a as =>
    cases bs with
    | nil =>
      rw [List.map_cons, toList_intercalate_cons, List.append_assoc] at h
      exact absurd (congrArg List.head? h) (hmark a _)
    | cons b bs =>
      rw [List.map_cons, List.map_cons, toList_intercalate_cons, toList_intercalate_cons,
        List.append_assoc, List.append_assoc, List.flatMap_map, List.flatMap_map] at h
      obtain ⟨rfl, hrest⟩ := hcode a List.mem_cons_self b _ _ h
      obtain ⟨rfl, huv⟩ := commas_inj code mark as bs u v
        (fun a ha => hcode a (List.mem_cons_of_mem _ ha)) hcomma hrest
      exact ⟨rfl, huv⟩

end

/-- A number can be read off up to a mark that is no letter of numbers. -/
theorem NumberStyle.text_append_inj (style : NumberStyle) (x y : Binary64) (mark : Char)
    (u v : List Char) (hmark : ¬ IsLetter mark)
    (h : (style.text x).toList ++ mark :: u = (style.text y).toList ++ mark :: v) :
    x = y ∧ u = v := by
  obtain ⟨htext, huv⟩ := cut_inj mark _ _ u v (fun hm => hmark (style.isLetter_of_mem_text x _ hm))
    (fun hm => hmark (style.isLetter_of_mem_text y _ hm)) h
  exact ⟨style.text_inj x y (String.toList_inj.1 htext), huv⟩

/-! ## Values -/

/-- Induction over values, with what is in a list or in a map below it. -/
@[elab_as_elim]
theorem Value.inductionOnParts {motive : Value → Prop} (null : motive null)
    (bool : ∀ b, motive (bool b)) (number : ∀ x, motive (number x))
    (string : ∀ text, motive (string text))
    (list : ∀ items, (∀ x ∈ items, motive x) → motive (list items))
    (map : ∀ entries, (∀ entry ∈ entries, motive entry.2) → motive (map entries)) (v : Value) :
    motive v := by
  refine @Value.rec motive (fun items => ∀ x ∈ items, motive x)
    (fun entries => ∀ entry ∈ entries, motive entry.2) (fun entry => motive entry.2)
    null bool number string list map ?_ ?_ ?_ ?_ ?_ v
  · exact fun x hx => absurd hx List.not_mem_nil
  · exact fun x xs hx hxs => List.forall_mem_cons.2 ⟨hx, hxs⟩
  · exact fun entry hentry => absurd hentry List.not_mem_nil
  · exact fun entry rest hentry hrest => List.forall_mem_cons.2 ⟨hentry, hrest⟩
  · exact fun key x hx => hx

/-- What the detailed form of a value of the kind begins with. -/
def ValueKind.letters : ValueKind → List Char
  | null => ['N', 'u', 'l']
  | bool => ['B', 'o', 'o']
  | number => ['N', 'u', 'm']
  | string => ['S', 't', 'r']
  | list => ['L', 'i', 's']
  | map => ['M', 'a', 'p']

/-- The letters of a kind tell which kind it is. -/
theorem ValueKind.letters_inj (k k' : ValueKind) (h : k.letters = k'.letters) : k = k' := by
  cases k <;> cases k' <;> first | rfl | exact absurd h (by decide)

namespace Value

/-- The items in full detail, one by one. -/
theorem inspectItems_eq_map (items : List Value) : inspectItems items = items.map inspect := by
  induction items with
  | nil => rfl
  | cons x xs ih => rw [inspectItems, ih, List.map_cons]

/-- An entry in full detail. -/
def inspectEntry (entry : String × Value) : String :=
  Quoted.quote entry.1 ++ ": " ++ entry.2.inspect

/-- The entries in full detail, one by one. -/
theorem inspectEntries_eq_map (entries : List (String × Value)) :
    inspectEntries entries = entries.map inspectEntry := by
  induction entries with
  | nil => rfl
  | cons entry rest ih =>
    rw [inspectEntries, ih, List.map_cons]
    rfl

/-- The detailed form of a value begins with the letters of its kind. -/
theorem take_inspect (v : Value) (s : List Char) :
    (v.inspect.toList ++ s).take 3 = v.kind.letters := by
  cases v <;> simp only [inspect, String.toList_append, List.append_assoc] <;> rfl

/-- Values of which texts begin with the same detailed form are of the same kind. -/
theorem kind_eq_of_inspect (v w : Value) (s t : List Char)
    (h : v.inspect.toList ++ s = w.inspect.toList ++ t) : v.kind = w.kind := by
  apply ValueKind.letters_inj
  rw [← v.take_inspect s, h, w.take_inspect t]

/-- The detailed form of a value begins with no closing bracket. -/
theorem head?_inspect_ne (v : Value) (s : List Char) :
    (v.inspect.toList ++ s).head? ≠ some ']' := by
  intro h
  have hhead := congrArg List.head? (v.take_inspect s)
  rw [List.head?_take, if_neg (by decide), h] at hhead
  generalize v.kind = kind at hhead
  cases kind <;> exact absurd hhead (by decide)

/-- An entry in full detail can be read off from its beginning, if its value can. -/
theorem inspectEntry_append_inj (entry other : String × Value) (s t : List Char)
    (hvalue : ∀ w s t, entry.2.inspect.toList ++ s = w.inspect.toList ++ t → entry.2 = w ∧ s = t)
    (h : (inspectEntry entry).toList ++ s = (inspectEntry other).toList ++ t) :
    entry = other ∧ s = t := by
  simp only [inspectEntry, String.toList_append, List.append_assoc] at h
  obtain ⟨hkey, hrest⟩ := Quoted.quote_inj entry.1 other.1 _ _ h
  obtain ⟨hvalue, hst⟩ := hvalue other.2 s t (List.append_cancel_left hrest)
  exact ⟨Prod.ext hkey hvalue, hst⟩

/-- Entries in full detail can be read off up to a closing brace, if their values can. -/
theorem inspectEntries_append_inj (entries others : List (String × Value)) (s t : List Char)
    (hvalues : ∀ entry ∈ entries, ∀ w s t,
      entry.2.inspect.toList ++ s = w.inspect.toList ++ t → entry.2 = w ∧ s = t)
    (h : (", ".intercalate (inspectEntries entries)).toList ++ '\x7d' :: s =
      (", ".intercalate (inspectEntries others)).toList ++ '\x7d' :: t) :
    entries = others ∧ s = t := by
  rw [inspectEntries_eq_map, inspectEntries_eq_map] at h
  refine intercalate_inj inspectEntry '\x7d' entries others s t
    (fun entry hentry other s t => inspectEntry_append_inj entry other s t (hvalues entry hentry))
    (by decide) (fun entry s => ?_) h
  simp only [inspectEntry, String.toList_append, List.append_assoc]
  rw [Quoted.head?_quote]
  decide

/-- The detailed form of a value can be read off from its beginning. -/
theorem inspect_append_inj (v w : Value) (s t : List Char)
    (h : v.inspect.toList ++ s = w.inspect.toList ++ t) : v = w ∧ s = t := by
  induction v using inductionOnParts generalizing w s t with
  | null =>
    cases w with
    | null => exact ⟨rfl, List.append_cancel_left h⟩
    -- The letters of another kind are others.
    | _ => cases kind_eq_of_inspect _ _ s t h
  | bool b =>
    cases w with
    | bool b' =>
      simp only [inspect, String.toList_append, List.append_assoc] at h
      have hrest := List.append_cancel_left h
      cases b <;> cases b'
      · exact ⟨rfl, List.append_cancel_left (List.append_cancel_left hrest)⟩
      · cases hrest
      · cases hrest
      · exact ⟨rfl, List.append_cancel_left (List.append_cancel_left hrest)⟩
    | _ => cases kind_eq_of_inspect _ _ s t h
  | number x =>
    cases w with
    | number y =>
      simp only [inspect, String.toList_append, List.append_assoc] at h
      obtain ⟨rfl, hst⟩ := NumberStyle.quoted.text_append_inj x y ')' s t (by decide)
        (List.append_cancel_left h)
      exact ⟨rfl, hst⟩
    | _ => cases kind_eq_of_inspect _ _ s t h
  | string text =>
    cases w with
    | string text' =>
      simp only [inspect, String.toList_append, List.append_assoc] at h
      obtain ⟨rfl, hst⟩ := Quoted.quote_inj text text' _ _ (List.append_cancel_left h)
      exact ⟨rfl, List.append_cancel_left hst⟩
    | _ => cases kind_eq_of_inspect _ _ s t h
  | list items ih =>
    cases w with
    | list items' =>
      simp only [inspect, String.toList_append, List.append_assoc, inspectItems_eq_map] at h
      obtain ⟨rfl, hst⟩ := intercalate_inj inspect ']' items items' (')' :: s) (')' :: t)
        ih (by decide) head?_inspect_ne (List.append_cancel_left h)
      exact ⟨rfl, (List.cons.inj hst).2⟩
    | _ => cases kind_eq_of_inspect _ _ s t h
  | map entries ih =>
    cases w with
    | map entries' =>
      simp only [inspect, String.toList_append, List.append_assoc] at h
      obtain ⟨rfl, hst⟩ := inspectEntries_append_inj entries entries' (')' :: s) (')' :: t)
        ih (List.append_cancel_left h)
      exact ⟨rfl, (List.cons.inj hst).2⟩
    | _ => cases kind_eq_of_inspect _ _ s t h

end Value

/-! ## Errors -/

/-- An integer is written with digits and perhaps a sign. -/
theorem isDigit_or_of_mem_toString (n : Int) (c : Char) (h : c ∈ (toString n).toList) :
    c.isDigit = true ∨ c = '-' := by
  cases n with
  | ofNat m => exact .inl (isDigit_of_mem_repr m c h)
  | negSucc m =>
    have hmem : c ∈ ("-" ++ (m + 1).repr).toList := h
    rw [String.toList_append] at hmem
    rcases List.mem_append.1 hmem with hmem | hmem
    · exact .inr (List.mem_singleton.1 hmem)
    · exact .inl (isDigit_of_mem_repr (m + 1) c hmem)

/-- Integers with the same text are the same. -/
theorem eq_of_toString_eq (m n : Int) (h : toString m = toString n) : m = n := by
  -- A sign stands in front of a negative number alone.
  have hsign (m n : Nat) : m.repr ≠ "-" ++ n.repr := by
    intro h
    have hmem : '-' ∈ m.repr.toList := by
      rw [h, String.toList_append]
      exact List.mem_cons_self
    exact absurd (isDigit_of_mem_repr m _ hmem) (by decide)
  cases m with
  | ofNat m =>
    cases n with
    | ofNat n => exact congrArg Int.ofNat (eq_of_repr_eq m n h)
    | negSucc n => exact absurd h (hsign m (n + 1))
  | negSucc m =>
    cases n with
    | ofNat n => exact absurd h.symm (hsign n (m + 1))
    | negSucc n =>
      have hsucc := eq_of_repr_eq (m + 1) (n + 1) ((String.append_right_inj "-").1 h)
      exact congrArg Int.negSucc (Nat.succ.inj hsucc)

/-- An integer can be read off up to a mark that is neither a digit nor a sign. -/
theorem toString_append_inj (m n : Int) (mark : Char) (u v : List Char)
    (hdigit : mark.isDigit = false) (hsign : mark ≠ '-')
    (h : (toString m).toList ++ mark :: u = (toString n).toList ++ mark :: v) : m = n ∧ u = v := by
  have hmark (n : Int) : mark ∉ (toString n).toList := fun hmem =>
    (isDigit_or_of_mem_toString n mark hmem).elim (fun h => by rw [h] at hdigit; cases hdigit) hsign
  obtain ⟨htext, huv⟩ := cut_inj mark _ _ u v (hmark m) (hmark n) h
  exact ⟨eq_of_toString_eq m n (String.toList_inj.1 htext), huv⟩

namespace ValidationError

/-- The first letter of the detailed form of an error. -/
def initial : ValidationError → Char
  | code _ => 'C'
  | message _ => 'M'
  | structured _ _ => 'S'

/-- The detailed form of an error begins with its first letter. -/
theorem head?_inspect (e : ValidationError) : e.inspect.toList.head? = some e.initial := by
  cases e with
  | code n => exact head?_toList_append _ _ _ (head?_toList_append _ _ _ rfl)
  | message text => exact head?_toList_append _ _ _ (head?_toList_append _ _ _ rfl)
  | structured n details =>
    iterate 4 refine head?_toList_append _ _ _ ?_
    rfl

/-- Errors with the same detailed form are the same. -/
theorem inspect_inj (e e' : ValidationError) (h : e.inspect = e'.inspect) : e = e' := by
  have hinitial : e.initial = e'.initial := by
    rw [← Option.some_inj, ← head?_inspect, ← head?_inspect, h]
  cases e with
  | code n =>
    cases e' with
    | code n' =>
      have htext : "Code(" ++ toString n.toInt ++ ")" = "Code(" ++ toString n'.toInt ++ ")" := h
      rw [String.append_left_inj, String.append_right_inj] at htext
      rw [Int64.toInt_inj.1 (eq_of_toString_eq _ _ htext)]
    | _ => simp [initial] at hinitial
  | message text =>
    cases e' with
    | message text' =>
      have htext : "Message(" ++ Quoted.quote text ++ ")" =
        "Message(" ++ Quoted.quote text' ++ ")" := h
      rw [String.append_left_inj, String.append_right_inj] at htext
      rw [(Quoted.quote_inj text text' [] [] (by rw [htext])).1]
    | _ => simp [initial] at hinitial
  | structured n details =>
    cases e' with
    | structured n' details' =>
      have hletters := congrArg String.toList h
      unfold inspect at hletters
      simp only [String.toList_append, List.append_assoc] at hletters
      have hcomma : ", details: \x7b".toList = ',' :: " details: \x7b".toList := by decide
      rw [hcomma, List.cons_append, List.cons_append] at hletters
      obtain ⟨hn, hrest⟩ := toString_append_inj n.toInt n'.toInt ',' _ _ rfl (by decide)
        (List.append_cancel_left hletters)
      obtain ⟨rfl, -⟩ := Value.inspectEntries_append_inj details details' (" \x7d".toList)
        (" \x7d".toList) (fun entry _ => entry.2.inspect_append_inj) (List.append_cancel_left hrest)
      rw [Int64.toInt_inj.1 hn]
    | _ => simp [initial] at hinitial

end ValidationError

end DataShape
