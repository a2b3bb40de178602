import DataShape.Proofs.Listing.Meaning
import DataShape.Proofs.Listing.SingleLine

/-!
# Expressions can be read off their texts

Property names are arbitrary texts, so it is not plain that an expression means what its text seems
to say: a name could hold a bracket, a quote or what looks like a further key. `Access.text_inj`
says that two expressions with the same text are the same.

An expression is written as a row of pieces, one for each key, position or element, and a quoted
name as a row of escaped characters. Both are codes in which no piece begins another
(`flatMap_inj`), so a row can be taken apart from its beginning.
-/

namespace DataShape

/-- Rows of pieces of which none begins another can be taken apart, if what follows the rows begins
with no piece. -/
theorem flatMap_inj {α β : Type} (code : α → List β)
    (hcode : ∀ a b u v, code a ++ u = code b ++ v → a = b ∧ u = v) (u v : List β)
    (hu : ∀ a w, u ≠ code a ++ w) (hv : ∀ a w, v ≠ code a ++ w) (as bs : List α)
    (h : as.flatMap code ++ u = bs.flatMap code ++ v) : as = bs ∧ u = v := by
  induction as generalizing bs with
  | nil =>
    cases bs with
    | nil => exact ⟨rfl, h⟩
    | cons b bs =>
      rw [List.flatMap_cons, List.append_assoc] at h
      exact absurd h (hu b _)
  | cons a as ih =>
    cases bs with
    | nil =>
      rw [List.flatMap_cons, List.append_assoc] at h
      exact absurd h.symm (hv a _)
    | cons b bs =>
      rw [List.flatMap_cons, List.flatMap_cons, List.append_assoc, List.append_assoc] at h
      obtain ⟨rfl, hrest⟩ := hcode a b _ _ h
      obtain ⟨rfl, huv⟩ := ih bs hrest
      exact ⟨rfl, huv⟩

/-- Rows of letters without a mark can be told apart before the first mark. -/
theorem cut_inj (mark : Char) (cs ds u v : List Char) (hc : mark ∉ cs) (hd : mark ∉ ds)
    (h : cs ++ mark :: u = ds ++ mark :: v) : cs = ds ∧ u = v := by
  have hcut : ∀ cs u : List Char, mark ∉ cs →
      (cs ++ mark :: u).takeWhile (· != mark) = cs ∧
        (cs ++ mark :: u).dropWhile (· != mark) = mark :: u := by
    intro cs u hcs
    have hall : ∀ c ∈ cs, (c != mark) = true := fun c hc => bne_iff_ne.2 fun heq => hcs (heq ▸ hc)
    rw [List.takeWhile_append_of_pos hall, List.dropWhile_append_of_pos hall]
    simp
  have htake := congrArg (List.takeWhile (· != mark)) h
  have hdrop := congrArg (List.dropWhile (· != mark)) h
  rw [(hcut cs u hc).1, (hcut ds v hd).1] at htake
  rw [(hcut cs u hc).2, (hcut ds v hd).2] at hdrop
  exact ⟨htake, (List.cons.inj hdrop).2⟩

/-- A text begins as its first part does. -/
theorem head?_toList_append (front back : String) (c : Char) (h : front.toList.head? = some c) :
    (front ++ back).toList.head? = some c := by
  rw [String.toList_append, List.head?_append, h]
  rfl

/-- A text ends as its last part does. -/
theorem getLast?_toList_append (front back : String) (c : Char)
    (h : back.toList.getLast? = some c) : (front ++ back).toList.getLast? = some c := by
  rw [String.toList_append, List.getLast?_append, h]
  rfl

/-! ## Quoted names -/

namespace Quoted

/-- The value of a hexadecimal digit. -/
def hexDigit (c : Char) : Nat := if c.isDigit then c.toNat - 48 else c.toNat - 87

/-- The number that hexadecimal digits spell. -/
def hexValue (digits : List Char) : Nat := digits.foldl (fun n c => 16 * n + hexDigit c) 0

/-- Hexadecimal digits give the number back. -/
theorem hexValue_toDigits (n : Nat) : hexValue (Nat.toDigits 16 n) = n := by
  have hdigit : ∀ d < 16, hexDigit (Nat.digitChar d) = d := by decide
  induction n using Nat.strongRecOn with
  | ind n ih =>
    rw [Nat.toDigits_eq_if (by decide)]
    split_ifs with hn
    · show 16 * 0 + hexDigit n.digitChar = n
      rw [hdigit n hn]
      omega
    · have hstep : hexValue (Nat.toDigits 16 (n / 16) ++ [(n % 16).digitChar]) =
          16 * hexValue (Nat.toDigits 16 (n / 16)) + hexDigit (n % 16).digitChar := by
        unfold hexValue
        rw [List.foldl_append]
        rfl
      rw [hstep, ih (n / 16) (by omega), hdigit _ (Nat.mod_lt n (by decide))]
      omega

/-- Reads one escaped character. -/
def readEscape? : List Char → Option (Char × List Char)
  | '\\' :: '0' :: rest => some ('\x00', rest)
  | '\\' :: 't' :: rest => some ('\t', rest)
  | '\\' :: 'r' :: rest => some ('\r', rest)
  | '\\' :: 'n' :: rest => some ('\n', rest)
  | '\\' :: 'u' :: '\x7b' :: rest =>
    some (Char.ofNat (hexValue (rest.takeWhile (· != '\x7d'))),
      (rest.dropWhile (· != '\x7d')).tail)
  | '\\' :: c :: rest => some (c, rest)
  | c :: rest => some (c, rest)
  | [] => none

/-- There is no closing brace among hexadecimal digits. -/
theorem brace_not_mem_toDigits (n : Nat) : '\x7d' ∉ Nat.toDigits 16 n := by
  intro h
  obtain ⟨d, hd, hc⟩ := exists_digitChar_of_mem_toDigits 16 n _ (by decide) h
  have hnone : ∀ d < 16, '\x7d' ≠ Nat.digitChar d := by decide
  exact hnone d hd hc

/-- A character that is written as it stands is read as it stands. -/
theorem readEscape?_cons (c : Char) (rest : List Char) (h : c ≠ '\\') :
    readEscape? (c :: rest) = some (c, rest) := by
  unfold readEscape?
  split <;> simp_all

/-- An escaped character is read back, whatever follows it. -/
theorem readEscape?_escape (c : Char) (rest : List Char) :
    readEscape? (escape c ++ rest) = some (c, rest) := by
  unfold escape
  split_ifs with h0 ht hr hn hmark hcode
  · rw [h0]
    rfl
  · rw [ht]
    rfl
  · rw [hr]
    rfl
  · rw [hn]
    rfl
  · rw [Bool.or_eq_true, decide_eq_true_iff, decide_eq_true_iff] at hmark
    rcases hmark with rfl | rfl <;> rfl
  · -- The code point ends at the first closing brace.
    have hdigits : ∀ d ∈ Nat.toDigits 16 c.toNat, (d != '\x7d') = true := fun d hd =>
      bne_iff_ne.2 fun heq => brace_not_mem_toDigits _ (heq ▸ hd)
    rw [List.append_assoc, List.append_assoc]
    show some (Char.ofNat (hexValue (List.takeWhile _ (_ ++ '\x7d' :: rest))),
      (List.dropWhile _ (_ ++ '\x7d' :: rest)).tail) = _
    rw [List.takeWhile_append_of_pos hdigits, List.dropWhile_append_of_pos hdigits]
    show some (Char.ofNat (hexValue (_ ++ [])), rest) = _
    rw [List.append_nil, hexValue_toDigits, Char.ofNat_toNat]
  · have hne : c ≠ '\\' := fun heq => hmark (by rw [heq]; decide)
    exact readEscape?_cons c rest hne

/-- Escaped characters can be told apart. -/
theorem escape_inj (c d : Char) (u v : List Char) (h : escape c ++ u = escape d ++ v) :
    c = d ∧ u = v := by
  have hread := congrArg readEscape? h
  rw [readEscape?_escape, readEscape?_escape] at hread
  exact Prod.mk.inj (Option.some.inj hread)

/-- No escaped character begins with a double quote. -/
theorem quote_ne_escape (c : Char) (u v : List Char) : '"' :: u ≠ escape c ++ v := by
  intro h
  unfold escape at h
  split_ifs at h with h0 ht hr hn hmark hcode
  · cases h
  · cases h
  · cases h
  · cases h
  · cases h
  · cases h
  · exact hmark (by rw [← (List.cons.inj h).1]; decide)

/-- A quoted text begins with a double quote. -/
theorem head?_quote (s : String) (u : List Char) : ((quote s).toList ++ u).head? = some '"' := by
  unfold quote
  rw [String.toList_ofList]
  rfl

/-- A quoted text can be read off from its beginning. -/
theorem quote_inj (s t : String) (u v : List Char)
    (h : (quote s).toList ++ u = (quote t).toList ++ v) : s = t ∧ u = v := by
  unfold quote at h
  rw [String.toList_ofList, String.toList_ofList, List.cons_append, List.cons_append,
    List.append_assoc, List.append_assoc] at h
  obtain ⟨hst, huv⟩ := flatMap_inj escape escape_inj _ _ (fun c w => quote_ne_escape c _ w)
    (fun c w => quote_ne_escape c _ w) _ _ (List.cons.inj h).2
  exact ⟨String.toList_inj.1 hst, (List.cons.inj huv).2⟩

end Quoted

/-! ## Expressions -/

/-- Numbers with the same digits are the same. -/
theorem eq_of_repr_eq (m n : Nat) (h : m.repr = n.repr) : m = n := by
  rw [Nat.repr_eq_ofList_toDigits, Nat.repr_eq_ofList_toDigits, String.ofList_inj] at h
  rw [← @Nat.ofDigitChars_ten_toDigits m, h, Nat.ofDigitChars_ten_toDigits]

/-- The text of a natural number is made of digits. -/
theorem isDigit_of_mem_repr (n : Nat) (c : Char) (h : c ∈ n.repr.toList) : c.isDigit = true := by
  rw [Nat.repr_eq_ofList_toDigits, String.toList_ofList] at h
  exact Nat.isDigit_of_mem_toDigits (by decide) (by decide) h

/-- The variable of a loop is made of letters and digits. -/
theorem mem_loopVariable (n : Nat) (c : Char) (h : c ∈ (loopVariable n).toList) :
    c.isDigit = true ∨ c ∈ ['i', 'j', 'k'] := by
  match n with
  | 0 => exact .inr (List.mem_singleton.1 h ▸ (by decide : 'i' ∈ ['i', 'j', 'k']))
  | 1 => exact .inr (List.mem_singleton.1 h ▸ (by decide : 'j' ∈ ['i', 'j', 'k']))
  | 2 => exact .inr (List.mem_singleton.1 h ▸ (by decide : 'k' ∈ ['i', 'j', 'k']))
  | k + 3 =>
    have hmem : c ∈ ("i" ++ (k + 3).repr).toList := h
    rw [String.toList_append] at hmem
    rcases List.mem_append.1 hmem with hmem | hmem
    · exact .inr (List.mem_cons.2 (.inl (List.mem_singleton.1 hmem)))
    · exact .inl (isDigit_of_mem_repr (k + 3) c hmem)

/-- An index of an expression. -/
inductive Index
  | key (name : String)
  | position (i : Nat)
  | element (loop : Nat)

namespace Index

/-- The text of an index between its brackets. -/
def inside : Index → String
  | key name => Quoted.quote name
  | position i => i.repr
  | element loop => loopVariable loop

/-- The letters of an index with its brackets. -/
def letters (index : Index) : List Char := '[' :: (index.inside.toList ++ [']'])

/-- The kinds of indices: keys, positions, elements. -/
def sort : Index → Nat
  | key _ => 0
  | position _ => 1
  | element _ => 2

/-- The kind of index that begins with a character. -/
def sortOf (c : Char) : Nat := if c = '"' then 0 else if c.isDigit then 1 else 2

/-- The first character of an index says of which kind it is. -/
theorem exists_sortOf (index : Index) :
    ∃ c rest, index.inside.toList = c :: rest ∧ sortOf c = index.sort := by
  cases index with
  | key name => exact ⟨'"', _, String.toList_ofList, rfl⟩
  | position i =>
    have hdigits : i.repr.toList = Nat.toDigits 10 i := by
      rw [Nat.repr_eq_ofList_toDigits, String.toList_ofList]
    cases h : Nat.toDigits 10 i with
    | nil => exact absurd h Nat.toDigits_ne_nil
    | cons c rest =>
      have hmem : c ∈ Nat.toDigits 10 i := h ▸ List.mem_cons_self
      have hdigit := Nat.isDigit_of_mem_toDigits (by decide) (by decide) hmem
      refine ⟨c, rest, hdigits.trans h, ?_⟩
      unfold sortOf
      rw [if_neg fun hc => absurd (hc ▸ hdigit) (by decide), if_pos hdigit]
      rfl
  | element loop =>
    match loop with
    | 0 => exact ⟨'i', [], rfl, rfl⟩
    | 1 => exact ⟨'j', [], rfl, rfl⟩
    | 2 => exact ⟨'k', [], rfl, rfl⟩
    | n + 3 =>
      refine ⟨'i', (n + 3).repr.toList, ?_, rfl⟩
      show ("i" ++ (n + 3).repr).toList = _
      rw [String.toList_append]
      rfl

/-- The letters of an index that is no key have no bracket in them. -/
theorem bracket_not_mem_inside (index : Index) (h : ∀ name, index ≠ key name) :
    ']' ∉ index.inside.toList := by
  cases index with
  | key name => exact absurd rfl (h name)
  | position i => exact fun hmem => absurd (isDigit_of_mem_repr i _ hmem) (by decide)
  | element loop => exact fun hmem => absurd (mem_loopVariable loop _ hmem) (by decide)

/-- Indices can be told apart by what they begin with, and then by what they are. -/
theorem letters_inj (a b : Index) (u v : List Char) (h : a.letters ++ u = b.letters ++ v) :
    a = b ∧ u = v := by
  have hinside : a.inside.toList ++ ']' :: u = b.inside.toList ++ ']' :: v := by
    have htail : (a.inside.toList ++ [']']) ++ u = (b.inside.toList ++ [']']) ++ v :=
      (List.cons.inj h).2
    rwa [List.append_assoc, List.append_assoc] at htail
  have hsort : a.sort = b.sort := by
    obtain ⟨c, arest, ha, hac⟩ := a.exists_sortOf
    obtain ⟨d, brest, hb, hbd⟩ := b.exists_sortOf
    rw [ha, hb] at hinside
    rw [← hac, ← hbd, (List.cons.inj hinside).1]
  cases a with
  | key name =>
    cases b with
    | key other =>
      obtain ⟨rfl, hrest⟩ := Quoted.quote_inj name other _ _ hinside
      exact ⟨rfl, (List.cons.inj hrest).2⟩
    | position j => cases hsort
    | element loop => cases hsort
  | position i =>
    cases b with
    | position j =>
      obtain ⟨hrepr, huv⟩ := cut_inj ']' _ _ u v (bracket_not_mem_inside _ fun _ h => by cases h)
        (bracket_not_mem_inside _ fun _ h => by cases h) hinside
      exact ⟨congrArg position (eq_of_repr_eq i j (String.toList_inj.1 hrepr)), huv⟩
    | key name => cases hsort
    | element loop => cases hsort
  | element loop =>
    cases b with
    | element other =>
      obtain ⟨hvariable, huv⟩ :=
        cut_inj ']' _ _ u v (bracket_not_mem_inside _ fun _ h => by cases h)
        (bracket_not_mem_inside _ fun _ h => by cases h) hinside
      exact ⟨congrArg element (loopVariable_inj loop other (String.toList_inj.1 hvariable)), huv⟩
    | key name => cases hsort
    | position j => cases hsort

end Index

namespace Access

/-- The indices of an expression, the first one first. -/
def indices : Access → List Index
  | input => []
  | key of name => of.indices ++ [.key name]
  | position of i => of.indices ++ [.position i]
  | element of loop => of.indices ++ [.element loop]

/-- An expression is written index by index. -/
theorem toList_text (a : Access) :
    a.text.toList = "input".toList ++ a.indices.flatMap Index.letters := by
  have hindex : ∀ (of : Access) (index : Index),
      of.text.toList = "input".toList ++ of.indices.flatMap Index.letters →
      (of.text ++ "[" ++ index.inside ++ "]").toList =
        "input".toList ++ (of.indices ++ [index]).flatMap Index.letters := by
    intro of index ih
    rw [String.toList_append, String.toList_append, String.toList_append, ih, List.flatMap_append,
      List.flatMap_singleton, List.append_assoc, List.append_assoc, List.append_assoc]
    rfl
  induction a with
  | input => rfl
  | key of name ih => exact hindex of (.key name) ih
  | position of i ih => exact hindex of (.position i) ih
  | element of loop ih => exact hindex of (.element loop) ih

/-- The expression with the given indices. -/
def ofIndices (indices : List Index) : Access :=
  indices.foldl
    (fun of index =>
      match index with
      | .key name => .key of name
      | .position i => .position of i
      | .element loop => .element of loop)
    .input

/-- An expression is given by its indices. -/
theorem ofIndices_indices (a : Access) : ofIndices a.indices = a := by
  have hconcat : ∀ indices index, ofIndices (indices ++ [index]) =
      match index with
      | .key name => .key (ofIndices indices) name
      | .position i => .position (ofIndices indices) i
      | .element loop => .element (ofIndices indices) loop := by
    intro indices index
    unfold ofIndices
    rw [List.foldl_append]
    rfl
  induction a with
  | input => rfl
  | key of name ih => exact (hconcat of.indices _).trans (congrArg (key · name) ih)
  | position of i ih => exact (hconcat of.indices _).trans (congrArg (position · i) ih)
  | element of loop ih => exact (hconcat of.indices _).trans (congrArg (element · loop) ih)

/-- An expression can be read off from its beginning, if no further index follows it. -/
theorem text_append_inj (a b : Access) (u v : List Char) (hu : u.head? ≠ some '[')
    (hv : v.head? ≠ some '[') (h : a.text.toList ++ u = b.text.toList ++ v) : a = b ∧ u = v := by
  have hindex : ∀ u : List Char, u.head? ≠ some '[' → ∀ index w, u ≠ Index.letters index ++ w :=
    fun u hu index w heq => hu (heq ▸ rfl)
  rw [toList_text, toList_text, List.append_assoc, List.append_assoc] at h
  obtain ⟨hindices, huv⟩ := flatMap_inj Index.letters Index.letters_inj u v (hindex u hu)
    (hindex v hv) _ _ (List.append_cancel_left h)
  exact ⟨by rw [← ofIndices_indices a, hindices, ofIndices_indices], huv⟩

/-- Expressions with the same text are the same. -/
theorem text_inj (a b : Access) (h : a.text = b.text) : a = b := by
  refine (text_append_inj a b [] [] (by decide) (by decide) ?_).1
  rw [h]

end Access

end DataShape
