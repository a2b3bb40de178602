import DataShape.Proofs.Closure.HeaderBytes
import DataShape.Proofs.Closure.Rewriting

/-!
# The inliner stays within its text

The scan of a closure text asks for characters and pieces by position and breaks off with a fault
where there are none (`DataShape.Scan`). `Scan.inlining_stays_within` says that it never does: for
every text and all replacements the scan comes to an end with what `ClosureText.inlineText` gives.
Every literal ends behind the position it begins at and not past the end of the text, and so does
every step.

A position is described by the text that is left there (`RestAt`). Each part of the scan is then the
part of the tokenizer that cuts the same text, and the new position is the old one and the length of
what is cut off. Since nothing is cut off but what is there, the new position is within the text.
-/

namespace DataShape.Scan

open ClosureText Token

/-! ## Positions -/

/-- At a position of a row of characters the given text is left. -/
structure RestAt (chars : List Char) (i : Nat) (rest : List Char) : Prop where
  le_length : i ≤ chars.length
  drop_eq : chars.drop i = rest

/-- Every position up to the end of the row has a text that is left. -/
theorem restAt_drop (chars : List Char) (i : Nat) (h : i ≤ chars.length) :
    RestAt chars i (chars.drop i) := ⟨h, rfl⟩

namespace RestAt

variable {chars : List Char} {i : Nat}

/-- What is left fills the row up. -/
theorem add_length {rest : List Char} (h : RestAt chars i rest) :
    i + rest.length = chars.length := by
  have hle := h.le_length
  have hlength := congrArg List.length h.drop_eq
  rw [List.length_drop] at hlength
  omega

/-- The characters from a position on are those that are left there. -/
theorem getElem?_add {rest : List Char} (h : RestAt chars i rest) (k : Nat) :
    chars[i + k]? = rest[k]? := by
  rw [← h.drop_eq, List.getElem?_drop]

/-- The character at a position is the first one that is left. -/
theorem getElem?_eq {rest : List Char} (h : RestAt chars i rest) : chars[i]? = rest.head? := by
  have hzero := h.getElem?_add 0
  rw [Nat.add_zero] at hzero
  rw [hzero, List.head?_eq_getElem?]

/-- Behind a part of what is left the other part is left. -/
theorem append {front back : List Char} (h : RestAt chars i (front ++ back)) :
    RestAt chars (i + front.length) back := by
  have hlength := h.add_length
  rw [List.length_append] at hlength
  refine ⟨by omega, ?_⟩
  rw [← List.drop_drop, h.drop_eq, List.drop_left]

variable {c : Char} {cs : List Char}

/-- Behind the first character the others are left. -/
theorem tail (h : RestAt chars i (c :: cs)) : RestAt chars (i + 1) cs := by
  have hfront : RestAt chars i ([c] ++ cs) := h
  exact hfront.append

/-- Where a character is left the row does not end. -/
theorem lt_length (h : RestAt chars i (c :: cs)) : i < chars.length := by
  have hlength := h.add_length
  rw [List.length_cons] at hlength
  omega

/-- The first character that is left can be asked for. -/
theorem itemAt_eq (h : RestAt chars i (c :: cs)) : itemAt chars i = .ok c := by
  unfold itemAt
  rw [h.getElem?_eq]
  rfl

/-- A part of what is left can be asked for. -/
theorem piece_eq {front back : List Char} (h : RestAt chars i (front ++ back)) :
    piece chars i (i + front.length) = .ok front := by
  have hbounds : i ≤ i + front.length ∧ i + front.length ≤ chars.length :=
    ⟨Nat.le_add_right i _, h.append.le_length⟩
  unfold piece
  rw [if_pos hbounds, List.drop_take, h.drop_eq, Nat.add_sub_cancel_left, List.take_left]

/-- All that is left can be asked for. -/
theorem piece_end_eq {rest : List Char} (h : RestAt chars i rest) :
    piece chars i chars.length = .ok rest := by
  have hall : RestAt chars i (rest ++ []) := by rwa [List.append_nil]
  rw [← h.add_length]
  exact hall.piece_eq

/-- Where nothing is left the row ends. -/
theorem eq_length (h : RestAt chars i []) : i = chars.length := h.add_length

/-- What stands before a position can be asked for. -/
theorem piece_start_eq {rest : List Char} (h : RestAt chars i rest) :
    piece chars 0 i = .ok (chars.take i) := by
  unfold piece
  rw [if_pos ⟨Nat.zero_le i, h.le_length⟩, List.drop_zero]

end RestAt

/-- A position with a character has a text that is left and begins with it. -/
theorem restAt_of_getElem? (chars : List Char) (i : Nat) (c : Char) (h : chars[i]? = some c) :
    ∃ cs, RestAt chars i (c :: cs) := by
  obtain ⟨hlt, rfl⟩ := List.getElem?_eq_some_iff.1 h
  exact ⟨chars.drop (i + 1), Nat.le_of_lt hlt, (List.getElem_cons_drop hlt).symm⟩

/-- The second position is behind the first and not past the end of the row. -/
def Ahead (chars : List Char) (i j : Nat) : Prop := i < j ∧ j ≤ chars.length

/-- The position behind a part that is cut off what is left is ahead, if the part is not empty. -/
theorem RestAt.ahead {chars front back : List Char} {i : Nat} (h : RestAt chars i (front ++ back))
    (hne : front ≠ []) : Ahead chars i (i + front.length) := by
  have hpos := List.length_pos_iff.2 hne
  exact ⟨by omega, h.append.le_length⟩

/-! ## Strings -/

/-- What is copied in two parts moves the position by the length of both. -/
theorem ok_copied (i : Nat) (out front back : List Char) :
    (Except.ok (i + front.length + back.length, out ++ front ++ back) :
        Except Fault (Nat × List Char)) =
      .ok (i + (front ++ back).length, out ++ (front ++ back)) := by
  rw [List.length_append, Nat.add_assoc, List.append_assoc]

/-- A string is copied up to where it is cut. -/
theorem copyStringFrom_eq {chars : List Char} (rest : List Char) : ∀ {i : Nat} (out : List Char),
    RestAt chars i rest → copyStringFrom chars i out =
      .ok (i + (cutString rest).1.length, out ++ (cutString rest).1) := by
  fun_induction cutString rest with
  | case1 =>
    intro i out h
    have hend := h.eq_length
    rw [copyStringFrom, if_neg (by omega), List.append_nil]
    rfl
  | case2 c cs ih =>
    -- The backslash takes the character behind it along.
    intro i out h
    have hnext := h.tail.lt_length
    rw [copyStringFrom, if_pos h.lt_length, h.itemAt_eq, ok_bind, if_pos ⟨rfl, hnext⟩,
      h.tail.itemAt_eq, ok_bind, ih _ h.tail.tail]
    exact ok_copied i out ['\\', c] (cutString cs).1
  | case3 cs hbackslash =>
    intro i out h
    rw [copyStringFrom, if_pos h.lt_length, h.itemAt_eq, ok_bind, if_neg (by simp)]
    rfl
  | case4 c cs hbackslash hquote ih =>
    intro i out h
    -- A backslash at the end of the text has nothing behind it.
    have hlone : ¬ (c = '\\' ∧ i + 1 < chars.length) := by
      rintro ⟨rfl, hlt⟩
      cases cs with
      | nil => exact absurd h.tail.eq_length (by omega)
      | cons d cs => exact hbackslash d cs rfl rfl
    rw [copyStringFrom, if_pos h.lt_length, h.itemAt_eq, ok_bind, if_neg hlone, if_neg hquote,
      ih _ h.tail]
    exact ok_copied i out [c] (cutString cs).1

variable {chars : List Char} {i : Nat}

/-- A string is copied from its first quote on. -/
theorem copyString_eq {cs : List Char} (out : List Char) (h : RestAt chars i ('"' :: cs)) :
    copyString chars i out =
      .ok (i + ('"' :: (cutString cs).1).length, out ++ '"' :: (cutString cs).1) := by
  unfold copyString
  rw [copyStringFrom_eq cs _ h.tail]
  exact ok_copied i out ['"'] (cutString cs).1

/-! ## Character literals -/

/-- The first tick stands behind all characters that are none. -/
theorem findIdx?_tick (cs : List Char) :
    cs.findIdx? (· == '\'') =
      match cs.dropWhile (· != '\'') with
      | '\'' :: _ => some (cs.takeWhile (· != '\'')).length
      | _ => none := by
  induction cs with
  | nil => rfl
  | cons c cs ih =>
    by_cases hc : c = '\''
    · subst hc
      rfl
    · have heq : (c == '\'') = false := beq_eq_false_iff_ne.2 hc
      have hne : (c != '\'') = true := bne_iff_ne.2 hc
      rw [List.findIdx?_cons, ih, List.dropWhile_cons, List.takeWhile_cons, heq, hne]
      simp only [Bool.false_eq_true, if_false, if_true, List.length_cons]
      split <;> rfl

/-- The tick that ends a character literal is the last character that is cut off. If nothing is cut
off no tick does. -/
theorem tickEnd?_eq {cs : List Char} (h : RestAt chars i ('\'' :: cs)) :
    tickEnd? chars i =
      .ok (if (cutTick cs).1 = [] then none else some (i + (cutTick cs).1.length)) := by
  unfold tickEnd?
  rw [h.getElem?_add 1, h.getElem?_add 2]
  fun_cases cutTick cs with
  | case1 cs rest hrest =>
    have htick : cs.findIdx? (· == '\'') = some (cs.takeWhile (· != '\'')).length := by
      rw [findIdx?_tick, hrest]
      rfl
    have hlength : i + 2 + (cs.takeWhile (· != '\'')).length =
        i + ('\\' :: (cs.takeWhile (· != '\'') ++ ['\''])).length := by
      rw [List.length_cons, List.length_append, List.length_singleton]
      omega
    rw [if_neg (List.cons_ne_nil _ _), ← hlength]
    show (do let tail ← piece chars (i + 2) chars.length; _) = _
    rw [h.tail.tail.piece_end_eq, ok_bind, htick]
    rfl
  | case2 cs hnone =>
    have htick : cs.findIdx? (· == '\'') = none := by
      rw [findIdx?_tick]
      split
      · rename_i rest hrest
        exact absurd hrest (hnone rest)
      · rfl
    show (do let tail ← piece chars (i + 2) chars.length; _) = _
    rw [h.tail.tail.piece_end_eq, ok_bind, htick]
    rfl
  | case3 c cs hbackslash =>
    rw [if_neg (List.cons_ne_nil _ _)]
    split
    · rename_i hc
      exact absurd (Option.some.inj hc) hbackslash
    · rfl
    · rename_i hc
      cases hc
  | case4 cs hbackslash hshort =>
    rw [if_pos rfl]
    cases cs with
    | nil => rfl
    | cons c cs =>
      have hthird : ¬ ('\'' :: c :: cs)[2]? = some '\'' := by
        intro heq
        obtain ⟨rest, rfl⟩ : ∃ rest, cs = '\'' :: rest := by
          cases cs with
          | nil => cases heq
          | cons d rest => exact ⟨rest, by rw [Option.some.inj heq]⟩
        exact hshort c rest rfl
      split
      · rename_i hc
        obtain rfl := Option.some.inj hc
        exact absurd rfl (hbackslash cs)
      · rw [if_neg hthird]
      · rfl

/-- A character literal is copied up to where it is cut, and a lone tick as it is. -/
theorem copyTick_eq {cs : List Char} (out : List Char) (h : RestAt chars i ('\'' :: cs)) :
    copyTick chars i out =
      .ok (i + ('\'' :: (cutTick cs).1).length, out ++ '\'' :: (cutTick cs).1) := by
  unfold copyTick
  rw [tickEnd?_eq h, ok_bind]
  by_cases hnone : (cutTick cs).1 = []
  · rw [if_pos hnone, hnone]
    rfl
  · have hwhole : RestAt chars i ('\'' :: (cutTick cs).1 ++ (cutTick cs).2) := by
      rw [List.cons_append, append_cutTick]
      exact h
    rw [if_neg hnone]
    show (do let text ← piece chars i (i + ('\'' :: (cutTick cs).1).length); _) = _
    rw [hwhole.piece_eq]
    rfl

/-! ## Raw strings -/

/-- The signs from a position on are those that the text left there begins with. -/
theorem signsFrom_eq {rest : List Char} (h : RestAt chars i rest) :
    signsFrom chars i = .ok (rest.takeWhile (· == '#')).length := by
  unfold signsFrom
  rw [h.piece_end_eq]
  rfl

/-- A raw string ends where it is cut. -/
theorem rawEnd_eq {chars : List Char} (signs : Nat) (rest : List Char) : ∀ {i : Nat},
    RestAt chars i rest → rawEnd chars signs i = .ok (i + (cutRaw signs rest).1.length) := by
  fun_induction cutRaw signs rest with
  | case1 =>
    intro i h
    have hend := h.eq_length
    rw [rawEnd, if_neg (by omega), ← hend]
    rfl
  | case2 c cs hends =>
    intro i h
    obtain ⟨rfl, hsigns⟩ := hends
    have hshort : (cs.takeWhile (· == '#')).length ≤ cs.length :=
      (List.takeWhile_prefix _).length_le
    rw [rawEnd, if_pos h.lt_length, h.itemAt_eq, ok_bind, if_pos rfl, signsFrom_eq h.tail, ok_bind,
      if_pos hsigns, List.length_cons, List.length_take,
      Nat.min_eq_left (Nat.le_trans hsigns hshort)]
    exact congrArg Except.ok (by omega)
  | case3 c cs hgoes ih =>
    intro i h
    have hrest : rawEnd chars signs (i + 1) =
        .ok (i + (c :: (cutRaw signs cs).1).length) := by
      rw [ih h.tail, List.length_cons]
      exact congrArg Except.ok (by omega)
    rw [rawEnd, if_pos h.lt_length, h.itemAt_eq, ok_bind]
    split
    · rename_i hquote
      have hfew : ¬ signs ≤ (cs.takeWhile (· == '#')).length := fun hle => hgoes ⟨hquote, hle⟩
      rw [signsFrom_eq h.tail, ok_bind, if_neg hfew]
      exact hrest
    · exact hrest

/-- A raw string behind its letters ends where it is cut, and there is one if something is cut. -/
theorem rawLiteral?_eq {rest : List Char} (h : RestAt chars i rest) :
    rawLiteral? chars i = .ok ((cutRawAfter? rest).map fun cut => i + cut.1.length) := by
  have hparts : RestAt chars i (rest.takeWhile (· == '#') ++ rest.dropWhile (· == '#')) := by
    rw [List.takeWhile_append_dropWhile]
    exact h
  have hquote := hparts.append.getElem?_eq
  unfold rawLiteral? cutRawAfter?
  rw [signsFrom_eq h, ok_bind, hquote]
  dsimp only
  split
  · rename_i hhead
    obtain ⟨body, hbody⟩ := List.head?_eq_some_iff.1 hhead
    have hbehind := hparts.append
    rw [hbody] at hbehind ⊢
    rw [rawEnd_eq _ body hbehind.tail, ok_bind]
    simp only [Option.map_some, Prod.map_fst, List.length_append, List.length_cons]
    exact congrArg (fun stop => Except.ok (some stop)) (by omega)
  · rename_i hhead
    split
    · rename_i body hbody
      rw [hbody] at hhead
      exact absurd rfl hhead
    · rfl

/-! ## Literals behind words -/

/-- A literal that begins with a word ends where it is cut, and there is one if something is cut. -/
theorem literalAfter?_eq (word : List Char) {rest : List Char} (h : RestAt chars i rest) :
    literalAfter? chars word i =
      .ok ((cutAfterWord? word rest).map fun cut => i + cut.1.length) := by
  unfold literalAfter?
  rw [h.getElem?_eq]
  split
  · exact rawLiteral?_eq h
  · exact rawLiteral?_eq h
  · exact rawLiteral?_eq h
  · split
    · rename_i hhead
      obtain ⟨cs, rfl⟩ := List.head?_eq_some_iff.1 hhead
      rw [copyString_eq [] h]
      rfl
    · rename_i hhead
      obtain ⟨cs, rfl⟩ := List.head?_eq_some_iff.1 hhead
      rw [copyTick_eq [] h]
      rfl
    · -- Neither a string nor a character follows, so all cases with a literal are ruled out.
      rename_i hquote htick
      unfold cutAfterWord?
      split <;> simp_all
  · split
    · rename_i hhead
      obtain ⟨cs, rfl⟩ := List.head?_eq_some_iff.1 hhead
      rw [copyString_eq [] h]
      rfl
    · rename_i hquote
      unfold cutAfterWord?
      split <;> simp_all
  · unfold cutAfterWord?
    split <;> simp_all

/-- A literal that begins with a word does not end with the word. -/
theorem ne_nil_of_cutAfterWord? {word cs : List Char} {cut : List Char × List Char}
    (h : cutAfterWord? word cs = some cut) : cut.1 ≠ [] := by
  have hraw : ∀ cs, cutRawAfter? cs = some cut → cut.1 ≠ [] := by
    intro cs hcut
    unfold cutRawAfter? at hcut
    dsimp only at hcut
    split at hcut
    · obtain rfl := Option.some.inj hcut
      simp
    · cases hcut
  unfold cutAfterWord? at h
  split at h
  · exact hraw _ h
  · exact hraw _ h
  · exact hraw _ h
  · obtain rfl := Option.some.inj h
    exact List.cons_ne_nil _ _
  · obtain rfl := Option.some.inj h
    exact List.cons_ne_nil _ _
  · obtain rfl := Option.some.inj h
    exact List.cons_ne_nil _ _
  · cases h

/-! ## Words and bars -/

/-- A word ends behind its last word character. -/
theorem wordEnd_eq {chars : List Char} (rest : List Char) : ∀ {i : Nat}, RestAt chars i rest →
    wordEnd chars i = .ok (i + (rest.takeWhile isWordPart).length) := by
  induction rest with
  | nil =>
    intro i h
    have hend := h.eq_length
    rw [wordEnd, if_neg (by omega)]
    rfl
  | cons c rest ih =>
    intro i h
    rw [wordEnd, if_pos h.lt_length, h.itemAt_eq, ok_bind]
    cases hpart : isWordPart c with
    | false =>
      rw [List.takeWhile_cons_of_neg (by rw [hpart]; decide)]
      rfl
    | true =>
      rw [List.takeWhile_cons_of_pos hpart, if_pos rfl, ih h.tail, List.length_cons]
      exact congrArg Except.ok (by omega)

/-- The last character before a position can be asked for. -/
theorem itemAt_before (c : Char) (before rest : List Char) :
    itemAt ((c :: before).reverse ++ rest) before.length = .ok c := by
  unfold itemAt
  simp

/-- Going back over the blanks before a position leads behind the last other character. -/
theorem backOverBlanks_eq (before : List Char) : ∀ rest : List Char,
    backOverBlanks (before.reverse ++ rest) before.length =
      .ok (before.dropWhile isBlank).length := by
  induction before with
  | nil =>
    intro rest
    rfl
  | cons c before ih =>
    intro rest
    show (do let d ← itemAt ((c :: before).reverse ++ rest) before.length; _) = _
    rw [itemAt_before, ok_bind]
    cases hblank : isBlank c with
    | false =>
      rw [List.dropWhile_cons_of_neg (by rw [hblank]; decide)]
      rfl
    | true =>
      rw [List.dropWhile_cons_of_pos hblank, if_pos rfl, List.reverse_cons, List.append_assoc]
      exact ih ([c] ++ rest)

/-- The character before a position is the last one of the text before it. -/
theorem standsBefore_eq (c : Char) (before rest : List Char) :
    standsBefore (before.reverse ++ rest) c before.length = .ok (before.head? == some c) := by
  cases before with
  | nil => rfl
  | cons d before =>
    show (do let d ← itemAt ((d :: before).reverse ++ rest) before.length; _) = _
    rw [itemAt_before]
    rfl

/-- A word names a member after one point, but not after two. -/
theorem isMember_of_point {before kept : List Char}
    (h : before.dropWhile isBlank = '.' :: kept) :
    isMember before = !(kept.head? == some '.') := by
  unfold isMember
  rw [h]
  cases kept with
  | nil => rfl
  | cons c kept =>
    by_cases hc : c = '.'
    · subst hc
      rfl
    · have hne : (some c == some '.') = false := beq_eq_false_iff_ne.2 (by simpa using hc)
      rw [List.head?_cons, hne]
      simp [hc]

/-- A word names a member after two colons, but not after one. -/
theorem isMember_of_colon {before kept : List Char}
    (h : before.dropWhile isBlank = ':' :: kept) :
    isMember before = (kept.head? == some ':') := by
  unfold isMember
  rw [h]
  cases kept with
  | nil => rfl
  | cons c kept =>
    by_cases hc : c = ':'
    · subst hc
      rfl
    · have hne : (some c == some ':') = false := beq_eq_false_iff_ne.2 (by simpa using hc)
      rw [List.head?_cons, hne]
      simp [hc]

/-- After any other character a word names no member. -/
theorem isMember_of_other {before kept : List Char} {c : Char}
    (h : before.dropWhile isBlank = c :: kept) (hpoint : c ≠ '.') (hcolon : c ≠ ':') :
    isMember before = false := by
  unfold isMember
  rw [h]
  split
  · rename_i heq
    exact absurd (List.cons.inj heq).1 hpoint
  · rename_i heq
    exact absurd (List.cons.inj heq).1 hpoint
  · rename_i heq
    exact absurd (List.cons.inj heq).1 hcolon
  · rfl

/-- Whether a word names a member is decided by the text before it. -/
theorem isMemberAt_append (before rest : List Char) :
    isMemberAt (before.reverse ++ rest) before.length = .ok (isMember before) := by
  unfold isMemberAt
  rw [backOverBlanks_eq, ok_bind]
  -- Without the blanks, the text before the word is a front of the row.
  have hrow : before.reverse ++ rest = (before.dropWhile isBlank).reverse ++
      ((before.takeWhile isBlank).reverse ++ rest) := by
    rw [← List.append_assoc, ← List.reverse_append, List.takeWhile_append_dropWhile]
  rw [hrow]
  generalize (before.takeWhile isBlank).reverse ++ rest = behind
  cases hkept : before.dropWhile isBlank with
  | nil =>
    unfold isMember
    rw [hkept]
    rfl
  | cons c kept =>
    have hstands : ∀ d, standsBefore ((c :: kept).reverse ++ behind) d kept.length =
        .ok (kept.head? == some d) := by
      intro d
      rw [List.reverse_cons, List.append_assoc]
      exact standsBefore_eq d kept ([c] ++ behind)
    show (do let d ← itemAt ((c :: kept).reverse ++ behind) kept.length; _) = _
    rw [itemAt_before, ok_bind]
    split
    · rw [hstands, isMember_of_point hkept]
      rfl
    · rw [hstands, isMember_of_colon hkept]
    · rename_i hpoint hcolon
      rw [isMember_of_other hkept hpoint hcolon]
      rfl

namespace RestAt

variable {rest : List Char}

/-- The text before a position and the one that is left there are the row. -/
theorem take_append (h : RestAt chars i rest) :
    (chars.take i).reverse.reverse ++ rest = chars ∧ (chars.take i).reverse.length = i := by
  rw [List.reverse_reverse, ← h.drop_eq, List.length_reverse, List.length_take]
  exact ⟨List.take_append_drop i chars, Nat.min_eq_left h.le_length⟩

/-- Whether the word at a position names a member is decided by the text before it. -/
theorem isMemberAt_eq (h : RestAt chars i rest) :
    isMemberAt chars i = .ok (isMember (chars.take i).reverse) := by
  have hmember := isMemberAt_append (chars.take i).reverse rest
  rw [h.take_append.1, h.take_append.2] at hmember
  exact hmember

/-- Whether the bar at a position opens a closure is decided by the text before it. -/
theorem opensClosureAt_eq (h : RestAt chars i rest) :
    opensClosureAt chars i = .ok (opensClosure (chars.take i).reverse) := by
  unfold opensClosureAt
  rw [h.piece_start_eq]
  rfl

/-- The text before a position grows by what is cut off there. -/
theorem take_add {front back : List Char} (h : RestAt chars i (front ++ back)) :
    (chars.take (i + front.length)).reverse = front.reverse ++ (chars.take i).reverse := by
  rw [List.take_add, h.drop_eq, List.take_left, List.reverse_append]

end RestAt

/-! ## The scan -/

section

variable (params replacements : List (List Char))

/-- What is written for a token, given the text before it from its end, or nothing if a closure
opens with it. -/
def written? (before : List Char) : Token → Option (List Char)
  | .literal text => some text
  | .word w => some ((wordPiece params replacements.length before w).fill replacements)
  | .mark c => if c = '|' && opensClosure before then none else some [c]

/-- The first token is written, and then the others. -/
theorem filled?_cons (before : List Char) (token : Token) (tokens : List Token) :
    filled? params replacements before (token :: tokens) =
      (written? params replacements before token).bind fun text =>
        (filled? params replacements (token.text.reverse ++ before) tokens).map (text ++ ·) := by
  unfold filled? written?
  cases token with
  | literal text =>
    rw [pieces?, Option.bind_some, Option.map_map, Option.map_map]
    rfl
  | word w =>
    rw [pieces?, Option.bind_some, Option.map_map, Option.map_map]
    rfl
  | mark c =>
    rw [pieces?]
    by_cases hopens : (decide (c = '|') && opensClosure before) = true
    · simp only [hopens, if_true]
      rfl
    · simp only [hopens, Bool.false_eq_true, if_false, Option.bind_some, Option.map_map]
      rfl

variable {params replacements}

/-- A word is replaced where it is a slot of the template. -/
theorem wordText_eq (word : List Char) {rest : List Char} (h : RestAt chars i rest) :
    wordText params replacements chars i word = .ok
      ((wordPiece params replacements.length (chars.take i).reverse word).fill replacements) := by
  unfold wordText wordPiece
  cases params.idxOf? word with
  | none => rfl
  | some k =>
    dsimp only
    by_cases hlt : k < replacements.length
    · rw [if_pos hlt, h.isMemberAt_eq, ok_bind]
      cases isMember (chars.take i).reverse with
      | true => simp [Piece.fill]; rfl
      | false => simp [Piece.fill, itemAt, hlt]
    · rw [if_neg hlt]
      simp [Piece.fill, hlt]

/-- A word, or the literal that begins with it, is gone over up to the end of the token. -/
theorem wordStep_eq (out : List Char) {c : Char} {cs : List Char} (h : RestAt chars i (c :: cs))
    (hquote : c ≠ '"') (htick : c ≠ '\'') (hpart : isWordPart c = true) :
    ∃ text, written? params replacements (chars.take i).reverse (next c cs).1 = some text ∧
      wordStep params replacements chars i out =
        .ok (i + (next c cs).1.text.length, out ++ text) := by
  have hend := wordEnd_eq (c :: cs) h
  rw [List.takeWhile_cons_of_pos hpart] at hend
  have hword : RestAt chars i ((c :: cs.takeWhile isWordPart) ++ cs.dropWhile isWordPart) := by
    rw [List.cons_append, List.takeWhile_append_dropWhile]
    exact h
  have hliteral := literalAfter?_eq (c :: cs.takeWhile isWordPart) hword.append
  unfold wordStep next
  rw [if_neg hquote, if_neg htick, if_pos hpart, hend, ok_bind, hword.piece_eq, ok_bind, hliteral,
    ok_bind]
  dsimp only
  cases hcut : cutAfterWord? (c :: cs.takeWhile isWordPart) (cs.dropWhile isWordPart) with
  | some cut =>
    have hwhole : RestAt chars i ((c :: cs.takeWhile isWordPart ++ cut.1) ++ cut.2) := by
      rw [List.append_assoc, append_cutAfterWord? hcut]
      exact hword
    have hpiece := hwhole.piece_eq
    rw [List.length_append, ← Nat.add_assoc] at hpiece
    refine ⟨c :: cs.takeWhile isWordPart ++ cut.1, rfl, ?_⟩
    dsimp only [Option.map_some]
    rw [hpiece, ok_bind, Prod.map_fst, text, List.length_append, Nat.add_assoc]
    rfl
  | none =>
    refine ⟨_, rfl, ?_⟩
    dsimp only [Option.map_none]
    rw [wordText_eq _ h]
    rfl

/-- A step goes over one token and writes it, or finds that a closure opens with it. -/
theorem step_eq (out : List Char) {c : Char} {cs : List Char} (h : RestAt chars i (c :: cs)) :
    step params replacements chars i out =
      .ok ((written? params replacements (chars.take i).reverse (next c cs).1).map fun text =>
        (i + (next c cs).1.text.length, out ++ text)) := by
  unfold step
  rw [h.itemAt_eq, ok_bind]
  split
  · rename_i hquote
    subst hquote
    rw [copyString_eq out h]
    rfl
  split
  · rename_i htick
    subst htick
    rw [copyTick_eq out h]
    rfl
  rename_i hquote htick
  by_cases hbar : c = '|'
  · subst hbar
    rw [if_pos rfl, h.opensClosureAt_eq, ok_bind, next_mark _ cs hquote htick (by decide)]
    unfold written?
    cases opensClosure (chars.take i).reverse <;> rfl
  rw [if_neg hbar, ok_bind]
  dsimp only
  rw [if_neg Bool.false_ne_true]
  cases hpart : isWordPart c with
  | true =>
    obtain ⟨text, hwritten, hstep⟩ :=
      @wordStep_eq _ _ params replacements out _ _ h hquote htick hpart
    rw [if_pos rfl, hstep, hwritten]
    rfl
  | false =>
    have hplain : (decide (c = '|') && opensClosure (chars.take i).reverse) = false := by
      rw [decide_eq_false hbar, Bool.false_and]
    rw [if_neg Bool.false_ne_true, next_mark c cs hquote htick hpart]
    unfold written?
    dsimp only
    rw [hplain]
    rfl

/-- A scan from a position on fills the pieces of the text that is left there. -/
theorem scan_eq (rest : List Char) : ∀ {i : Nat} (out : List Char), RestAt chars i rest →
    scan params replacements chars i out =
      .ok ((filled? params replacements (chars.take i).reverse (ofText rest)).map fun text =>
        trimRight (out ++ text)) := by
  fun_induction ofText rest with
  | case1 =>
    intro i out h
    have hend := h.eq_length
    rw [scan, if_neg (by omega)]
    show _ = Except.ok (some (trimRight (out ++ [])))
    rw [List.append_nil]
  | case2 c cs ih =>
    intro i out h
    have hnext : RestAt chars i ((next c cs).1.text ++ (next c cs).2) := by
      rw [text_next]
      exact h
    have hahead := hnext.ahead (text_next_ne_nil c cs)
    rw [scan, if_pos h.lt_length, step_eq out h, filled?_cons]
    cases written? params replacements (chars.take i).reverse (next c cs).1 with
    | none => rfl
    | some text =>
      simp only [Option.map_some, Option.bind_some]
      rw [if_pos hahead.1, ih _ hnext.append, hnext.take_add, Option.map_map]
      simp only [Function.comp_def, List.append_assoc]

end

/-! ## The whole inliner -/

/-- Inlining by positions has no fault, and gives what inlining gives. -/
theorem inlineText_eq (source : String) (replacements : List String) :
    inlineText source replacements = .ok (ClosureText.inlineText source replacements) := by
  unfold inlineText ClosureText.inlineText
  dsimp only
  rw [split_eq, ok_bind]
  cases ofText? (trim source.toList) with
  | none => rfl
  | some closure =>
    dsimp only
    unfold template?
    by_cases hblock : closure.hasBlockBody = true
    · rw [if_pos hblock, if_pos hblock]
      rfl
    · have hbody : RestAt closure.body 0 closure.body := ⟨Nat.zero_le _, rfl⟩
      rw [if_neg hblock, if_neg hblock, scan_eq closure.body [] hbody, ok_bind]
      unfold filled?
      rw [List.length_map, List.take_zero, List.reverse_nil]
      cases pieces? closure.params replacements.length [] (ofText closure.body) <;> rfl

/-- The inliner never leaves its text and always comes to an end. For every text and all
replacements the scan by positions has no fault and gives what inlining gives. Wherever a string or
a character literal begins in a row of characters, and wherever a word ends that may begin a
literal, the end that is found is further on and within the row, and so is the position that any
step of the scan leads to. -/
theorem inlining_stays_within (source : String) (replacements : List String)
    (chars : List Char) :
    inlineText source replacements = .ok (ClosureText.inlineText source replacements) ∧
    (∀ start out, chars[start]? = some '"' → ∃ stop text,
      copyString chars start out = .ok (stop, text) ∧ Ahead chars start stop) ∧
    (∀ start out, chars[start]? = some '\'' → ∃ stop text,
      copyTick chars start out = .ok (stop, text) ∧ Ahead chars start stop) ∧
    (∀ word i, i ≤ chars.length → ∃ stop?,
      literalAfter? chars word i = .ok stop? ∧ ∀ stop, stop? = some stop → Ahead chars i stop) ∧
    ∀ params values i out, i < chars.length → ∃ next?,
      step params values chars i out = .ok next? ∧
        ∀ j text, next? = some (j, text) → Ahead chars i j := by
  refine ⟨inlineText_eq source replacements, ?_, ?_, ?_, ?_⟩
  · intro start out hquote
    obtain ⟨cs, h⟩ := restAt_of_getElem? chars start '"' hquote
    have hcut : RestAt chars start ('"' :: (cutString cs).1 ++ (cutString cs).2) := by
      rw [List.cons_append, append_cutString]
      exact h
    exact ⟨_, _, copyString_eq out h, hcut.ahead (List.cons_ne_nil _ _)⟩
  · intro start out htick
    obtain ⟨cs, h⟩ := restAt_of_getElem? chars start '\'' htick
    have hcut : RestAt chars start ('\'' :: (cutTick cs).1 ++ (cutTick cs).2) := by
      rw [List.cons_append, append_cutTick]
      exact h
    exact ⟨_, _, copyTick_eq out h, hcut.ahead (List.cons_ne_nil _ _)⟩
  · intro word i hi
    have h := restAt_drop chars i hi
    refine ⟨_, literalAfter?_eq word h, fun stop hstop => ?_⟩
    obtain ⟨cut, hcut, rfl⟩ := Option.map_eq_some_iff.1 hstop
    have hwhole : RestAt chars i (cut.1 ++ cut.2) := by
      rw [append_cutAfterWord? hcut]
      exact h
    exact hwhole.ahead (ne_nil_of_cutAfterWord? hcut)
  · intro params values i out hi
    obtain ⟨cs, h⟩ := restAt_of_getElem? chars i chars[i] (List.getElem?_eq_getElem hi)
    have hnext : RestAt chars i ((next chars[i] cs).1.text ++ (next chars[i] cs).2) := by
      rw [text_next]
      exact h
    refine ⟨_, step_eq out h, fun j text hj => ?_⟩
    obtain ⟨written, -, heq⟩ := Option.map_eq_some_iff.1 hj
    obtain ⟨rfl, -⟩ := Prod.mk.inj heq
    exact hnext.ahead (text_next_ne_nil _ cs)

end DataShape.Scan

namespace DataShape.Demo

/-- A text with a byte that is never closed and a string that begins at the last character. -/
def openEnds : List Char := "b'\"".toList

/-- Literals that never end, in the body of a closure and elsewhere. -/
theorem inlining_stays_within_openEnds :
    Scan.inlineText "|v| v + r#\"v" ["x"] = .ok "x + r#\"v" ∧
      (∃ stop text, Scan.copyString openEnds 2 [] = .ok (stop, text) ∧
        Scan.Ahead openEnds 2 stop) ∧
      (∃ stop text, Scan.copyTick openEnds 1 [] = .ok (stop, text) ∧ Scan.Ahead openEnds 1 stop) ∧
      (∃ stop?, Scan.literalAfter? openEnds ['b'] 1 = .ok stop? ∧
        ∀ stop, stop? = some stop → Scan.Ahead openEnds 1 stop) ∧
      ∃ next?, Scan.step [] [] openEnds 0 [] = .ok next? ∧
        ∀ j text, next? = some (j, text) → Scan.Ahead openEnds 0 j := by
  obtain ⟨hrun, hstring, htick, hliteral, hstep⟩ :=
    Scan.inlining_stays_within "|v| v + r#\"v" ["x"] openEnds
  have hinlined : ClosureText.inlineText "|v| v + r#\"v" ["x"] = "x + r#\"v" := by
    decide +kernel
  rw [hinlined] at hrun
  exact ⟨hrun, hstring 2 [] rfl, htick 1 [] rfl, hliteral ['b'] 1 (by decide),
    hstep [] [] 0 [] (by decide)⟩

end DataShape.Demo
