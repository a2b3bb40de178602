import DataShape.Closure.Scan
import DataShape.Proofs.Closure.Header

/-!
# Cutting a header at byte positions

A byte position of a text can be cut at if it is the length in bytes of what stands before it
(`Scan.cutAt_append`). All positions at which the scan cuts a header are of this kind: the bar and
the commas are found by adding up the bytes of the characters before them, and both are one byte
long. So the header is cut without a fault, and into the same parts as by going through its
characters (`Scan.split_eq`).
-/

namespace DataShape.Scan

open ClosureText

/-- What comes out without a fault is handed on. -/
@[simp] theorem ok_bind {α β : Type} (a : α) (f : α → Except Fault β) :
    (Except.ok a >>= f) = f a := rfl

/-! ## Byte positions -/

/-- The length of a text in bytes. -/
def byteLength : List Char → Nat
  | [] => 0
  | c :: cs => c.utf8Size + byteLength cs

@[simp] theorem byteLength_nil : byteLength [] = 0 := rfl

@[simp] theorem byteLength_cons (c : Char) (cs : List Char) :
    byteLength (c :: cs) = c.utf8Size + byteLength cs := rfl

@[simp] theorem byteLength_append (front back : List Char) :
    byteLength (front ++ back) = byteLength front + byteLength back := by
  induction front with
  | nil => rw [List.nil_append, byteLength_nil, Nat.zero_add]
  | cons c front ih => rw [List.cons_append, byteLength_cons, byteLength_cons, ih, Nat.add_assoc]

/-- A text can be cut at the byte position behind any part of it. -/
theorem cutAt_append (front back : List Char) :
    cutAt (front ++ back) (byteLength front) = .ok (front, back) := by
  induction front with
  | nil =>
    rw [List.nil_append, byteLength_nil]
    unfold cutAt
    rfl
  | cons c front ih =>
    have hpos := c.utf8Size_pos
    obtain ⟨n, hn⟩ : ∃ n, byteLength (c :: front) = n + 1 :=
      Nat.exists_eq_add_one.2 (by rw [byteLength_cons]; omega)
    have hle : c.utf8Size ≤ n + 1 := by rw [← hn, byteLength_cons]; omega
    have hrest : n + 1 - c.utf8Size = byteLength front := by rw [← hn, byteLength_cons]; omega
    rw [hn, List.cons_append, cutAt, if_pos hle, hrest, ih]
    rfl

example : cutAt ['é', 'a'] 2 = .ok (['é'], ['a']) ∧ cutAt ['é', 'a'] 1 = .error .offset :=
  ⟨rfl, rfl⟩

/-- The text between two byte positions is the one that stands there. -/
theorem between_append (front middle back : List Char) :
    between (front ++ middle ++ back) (byteLength front) (byteLength (front ++ middle)) =
      .ok middle := by
  unfold between
  simp only [cutAt_append, ok_bind]
  rfl

/-! ## The bar -/

/-- The byte position of the bar is behind the list that is cut off there. -/
theorem barOffset?_eq (depth offset : Nat) (cs : List Char) :
    barOffset? depth offset cs =
      (cutAtBar? depth cs).map fun cut => offset + byteLength cut.1 := by
  induction cs generalizing depth offset with
  | nil => rfl
  | cons c cs ih =>
    unfold barOffset? cutAtBar?
    split
    · rfl
    · rw [ih, Option.map_map]
      refine congrArg (Option.map · _) (funext fun cut => ?_)
      show offset + c.utf8Size + byteLength cut.1 = offset + byteLength (c :: cut.1)
      rw [byteLength_cons]
      omega

/-- A text that is cut at a bar is made of the two parts and the bar. -/
theorem eq_append_of_cutAtBar? (depth : Nat) (cs list rest : List Char)
    (h : cutAtBar? depth cs = some (list, rest)) : cs = list ++ '|' :: rest := by
  induction cs generalizing depth list with
  | nil => cases h
  | cons c cs ih =>
    unfold cutAtBar? at h
    split at h
    · rename_i hbar
      obtain ⟨rfl, rfl⟩ := Prod.mk.inj (Option.some.inj h)
      rw [hbar.1, List.nil_append]
    · obtain ⟨⟨below, back⟩, hbelow, heq⟩ := Option.map_eq_some_iff.1 h
      obtain ⟨rfl, rfl⟩ := Prod.mk.inj heq
      rw [List.cons_append]
      exact congrArg (c :: ·) (ih _ below hbelow)

/-! ## The commas -/

/-- The parameters that end with a comma are cut off one by one. `ended` is the part of the list
behind whose last comma the parameter begins that is being read, and `opened` is what has been read
of it. -/
theorem endedParams_eq (rest : List Char) : ∀ (ended opened : List Char) (depth : Nat)
    (names : List (List Char)), ∃ first more params front last,
      cutAtCommas depth rest = first :: more ∧ (opened ++ first) :: more = params ++ [last] ∧
      ended ++ opened ++ rest = front ++ last ∧
      endedParams (ended ++ opened ++ rest) depth (byteLength ended) (byteLength (ended ++ opened))
          names rest = .ok (names ++ params.map paramName, byteLength front) := by
  induction rest with
  | nil =>
    intro ended opened depth names
    refine ⟨[], [], [], ended, opened, rfl, ?_, ?_, ?_⟩
    · rw [List.append_nil, List.nil_append]
    · rw [List.append_nil]
    · simp [endedParams]
  | cons c rest ih =>
    intro ended opened depth names
    by_cases hcomma : c = ',' ∧ depth = 0
    · -- The parameter that is being read ends here, and the next one begins behind the comma.
      obtain ⟨rfl, rfl⟩ := hcomma
      obtain ⟨first, more, params, front, last, hcut, hparams, hlist, hended⟩ :=
        ih (ended ++ opened ++ [',']) [] 0 (names ++ [paramName opened])
      have hcommaBytes : byteLength (ended ++ opened ++ [',']) =
          byteLength (ended ++ opened) + 1 := by
        rw [byteLength_append _ [',']]
        rfl
      rw [List.append_nil, List.append_assoc _ [','], List.singleton_append] at hlist hended
      rw [hcommaBytes] at hended
      refine ⟨[], first :: more, opened :: params, front, last, ?_, ?_, hlist, ?_⟩
      · rw [cutAtCommas, if_pos ⟨rfl, rfl⟩, hcut]
      · rw [List.append_nil, List.cons_append, ← hparams, List.nil_append]
      · rw [endedParams, if_pos ⟨rfl, rfl⟩, between_append]
        rw [List.append_assoc names, List.singleton_append, ← List.map_cons] at hended
        exact hended
    · -- The character joins the parameter that is being read.
      obtain ⟨first, more, params, front, last, hcut, hparams, hlist, hended⟩ :=
        ih ended (opened ++ [c]) (depthAfter depth c) names
      have hbytes : byteLength (ended ++ (opened ++ [c])) =
          byteLength (ended ++ opened) + c.utf8Size := by
        rw [← List.append_assoc, byteLength_append _ [c], byteLength_cons, byteLength_nil,
          Nat.add_zero]
      rw [← List.append_assoc ended, List.append_assoc _ [c], List.singleton_append] at hlist
      rw [hbytes, ← List.append_assoc ended, List.append_assoc _ [c],
        List.singleton_append] at hended
      refine ⟨c :: first, more, params, front, last, ?_, ?_, hlist, ?_⟩
      · rw [cutAtCommas, if_neg hcomma, hcut]
      · rw [← hparams, List.append_assoc, List.singleton_append]
      · rw [endedParams, if_neg hcomma]
        exact hended

/-- The names of a parameter list are cut off without a fault. -/
theorem paramNames_eq (list : List Char) : paramNames list = .ok (ClosureText.paramNames list) := by
  obtain ⟨first, more, params, front, last, hcut, hparams, hlist, hended⟩ :=
    endedParams_eq list [] [] 0 []
  rw [List.nil_append] at hparams
  rw [List.nil_append, List.nil_append] at hlist hended
  have hall : (cutAtCommas 0 list).map paramName = params.map paramName ++ [paramName last] := by
    rw [hcut, hparams, List.map_append, List.map_singleton]
  have hrun : paramNames list =
      .ok (if (paramName last).isEmpty && (params.map paramName).isEmpty then []
        else params.map paramName ++ [paramName last]) := by
    unfold paramNames
    rw [byteLength_nil] at hended
    rw [hended, hlist]
    simp only [cutAt_append, ok_bind]
    rfl
  rw [hrun]
  refine congrArg Except.ok ?_
  by_cases hnone : paramName last = [] ∧ params = []
  · -- A single parameter without a name is none.
    obtain ⟨hlast, rfl⟩ := hnone
    rw [ClosureText.paramNames_eq_nil list (by rw [hall, hlast, List.map_nil, List.nil_append]),
      hlast]
    rfl
  · have hne : (cutAtCommas 0 list).map paramName ≠ [[]] := by
      rw [hall]
      intro heq
      have hlength := congrArg List.length heq
      rw [List.length_append, List.length_singleton, List.length_map] at hlength
      obtain rfl : params = [] := List.length_eq_zero_iff.1 (Nat.succ.inj hlength)
      exact hnone ⟨(List.cons.inj heq).1, rfl⟩
    have hsome : ((paramName last).isEmpty && (params.map paramName).isEmpty) = false := by
      rw [Bool.eq_false_iff, ne_eq, Bool.and_eq_true, List.isEmpty_iff, List.isEmpty_iff,
        List.map_eq_nil_iff]
      exact hnone
    rw [ClosureText.paramNames_eq_map list hne, hall, hsome]
    rfl

/-! ## The header -/

/-- Behind a single bar a text is taken apart at the next bar outside brackets. -/
theorem ofText?_of_bar (cs rest : List Char) (hmove : dropMove cs = '|' :: rest)
    (hlist : ∀ body, rest ≠ '|' :: body) :
    ofText? cs = (cutAtBar? 0 rest).map fun cut =>
      { params := ClosureText.paramNames cut.1, body := trimLeft cut.2 } := by
  unfold ofText?
  rw [hmove]
  split
  · rename_i body heq
    exact absurd (List.cons.inj heq).2 (hlist body)
  · rename_i heq
    rw [← (List.cons.inj heq).2]
    cases cutAtBar? 0 rest <;> rfl
  · rename_i hno
    exact absurd rfl (hno rest)

/-- A header is cut without a fault, and into the same parts as by its characters. -/
theorem split_eq (cs : List Char) : split cs = .ok (ofText? cs) := by
  unfold split
  split
  · rename_i body hmove
    unfold ofText?
    rw [hmove]
    rfl
  · rename_i rest hlist hmove
    rw [ofText?_of_bar cs rest hmove hlist, barOffset?_eq]
    cases hcut : cutAtBar? 0 rest with
    | none => rfl
    | some cut =>
      obtain ⟨list, body⟩ := cut
      obtain rfl := eq_append_of_cutAtBar? 0 rest list body hcut
      -- The bar is one byte long, so the body begins at the next position.
      have hbody : cutAt (list ++ '|' :: body) (0 + byteLength list + 1) =
          .ok (list ++ ['|'], body) := by
        have hstop : 0 + byteLength list + 1 = byteLength (list ++ ['|']) := by
          rw [byteLength_append, Nat.zero_add]
          rfl
        rw [hstop, ← List.singleton_append, ← List.append_assoc, cutAt_append]
      have hfront : cutAt (list ++ '|' :: body) (0 + byteLength list) =
          .ok (list, '|' :: body) := by
        rw [Nat.zero_add, cutAt_append]
      simp only [Option.map_some, hfront, hbody, paramNames_eq, ok_bind]
      rfl
  · rename_i hbars hbar
    unfold ofText?
    split
    · rename_i body hmove
      exact absurd hmove (hbars body)
    · rename_i rest _ hmove
      exact absurd hmove (hbar rest)
    · rfl

end DataShape.Scan
