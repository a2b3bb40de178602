import DataShape.Closure.Header
import DataShape.Proofs.Closure.Lexing
import Mathlib.Data.List.Basic

/-!
# Closure texts as they are written

`WrittenClosure` says, without a scanner, what a closure text with a single expression as its body
is: perhaps the word `move`, parameters between bars, and the expression. A parameter has a name,
perhaps references and `mut` before it and a type behind it (`Parameter`). Blanks stand wherever
they may.

`ClosureText.ofText?_source` takes such a text apart into the names of its parameters and its body.
All it asks for is that the types close the brackets they open (`Bracketed`). The arrow of a
function type counts as a closing bracket there, as it does for the reader of the text. Types with
arrows outside brackets only are no worse for it (`TypeText.bracketed`).
-/

namespace DataShape

/-! ## Blanks -/

/-- A character of a word is no blank. -/
theorem not_isBlank_of_isWordLetter (c : Char) (h : isWordLetter c = true) : isBlank c = false :=
  Bool.eq_false_iff.2 fun hblank =>
    Bool.false_ne_true ((not_isWordLetter_of_isBlank c hblank).symm.trans h)

/-- A text of blanks. -/
abbrev Blanks := { cs : List Char // cs.all isBlank = true }

/-- The characters of a text of blanks are blanks. -/
theorem Blanks.isBlank_of_mem (blanks : Blanks) (c : Char) (h : c ∈ blanks.1) : isBlank c = true :=
  List.all_eq_true.1 blanks.2 c h

/-- A character that is no blank is not in a text of blanks. -/
theorem Blanks.not_mem (blanks : Blanks) (c : Char) (h : isBlank c = false) : c ∉ blanks.1 :=
  fun hmem => Bool.false_ne_true (h.symm.trans (blanks.isBlank_of_mem c hmem))

namespace ClosureText

/-- Blanks at the beginning are dropped. -/
theorem trimLeft_append (blanks : Blanks) (cs : List Char)
    (h : ∀ c, cs.head? = some c → isBlank c = false) : trimLeft (blanks.1 ++ cs) = cs :=
  dropWhile_run isBlank blanks.1 cs blanks.isBlank_of_mem h

/-- A text that begins with no blank stays as it is. -/
theorem trimLeft_eq_self (cs : List Char) (h : ∀ c, cs.head? = some c → isBlank c = false) :
    trimLeft cs = cs :=
  trimLeft_append ⟨[], rfl⟩ cs h

/-- Blanks at the end are dropped. -/
theorem trimRight_append (cs : List Char) (blanks : Blanks)
    (h : ∀ c, cs.getLast? = some c → isBlank c = false) : trimRight (cs ++ blanks.1) = cs := by
  have hdrop := dropWhile_run isBlank blanks.1.reverse cs.reverse
    (fun c hc => blanks.isBlank_of_mem c (List.mem_reverse.1 hc))
    (fun c hc => h c (List.head?_reverse.symm.trans hc))
  unfold trimRight
  rw [List.reverse_append, hdrop, List.reverse_reverse]

/-- A text with blanks around it is trimmed to what is between them. -/
theorem trim_append (lead trail : Blanks) (cs : List Char) (hne : cs ≠ [])
    (hhead : ∀ c, cs.head? = some c → isBlank c = false)
    (hlast : ∀ c, cs.getLast? = some c → isBlank c = false) :
    trim (lead.1 ++ cs ++ trail.1) = cs := by
  have hend : (lead.1 ++ cs).getLast? = cs.getLast? := List.getLast?_append_of_ne_nil _ hne
  unfold trim
  rw [trimRight_append _ _ fun c hc => hlast c (hend ▸ hc), trimLeft_append _ _ hhead]

end ClosureText

/-! ## Brackets -/

/-- The brackets of types. -/
def bracketPairs : List (Char × Char) := [('<', '>'), ('(', ')'), ('[', ']')]

/-- A character that is no bracket. -/
def NoBracket (c : Char) : Prop := ∀ pair ∈ bracketPairs, c ≠ pair.1 ∧ c ≠ pair.2

instance (c : Char) : Decidable (NoBracket c) :=
  inferInstanceAs (Decidable (∀ pair ∈ bracketPairs, c ≠ pair.1 ∧ c ≠ pair.2))

/-- A character that is no bracket leaves the depth as it is. -/
theorem NoBracket.depthAfter_eq (c : Char) (h : NoBracket c) (depth : Nat) :
    ClosureText.depthAfter depth c = depth := by
  obtain ⟨hlt, hgt⟩ := h ('<', '>') (by decide)
  obtain ⟨hopen, hclose⟩ := h ('(', ')') (by decide)
  obtain ⟨hleft, hright⟩ := h ('[', ']') (by decide)
  unfold ClosureText.depthAfter
  rw [if_neg (by simp [hlt, hopen, hleft]), if_neg (by simp [hgt, hclose, hright])]

/-- The first bracket of a pair leads one deeper, and the second one back. -/
theorem depthAfter_bracket (brackets : Char × Char) (h : brackets ∈ bracketPairs) (depth : Nat) :
    ClosureText.depthAfter depth brackets.1 = depth + 1 ∧
      ClosureText.depthAfter depth brackets.2 = depth - 1 := by
  simp only [bracketPairs, List.mem_cons, List.not_mem_nil, or_false] at h
  rcases h with rfl | rfl | rfl <;> exact ⟨rfl, rfl⟩

/-- From one depth in brackets a text leads to another, with commas and bars only in brackets. -/
def Bracketed : Nat → List Char → Nat → Prop
  | depth, [], after => depth = after
  | depth, c :: cs, after =>
    (depth = 0 → c ≠ ',' ∧ c ≠ '|') ∧ Bracketed (ClosureText.depthAfter depth c) cs after

instance instDecidableBracketed : ∀ depth cs after, Decidable (Bracketed depth cs after)
  | depth, [], after => inferInstanceAs (Decidable (depth = after))
  | depth, c :: cs, after =>
    have := instDecidableBracketed (ClosureText.depthAfter depth c) cs after
    inferInstanceAs (Decidable (_ ∧ _))

/-- Texts that lead from one depth to the next lead on together. -/
theorem Bracketed.append (depth between after : Nat) (cs rest : List Char)
    (h : Bracketed depth cs between) (hrest : Bracketed between rest after) :
    Bracketed depth (cs ++ rest) after := by
  induction cs generalizing depth with
  | nil =>
    obtain rfl : depth = between := h
    exact hrest
  | cons c cs ih => exact ⟨h.1, ih _ h.2⟩

/-- What follows a text that leads to one depth leads on from there. -/
theorem Bracketed.of_append (depth between after : Nat) (cs rest : List Char)
    (h : Bracketed depth cs between) (hall : Bracketed depth (cs ++ rest) after) :
    Bracketed between rest after := by
  induction cs generalizing depth with
  | nil =>
    obtain rfl : depth = between := h
    exact hall
  | cons c cs ih => exact ih _ h.2 hall.2

/-- A character that is no bracket, comma or bar can stand anywhere. -/
theorem Bracketed.cons (depth after : Nat) (c : Char) (cs : List Char) (hc : NoBracket c)
    (hcomma : c ≠ ',') (hbar : c ≠ '|') (h : Bracketed depth cs after) :
    Bracketed depth (c :: cs) after :=
  ⟨fun _ => ⟨hcomma, hbar⟩, (hc.depthAfter_eq c depth).symm ▸ h⟩

/-- A text without brackets, commas and bars leaves the depth as it is. -/
theorem bracketed_of_forall (depth : Nat) (cs : List Char)
    (h : ∀ c ∈ cs, NoBracket c ∧ c ≠ ',' ∧ c ≠ '|') : Bracketed depth cs depth := by
  induction cs with
  | nil => rfl
  | cons c cs ih =>
    obtain ⟨hc, hcomma, hbar⟩ := h c List.mem_cons_self
    exact .cons depth depth c cs hc hcomma hbar (ih fun d hd => h d (List.mem_cons_of_mem c hd))

namespace ClosureText

/-- A text is cut at the bar behind a part with commas and bars in brackets only. -/
theorem cutAtBar?_append (depth after : Nat) (cs rest : List Char) (h : Bracketed depth cs after) :
    cutAtBar? depth (cs ++ rest) = (cutAtBar? after rest).map (Prod.map (cs ++ ·) id) := by
  induction cs generalizing depth with
  | nil =>
    obtain rfl : depth = after := h
    show _ = (cutAtBar? depth rest).map id
    rw [Option.map_id_fun, id_eq]
    rfl
  | cons c cs ih =>
    have hbar : ¬ (c = '|' ∧ depth = 0) := fun hc => (h.1 hc.2).2 hc.1
    rw [List.cons_append, cutAtBar?, if_neg hbar, ih _ h.2, Option.map_map]
    rfl

/-- A text is cut at the commas behind a part with commas and bars in brackets only. -/
theorem cutAtCommas_append (depth after : Nat) (cs rest first : List Char)
    (more : List (List Char)) (h : Bracketed depth cs after)
    (hrest : cutAtCommas after rest = first :: more) :
    cutAtCommas depth (cs ++ rest) = (cs ++ first) :: more := by
  induction cs generalizing depth with
  | nil =>
    obtain rfl : depth = after := h
    exact hrest
  | cons c cs ih =>
    have hcomma : ¬ (c = ',' ∧ depth = 0) := fun hc => (h.1 hc.2).1 hc.1
    rw [List.cons_append, cutAtCommas, if_neg hcomma, ih _ h.2]
    rfl

/-- A list of texts with commas between them is cut into these texts. -/
theorem cutAtCommas_intercalate (texts : List (List Char)) (hne : texts ≠ [])
    (h : ∀ text ∈ texts, Bracketed 0 text 0) :
    cutAtCommas 0 (List.intercalate [','] texts) = texts := by
  induction texts with
  | nil => exact absurd rfl hne
  | cons text texts ih =>
    have htext := h text List.mem_cons_self
    cases texts with
    | nil =>
      have hcut := cutAtCommas_append 0 0 text [] [] [] htext rfl
      rw [List.append_nil] at hcut
      rw [List.intercalate_singleton, hcut]
    | cons next texts =>
      have htexts := ih (List.cons_ne_nil _ _) fun t ht => h t (List.mem_cons_of_mem text ht)
      have hcomma : cutAtCommas 0 (',' :: List.intercalate [','] (next :: texts)) =
          [] :: next :: texts := by
        rw [cutAtCommas, if_pos ⟨rfl, rfl⟩, htexts]
      rw [List.intercalate_cons_cons, List.append_assoc, List.singleton_append,
        cutAtCommas_append 0 0 text _ [] _ htext hcomma, List.append_nil]

/-- A list of texts with commas between them ends at the bar behind it. -/
theorem cutAtBar?_intercalate (texts : List (List Char)) (rest : List Char)
    (h : ∀ text ∈ texts, Bracketed 0 text 0) :
    cutAtBar? 0 (List.intercalate [','] texts ++ '|' :: rest) =
      some (List.intercalate [','] texts, rest) := by
  induction texts with
  | nil => rfl
  | cons text texts ih =>
    have htext := h text List.mem_cons_self
    cases texts with
    | nil =>
      rw [List.intercalate_singleton, cutAtBar?_append 0 0 text _ htext]
      simp [cutAtBar?]
    | cons next texts =>
      have htexts := ih fun t ht => h t (List.mem_cons_of_mem text ht)
      rw [List.intercalate_cons_cons, List.append_assoc, List.append_assoc,
        cutAtBar?_append 0 0 text _ htext, List.singleton_append, cutAtBar?,
        if_neg (by decide), depthAfter]
      simp [htexts]

/-- A list of one part without a name has no names. -/
theorem paramNames_eq_nil (list : List Char) (h : (cutAtCommas 0 list).map paramName = [[]]) :
    paramNames list = [] := by
  unfold paramNames
  rw [h]

/-- Any other list has the names of its parts. -/
theorem paramNames_eq_map (list : List Char) (h : (cutAtCommas 0 list).map paramName ≠ [[]]) :
    paramNames list = (cutAtCommas 0 list).map paramName := by
  unfold paramNames
  split
  · rename_i hnone
    exact absurd hnone h
  · rfl

/-- The word `move` and the blanks behind it are dropped. -/
theorem dropMove_move (blanks : Blanks) (rest : List Char) :
    dropMove ('m' :: 'o' :: 'v' :: 'e' :: (blanks.1 ++ '|' :: rest)) = '|' :: rest := by
  have hbar : ∀ c, ('|' :: rest).head? = some c → isBlank c = false := by
    rintro c ⟨⟩
    decide
  obtain ⟨c, cs, hcs, hc⟩ : ∃ c cs, blanks.1 ++ '|' :: rest = c :: cs ∧
      (isBlank c || c == '|') = true := by
    obtain ⟨_ | ⟨c, cs⟩, hblanks⟩ := blanks
    · exact ⟨'|', _, rfl, by decide⟩
    · exact ⟨c, _, rfl, by rw [List.all_eq_true.1 hblanks c List.mem_cons_self, Bool.true_or]⟩
  have htrim := trimLeft_append blanks ('|' :: rest) hbar
  rw [hcs] at htrim ⊢
  rw [dropMove, if_pos hc, htrim]

/-- A text is taken apart at the bar that ends its parameter list. -/
theorem ofText?_of_cutAtBar? (cs list rest : List Char)
    (hmove : dropMove cs = '|' :: (list ++ '|' :: rest))
    (hcut : cutAtBar? 0 (list ++ '|' :: rest) = some (list, rest)) :
    ofText? cs = some { params := paramNames list, body := trimLeft rest } := by
  unfold ofText?
  rw [hmove]
  cases list with
  | nil => rfl -- two bars in a row are a list without parameters
  | cons c list =>
    have hc : c ≠ '|' := by
      rintro rfl
      cases hcut
    split
    · rename_i heq
      exact absurd (List.cons.inj (List.cons.inj heq).2).1 hc
    · rename_i heq
      rw [← (List.cons.inj heq).2, hcut]
      rfl
    · rename_i hno
      exact absurd rfl (hno _)

end ClosureText

/-! ## Types -/

/-- What stands in brackets in a type without arrows in brackets. -/
inductive BracketText : List Char → Prop
  | nil : BracketText []
  | plain (c : Char) (rest : List Char) (hc : NoBracket c) (below : BracketText rest) :
      BracketText (c :: rest)
  | group (brackets : Char × Char) (inner rest : List Char) (hpair : brackets ∈ bracketPairs)
      (within : BracketText inner) (below : BracketText rest) :
      BracketText (brackets.1 :: (inner ++ brackets.2 :: rest))

/-- A type without arrows in brackets. -/
inductive TypeText : List Char → Prop
  | nil : TypeText []
  | plain (c : Char) (rest : List Char) (hc : NoBracket c) (hcomma : c ≠ ',') (hbar : c ≠ '|')
      (below : TypeText rest) : TypeText (c :: rest)
  | arrow (rest : List Char) (below : TypeText rest) : TypeText ('-' :: '>' :: rest)
  | group (brackets : Char × Char) (inner rest : List Char) (hpair : brackets ∈ bracketPairs)
      (within : BracketText inner) (below : TypeText rest) :
      TypeText (brackets.1 :: (inner ++ brackets.2 :: rest))

/-- A pair of brackets leads back to the depth before it. -/
theorem bracketed_group (depth after : Nat) (brackets : Char × Char) (inner rest : List Char)
    (hpair : brackets ∈ bracketPairs) (hinner : Bracketed (depth + 1) inner (depth + 1))
    (hrest : Bracketed depth rest after) :
    Bracketed depth (brackets.1 :: (inner ++ brackets.2 :: rest)) after := by
  have hplain : ∀ pair ∈ bracketPairs, pair.1 ≠ ',' ∧ pair.1 ≠ '|' := by decide
  have hclosed : Bracketed (depth + 1) (brackets.2 :: rest) after := by
    refine ⟨fun hzero => absurd hzero (Nat.succ_ne_zero depth), ?_⟩
    rw [(depthAfter_bracket brackets hpair (depth + 1)).2]
    exact hrest
  have hopened := Bracketed.append (depth + 1) (depth + 1) after inner _ hinner hclosed
  rw [← (depthAfter_bracket brackets hpair depth).1] at hopened
  exact ⟨fun _ => hplain brackets hpair, hopened⟩

/-- What stands in brackets leads back to its depth. -/
theorem BracketText.bracketed (cs : List Char) (h : BracketText cs) (depth : Nat) :
    Bracketed (depth + 1) cs (depth + 1) := by
  induction h generalizing depth with
  | nil => rfl
  | plain c rest hc below ih =>
    refine ⟨fun hzero => absurd hzero (Nat.succ_ne_zero depth), ?_⟩
    rw [hc.depthAfter_eq]
    exact ih depth
  | group brackets inner rest hpair within below ihwithin ihbelow =>
    exact bracketed_group (depth + 1) (depth + 1) brackets inner rest hpair
      (ihwithin (depth + 1)) (ihbelow depth)

/-- A type without arrows in brackets closes the brackets it opens. -/
theorem TypeText.bracketed (cs : List Char) (h : TypeText cs) : Bracketed 0 cs 0 := by
  induction h with
  | nil => rfl
  | plain c rest hc hcomma hbar below ih => exact .cons 0 0 c rest hc hcomma hbar ih
  | arrow rest below ih =>
    -- outside brackets there is nothing for the arrow to close
    exact Bracketed.append 0 0 0 ['-', '>'] rest (by decide) ih
  | group brackets inner rest hpair within below ih =>
    exact bracketed_group 0 0 brackets inner rest hpair (within.bracketed _ 0) ih

/-- A comma behind an arrow in brackets stands outside all brackets for the reader. -/
example : Bracketed 0 "Box<dyn Fn(u8) -> u8>".toList 0 ∧
    ¬ Bracketed 0 "Map<fn(u8) -> u8, u8>".toList 0 := by decide

/-! ## Parameters -/

/-- A parameter of a closure text. -/
structure Parameter where
  lead : Blanks := ⟨[], rfl⟩
  /-- How many references stand before the name. -/
  refs : Nat := 0
  gap : Blanks := ⟨[], rfl⟩
  /-- The blanks behind `mut` and its space, if the parameter is mutable. -/
  mutGap? : Option Blanks := none
  name : List Char
  trail : Blanks := ⟨[], rfl⟩
  /-- What stands behind the colon, if there is one. -/
  type? : Option (List Char) := none
  name_ne_nil : name ≠ []
  name_letters : name.all isWordLetter = true

namespace Parameter

/-- The characters of a name are letters of words. -/
theorem isWordLetter_of_mem (param : Parameter) (c : Char) (h : c ∈ param.name) :
    isWordLetter c = true :=
  List.all_eq_true.1 param.name_letters c h

/-- The name of a parameter with `mut` before it, if it is mutable. -/
def binding (param : Parameter) : List Char :=
  match param.mutGap? with
  | none => param.name
  | some blanks => 'm' :: 'u' :: 't' :: ' ' :: (blanks.1 ++ param.name)

/-- The text of a parameter before its type. -/
def pattern (param : Parameter) : List Char :=
  param.lead.1 ++ (List.replicate param.refs '&' ++ (param.gap.1 ++ param.binding)) ++ param.trail.1

/-- The text of a parameter. -/
def text (param : Parameter) : List Char :=
  match param.type? with
  | none => param.pattern
  | some type => param.pattern ++ ':' :: type

/-- The brackets of a parameter's type are closed. -/
def Closed (param : Parameter) : Prop := ∀ type ∈ param.type?, Bracketed 0 type 0

instance (param : Parameter) : Decidable param.Closed :=
  inferInstanceAs (Decidable (∀ type ∈ param.type?, Bracketed 0 type 0))

/-- A parameter is bound to a name or to `mut` and a name, so its binding begins with a letter. -/
theorem binding_head (param : Parameter) :
    ∃ c cs, param.binding = c :: cs ∧ isWordLetter c = true := by
  unfold binding
  cases param.mutGap? with
  | none =>
    obtain ⟨c, cs, hname⟩ := List.exists_cons_of_ne_nil param.name_ne_nil
    exact ⟨c, cs, hname, param.isWordLetter_of_mem c (hname ▸ List.mem_cons_self)⟩
  | some blanks => exact ⟨'m', _, rfl, by decide +kernel⟩

/-- A binding ends in the last letter of its name. -/
theorem binding_getLast? (param : Parameter) : param.binding.getLast? = param.name.getLast? := by
  unfold binding
  cases param.mutGap? with
  | none => rfl
  | some blanks =>
    obtain ⟨c, cs, hname⟩ := List.exists_cons_of_ne_nil param.name_ne_nil
    show ('m' :: 'u' :: 't' :: ' ' :: blanks.1 ++ param.name).getLast? = _
    rw [hname, List.getLast?_append, List.getLast?_cons]
    rfl

/-- Before its type a parameter has blanks, references and letters. -/
theorem mem_pattern (param : Parameter) (c : Char) (h : c ∈ param.pattern) :
    isBlank c = true ∨ c = '&' ∨ isWordLetter c = true := by
  have hbinding : c ∈ param.binding → isBlank c = true ∨ isWordLetter c = true := by
    unfold binding
    intro hc
    cases hgap : param.mutGap? with
    | none =>
      rw [hgap] at hc
      exact .inr (param.isWordLetter_of_mem c hc)
    | some blanks =>
      rw [hgap] at hc
      simp only [List.mem_cons, List.mem_append] at hc
      rcases hc with rfl | rfl | rfl | rfl | hc | hc
      · exact .inr (by decide +kernel)
      · exact .inr (by decide +kernel)
      · exact .inr (by decide +kernel)
      · exact .inl (by decide +kernel)
      · exact .inl (blanks.isBlank_of_mem c hc)
      · exact .inr (param.isWordLetter_of_mem c hc)
  unfold pattern at h
  simp only [List.mem_append, List.mem_replicate] at h
  rcases h with (h | h | h | h) | h
  · exact .inl (param.lead.isBlank_of_mem c h)
  · exact .inr (.inl h.2)
  · exact .inl (param.gap.isBlank_of_mem c h)
  · exact (hbinding h).imp_right .inr
  · exact .inl (param.trail.isBlank_of_mem c h)

/-- Before its type a parameter has no colons, commas, bars and brackets. -/
theorem ne_of_mem_pattern (param : Parameter) (c : Char) (h : c ∈ param.pattern) :
    ∀ d ∈ [':', ',', '|', '<', '>', '(', ')', '[', ']'], c ≠ d := by
  rintro d hd rfl
  have hnone : [':', ',', '|', '<', '>', '(', ')', '[', ']'].all
      (fun d => !isBlank d && d != '&' && !isWordLetter d) = true := by decide +kernel
  have hc := List.all_eq_true.1 hnone c hd
  simp only [Bool.and_eq_true, Bool.not_eq_true', bne_iff_ne] at hc
  obtain ⟨⟨hblank, hsign⟩, hletter⟩ := hc
  rcases param.mem_pattern c h with h | h | h
  · rw [hblank] at h
    cases h
  · exact hsign h
  · rw [hletter] at h
    cases h

/-- What stands before a type is cut off at its colon. -/
theorem takeWhile_text (param : Parameter) : param.text.takeWhile (· != ':') = param.pattern := by
  have hpattern : ∀ c ∈ param.pattern, (c != ':') = true := fun c hc =>
    bne_iff_ne.2 (param.ne_of_mem_pattern c hc ':' (by decide))
  unfold text
  cases param.type? with
  | none =>
    have hall := takeWhile_run _ _ [] hpattern (fun c hc => nomatch hc)
    rwa [List.append_nil] at hall
  | some type =>
    refine takeWhile_run _ _ _ hpattern ?_
    rintro c ⟨⟩
    rfl

/-- A binding begins with neither a blank nor a reference. -/
theorem binding_head_plain (param : Parameter) (d : Char) (h : param.binding.head? = some d) :
    isBlank d = false ∧ (d == '&') = false := by
  obtain ⟨c, cs, hbinding, hc⟩ := param.binding_head
  rw [hbinding] at h
  obtain rfl : c = d := Option.some.inj h
  refine ⟨not_isBlank_of_isWordLetter c hc, beq_eq_false_iff_ne.2 ?_⟩
  rintro rfl
  exact absurd hc (by decide +kernel)

/-- The blanks behind a name are dropped. -/
theorem trimRight_pattern (param : Parameter) : ClosureText.trimRight param.pattern =
    param.lead.1 ++ (List.replicate param.refs '&' ++ (param.gap.1 ++ param.binding)) := by
  obtain ⟨d, ds, hbinding, -⟩ := param.binding_head
  have hne : param.binding ≠ [] := hbinding ▸ List.cons_ne_nil d ds
  refine ClosureText.trimRight_append _ param.trail fun c hc => ?_
  rw [← List.append_assoc, ← List.append_assoc, List.getLast?_append_of_ne_nil _ hne,
    binding_getLast?] at hc
  exact not_isBlank_of_isWordLetter c (param.isWordLetter_of_mem c (List.mem_of_getLast? hc))

/-- The blanks and the references before a binding are dropped. -/
theorem trimLeft_pattern (param : Parameter) :
    ClosureText.trimLeft ((ClosureText.trim param.pattern).dropWhile (· == '&')) =
      param.binding := by
  have hblank := fun d hd => (param.binding_head_plain d hd).1
  have hsign := fun d hd => (param.binding_head_plain d hd).2
  unfold ClosureText.trim
  rw [trimRight_pattern]
  cases hrefs : param.refs with
  | zero =>
    have htrim : ClosureText.trimLeft (param.lead.1 ++ (param.gap.1 ++ param.binding)) =
        param.binding :=
      (List.dropWhile_append_of_pos param.lead.isBlank_of_mem).trans
        (ClosureText.trimLeft_append param.gap _ hblank)
    have hdrop : param.binding.dropWhile (· == '&') = param.binding :=
      dropWhile_run (· == '&') [] _ (fun d hd => nomatch hd) hsign
    show ClosureText.trimLeft ((ClosureText.trimLeft
      (param.lead.1 ++ (param.gap.1 ++ param.binding))).dropWhile (· == '&')) = _
    rw [htrim, hdrop, ClosureText.trimLeft_eq_self _ hblank]
  | succ n =>
    have hgap : ∀ d, (param.gap.1 ++ param.binding).head? = some d → (d == '&') = false := by
      intro d hd
      rw [List.head?_append, Option.or_eq_some_iff] at hd
      rcases hd with hd | ⟨-, hd⟩
      · refine beq_eq_false_iff_ne.2 ?_
        rintro rfl
        exact absurd (param.gap.isBlank_of_mem _ (List.mem_of_head? hd)) (by decide)
      · exact hsign d hd
    have hdrop := dropWhile_run (· == '&') (List.replicate (n + 1) '&') _
      (fun d hd => beq_iff_eq.2 (List.eq_of_mem_replicate hd)) hgap
    rw [ClosureText.trimLeft_append param.lead _ fun d hd => by
      obtain rfl := Option.some.inj hd
      decide]
    rw [hdrop, ClosureText.trimLeft_append param.gap _ hblank]

/-- The name of a parameter is read off its text. -/
theorem paramName_text (param : Parameter) : ClosureText.paramName param.text = param.name := by
  unfold ClosureText.paramName
  dsimp only
  rw [takeWhile_text, trimLeft_pattern]
  cases hgap : param.mutGap? with
  | none =>
    have hbinding : param.binding = param.name := by
      unfold binding
      rw [hgap]
    rw [hbinding]
    split
    · rename_i rest hname
      -- a name has no blank in it
      have hmem : ' ' ∈ param.name := by simp [hname]
      exact absurd (param.isWordLetter_of_mem _ hmem) (by decide +kernel)
    · rfl
  | some blanks =>
    have hbinding : param.binding = 'm' :: 'u' :: 't' :: ' ' :: (blanks.1 ++ param.name) := by
      unfold binding
      rw [hgap]
    rw [hbinding]
    exact ClosureText.trimLeft_append blanks _ fun c hc =>
      not_isBlank_of_isWordLetter c (param.isWordLetter_of_mem c (List.mem_of_head? hc))

/-- Before its type a parameter leads to no depth. -/
theorem bracketed_pattern (param : Parameter) : Bracketed 0 param.pattern 0 :=
  bracketed_of_forall 0 _ fun c hc => by
    have hne := param.ne_of_mem_pattern c hc
    exact ⟨by simp [NoBracket, bracketPairs, hne], hne _ (by decide), hne _ (by decide)⟩

/-- The text of a parameter has commas and bars only in brackets. -/
theorem bracketed_text (param : Parameter) (h : param.Closed) : Bracketed 0 param.text 0 := by
  unfold text
  cases htype : param.type? with
  | none => exact param.bracketed_pattern
  | some type =>
    exact param.bracketed_pattern.append 0 0 0 _ _
      (.cons 0 0 ':' type (by decide) (by decide) (by decide) (h type htype))

/-- What stands between the bars and the commas of a parameter list: the parameters or, if there are
none, blanks. -/
def texts (hollow : Blanks) : List Parameter → List (List Char)
  | [] => [hollow.1]
  | params => params.map text

/-- There is a text between the bars. -/
theorem texts_ne_nil (hollow : Blanks) (params : List Parameter) : texts hollow params ≠ [] := by
  cases params with
  | nil => exact List.cons_ne_nil _ _
  | cons param params => exact List.cons_ne_nil _ _

/-- Blanks have no brackets, commas and bars. -/
theorem bracketed_hollow (hollow : Blanks) : Bracketed 0 hollow.1 0 := by
  refine bracketed_of_forall 0 _ fun c hc => ?_
  have hne : ∀ d, isBlank d = false → c ≠ d := fun d hd heq => hollow.not_mem d hd (heq ▸ hc)
  have hplain : ∀ pair ∈ bracketPairs, isBlank pair.1 = false ∧ isBlank pair.2 = false := by decide
  exact ⟨fun pair hpair => ⟨hne _ (hplain pair hpair).1, hne _ (hplain pair hpair).2⟩,
    hne ',' (by decide), hne '|' (by decide)⟩

/-- Between the bars and the commas, commas and bars stand only in brackets. -/
theorem bracketed_texts (hollow : Blanks) (params : List Parameter)
    (h : ∀ param ∈ params, param.Closed) : ∀ text ∈ texts hollow params, Bracketed 0 text 0 := by
  intro text htext
  cases params with
  | nil =>
    obtain rfl := List.mem_singleton.1 htext
    exact bracketed_hollow hollow
  | cons param params =>
    obtain ⟨param, hparam, rfl⟩ := List.mem_map.1 htext
    exact param.bracketed_text (h param hparam)

/-- Blanks name nothing. -/
theorem paramName_hollow (hollow : Blanks) : ClosureText.paramName hollow.1 = [] := by
  have hcolon := takeWhile_run (· != ':') hollow.1 []
    (fun c hc => bne_iff_ne.2 fun heq => hollow.not_mem ':' (by decide) (heq ▸ hc))
    (fun c hc => nomatch hc)
  have htrim := ClosureText.trimRight_append [] hollow (fun c hc => nomatch hc)
  rw [List.append_nil] at hcolon
  rw [List.nil_append] at htrim
  unfold ClosureText.paramName ClosureText.trim
  rw [hcolon, htrim]
  rfl

/-- The names of the parameters are read off what stands between the bars. -/
theorem paramNames_texts (hollow : Blanks) (params : List Parameter)
    (h : ∀ param ∈ params, param.Closed) :
    ClosureText.paramNames (List.intercalate [','] (texts hollow params)) = params.map name := by
  have hcut := ClosureText.cutAtCommas_intercalate _ (texts_ne_nil hollow params)
    (bracketed_texts hollow params h)
  cases params with
  | nil =>
    refine ClosureText.paramNames_eq_nil _ ?_
    rw [hcut]
    exact congrArg (fun name => [name]) (paramName_hollow hollow)
  | cons param params =>
    have hnames : (texts hollow (param :: params)).map ClosureText.paramName =
        (param :: params).map name := by
      show ((param :: params).map text).map ClosureText.paramName = _
      rw [List.map_map]
      exact List.map_congr_left fun param _ => param.paramName_text
    have hnamed : (param :: params).map name ≠ [[]] := fun heq =>
      param.name_ne_nil (List.cons.inj heq).1
    rw [ClosureText.paramNames_eq_map _ (by rwa [hcut, hnames]), hcut, hnames]

end Parameter

/-! ## Closure texts -/

/-- A closure text whose body is a single expression: no block, and no result type before it. -/
structure WrittenClosure where
  lead : Blanks := ⟨[], rfl⟩
  /-- The blanks behind `move`, if the closure begins with it. -/
  moveGap? : Option Blanks := none
  params : List Parameter
  /-- The blanks between the bars of a closure without parameters. -/
  hollow : Blanks := ⟨[], rfl⟩
  gap : Blanks := ⟨[], rfl⟩
  body : List Char
  trail : Blanks := ⟨[], rfl⟩
  body_ne_nil : body ≠ []
  body_head : ∀ c, body.head? = some c → isBlank c = false
  body_last : ∀ c, body.getLast? = some c → isBlank c = false
  no_block : ¬ "\x7b".toList <+: body
  no_result : ¬ "->".toList <+: body

namespace WrittenClosure

/-- The names of the parameters. -/
def names (closure : WrittenClosure) : List (List Char) := closure.params.map Parameter.name

/-- What stands between the bars and the commas. -/
def texts (closure : WrittenClosure) : List (List Char) :=
  match closure.params with
  | [] => [closure.hollow.1]
  | params => params.map Parameter.text

/-- What stands between the bars. -/
def list (closure : WrittenClosure) : List Char := List.intercalate [','] closure.texts

/-- The closure from its first bar to the end of its body. -/
def bars (closure : WrittenClosure) : List Char :=
  '|' :: (closure.list ++ '|' :: (closure.gap.1 ++ closure.body))

/-- The closure without the blanks around it. -/
def core (closure : WrittenClosure) : List Char :=
  match closure.moveGap? with
  | none => closure.bars
  | some blanks => 'm' :: 'o' :: 'v' :: 'e' :: (blanks.1 ++ closure.bars)

/-- The text of a closure. -/
def source (closure : WrittenClosure) : String :=
  String.ofList (closure.lead.1 ++ closure.core ++ closure.trail.1)

/-- The types of a closure's parameters close their brackets. -/
def Closed (closure : WrittenClosure) : Prop := ∀ param ∈ closure.params, param.Closed

instance (closure : WrittenClosure) : Decidable closure.Closed :=
  inferInstanceAs (Decidable (∀ param ∈ closure.params, param.Closed))

/-- A closure ends in the last character of its body. -/
theorem core_getLast? (closure : WrittenClosure) :
    closure.core.getLast? = closure.body.getLast? := by
  have hcore : ∃ front, closure.core = front ++ closure.body := by
    unfold core
    cases closure.moveGap? with
    | none => exact ⟨'|' :: (closure.list ++ '|' :: closure.gap.1), by simp [bars]⟩
    | some blanks =>
      exact ⟨'m' :: 'o' :: 'v' :: 'e' :: (blanks.1 ++ '|' :: (closure.list ++ '|' ::
        closure.gap.1)), by simp [bars]⟩
  obtain ⟨front, hfront⟩ := hcore
  rw [hfront, List.getLast?_append_of_ne_nil _ closure.body_ne_nil]

/-- The blanks around a closure are dropped. -/
theorem trim_source (closure : WrittenClosure) :
    ClosureText.trim closure.source.toList = closure.core := by
  have hhead : ∃ c cs, closure.core = c :: cs ∧ isBlank c = false := by
    unfold core
    cases closure.moveGap? with
    | none => exact ⟨'|', _, rfl, by decide⟩
    | some blanks => exact ⟨'m', _, rfl, by decide⟩
  obtain ⟨c, cs, hcore, hc⟩ := hhead
  unfold source
  rw [String.toList_ofList]
  refine ClosureText.trim_append _ _ _ (hcore ▸ List.cons_ne_nil c cs) ?_ ?_
  · rw [hcore]
    rintro d ⟨⟩
    exact hc
  · rw [core_getLast?]
    exact closure.body_last

/-- The word `move` and the blanks behind it are dropped. -/
theorem dropMove_core (closure : WrittenClosure) :
    ClosureText.dropMove closure.core = closure.bars := by
  unfold core
  cases closure.moveGap? with
  | none => rfl
  | some blanks => exact ClosureText.dropMove_move blanks _

end WrittenClosure

/-- A closure text is taken apart into the names of its parameters and its body. -/
theorem ClosureText.ofText?_source (closure : WrittenClosure) (h : closure.Closed) :
    ofText? (trim closure.source.toList) =
      some { params := closure.names, body := closure.body } := by
  have hcut := cutAtBar?_intercalate closure.texts (closure.gap.1 ++ closure.body)
    (Parameter.bracketed_texts closure.hollow closure.params h)
  have hnames : paramNames closure.list = closure.names :=
    Parameter.paramNames_texts closure.hollow closure.params h
  rw [closure.trim_source, ofText?_of_cutAtBar? _ _ _ closure.dropMove_core hcut, hnames,
    trimLeft_append closure.gap closure.body closure.body_head]

end DataShape
