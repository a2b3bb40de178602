import DataShape.Proofs.Closure.Rewriting
import Mathlib.Data.List.Induction

/-!
# Parameter lists with any types

`ClosureText.ofText?_header` says what becomes of a closure text whose parameters have types of any
form (`IsType`): references, generics, tuples, slices, arrays and functions with results. Its body is
always found, and the names of its parameters are found exactly when the types keep their commas to
themselves (`CommasCovered`).

The reader finds its way by counting brackets. It takes the `>` of an arrow for a bracket that
closes, and a closing bracket lowers the count unless it is zero already. So behind a type the count
is back at zero (`IsType.closesBrackets`), which is why the list always ends at the right bar, but
inside a type it can be too low. The count is above zero exactly when some end of what was read opens
more brackets than it closes (`ClosureText.lt_foldl_depthAfter_iff`). Where it is zero, a comma of a
type passes for one between parameters, and there are more names than parameters. Types without arrows
in brackets are read as they are (`TypeText.commasCovered`).
-/

namespace DataShape

/-! ## Types -/

/-- The text of a type or, if it is enclosed, of what stands between brackets in a type. An arrow may
stand anywhere, and a comma between brackets. -/
inductive IsType : Bool → List Char → Prop
  | nil (enclosed : Bool) : IsType enclosed []
  | plain (enclosed : Bool) (c : Char) (rest : List Char) (hc : NoBracket c) (hbar : c ≠ '|')
      (hcomma : c = ',' → enclosed = true) (below : IsType enclosed rest) :
      IsType enclosed (c :: rest)
  | arrow (enclosed : Bool) (rest : List Char) (below : IsType enclosed rest) :
      IsType enclosed ('-' :: '>' :: rest)
  | group (enclosed : Bool) (brackets : Char × Char) (inner rest : List Char)
      (hpair : brackets ∈ bracketPairs) (within : IsType true inner)
      (below : IsType enclosed rest) :
      IsType enclosed (brackets.1 :: (inner ++ brackets.2 :: rest))

/-- How many brackets a text opens. -/
def openings (cs : List Char) : Nat := cs.countP (· ∈ bracketPairs.map Prod.fst)

/-- How many brackets a text closes. The arrow of a function type counts as one that does. -/
def closings (cs : List Char) : Nat := cs.countP (· ∈ bracketPairs.map Prod.snd)

/-- A comma in a type is covered if some end of what stands before it opens more brackets than it
closes. -/
def CommasCovered (type : List Char) : Prop :=
  ∀ front back, type = front ++ ',' :: back →
    ∃ inner, inner <:+ front ∧ closings inner < openings inner

namespace ClosureText

/-! ## Counting brackets -/

/-- An opening bracket is one deeper, and a closing one is one less deep unless it stands outside. -/
theorem depthAfter_eq (depth : Nat) (c : Char) :
    depthAfter depth c = depth + openings [c] - closings [c] := by
  by_cases hopen : c ∈ bracketPairs.map Prod.fst
  · have hchar : c = '<' ∨ c = '(' ∨ c = '[' := by simpa [bracketPairs] using hopen
    rcases hchar with rfl | rfl | rfl <;> rfl
  · by_cases hclose : c ∈ bracketPairs.map Prod.snd
    · have hchar : c = '>' ∨ c = ')' ∨ c = ']' := by simpa [bracketPairs] using hclose
      rcases hchar with rfl | rfl | rfl <;> rfl
    · have hplain : NoBracket c := fun pair hpair =>
        ⟨fun heq => hopen (heq ▸ List.mem_map_of_mem hpair),
          fun heq => hclose (heq ▸ List.mem_map_of_mem hpair)⟩
      have hopens : openings [c] = 0 := by simpa [openings] using hopen
      have hcloses : closings [c] = 0 := by simpa [closings] using hclose
      rw [hplain.depthAfter_eq, hopens, hcloses]
      rfl

/-- No character both opens and closes a bracket. -/
theorem openings_add_closings_le (c : Char) : openings [c] + closings [c] ≤ 1 := by
  by_cases hopen : c ∈ bracketPairs.map Prod.fst
  · exact forall_of_all _ (fun c => openings [c] + closings [c] ≤ 1) (by decide) c hopen
  · have hopens : openings [c] = 0 := by simpa [openings] using hopen
    have hcloses : closings [c] ≤ 1 := List.countP_le_length
    omega

/-- The ends of a longer text are longer ends, so its brackets are counted on. -/
theorem exists_suffix_concat_iff (cs : List Char) (c : Char) (n : Nat) :
    (∃ inner, inner <:+ cs ++ [c] ∧ closings inner + n < openings inner) ↔
      ∃ inner, inner <:+ cs ∧
        closings inner + closings [c] + n < openings inner + openings [c] := by
  have hsnoc : ∀ inner : List Char, openings (inner ++ [c]) = openings inner + openings [c] ∧
      closings (inner ++ [c]) = closings inner + closings [c] := fun inner =>
    ⟨List.countP_append, List.countP_append⟩
  constructor
  · rintro ⟨inner, hinner, hlt⟩
    rcases List.suffix_concat_iff.1 hinner with rfl | ⟨start, rfl, hstart⟩
    · exact absurd hlt (Nat.not_lt_zero _)
    · rw [(hsnoc start).1, (hsnoc start).2] at hlt
      exact ⟨start, hstart, hlt⟩
  · rintro ⟨inner, hinner, hlt⟩
    rw [← (hsnoc inner).1, ← (hsnoc inner).2] at hlt
    exact ⟨inner ++ [c], List.suffix_concat_iff.2 (.inr ⟨inner, rfl, hinner⟩), hlt⟩

/-- Brackets are counted to more than `n` exactly if some end of the text opens more than `n`
brackets beyond those that it closes. -/
theorem lt_foldl_depthAfter_iff (cs : List Char) (n : Nat) :
    n < cs.foldl depthAfter 0 ↔
      ∃ inner, inner <:+ cs ∧ closings inner + n < openings inner := by
  -- the induction is on the last character, which all ends but the empty one share
  induction cs using List.reverseRecOn generalizing n with
  | nil =>
    refine iff_of_false (Nat.not_lt_zero n) ?_
    rintro ⟨inner, hinner, hlt⟩
    obtain rfl := List.suffix_nil.1 hinner
    exact Nat.not_lt_zero _ hlt
  | append_singleton cs c ih =>
    have hone := openings_add_closings_le c
    rw [exists_suffix_concat_iff, List.foldl_append, List.foldl_cons, List.foldl_nil,
      depthAfter_eq]
    by_cases hfirst : n < openings [c]
    · -- an opening bracket alone is more than nothing
      exact iff_of_true (by omega) ⟨[], List.nil_suffix, by
        have hnone : closings [] = 0 ∧ openings [] = 0 := ⟨rfl, rfl⟩
        omega⟩
    · obtain ⟨m, rfl⟩ := Nat.exists_eq_add_of_le (Nat.le_of_not_lt hfirst)
      have hcount : openings [c] + m < cs.foldl depthAfter 0 + openings [c] - closings [c] ↔
          closings [c] + m < cs.foldl depthAfter 0 := by omega
      rw [hcount, ih]
      refine exists_congr fun inner => and_congr_right fun _ => ?_
      omega

/-- Brackets are counted to more than nothing exactly if some end of the text opens more of them than
it closes. -/
theorem foldl_depthAfter_ne_zero_iff (cs : List Char) :
    cs.foldl depthAfter 0 ≠ 0 ↔ ∃ inner, inner <:+ cs ∧ closings inner < openings inner :=
  Nat.pos_iff_ne_zero.symm.trans (lt_foldl_depthAfter_iff cs 0)

/-! ## Commas and bars -/

/-- Commas and bars stand in brackets only if the brackets are counted to more than nothing there. -/
theorem bracketed_iff (depth after : Nat) (cs : List Char) :
    Bracketed depth cs after ↔ cs.foldl depthAfter depth = after ∧
      ∀ front c back, cs = front ++ c :: back → front.foldl depthAfter depth = 0 →
        c ≠ ',' ∧ c ≠ '|' := by
  induction cs generalizing depth with
  | nil => simp [Bracketed]
  | cons c cs ih =>
    rw [Bracketed, ih, List.foldl_cons]
    constructor
    · rintro ⟨hfirst, hend, hrest⟩
      refine ⟨hend, fun front d back heq hzero => ?_⟩
      cases front with
      | nil =>
        obtain ⟨rfl, -⟩ := List.cons.inj heq
        exact hfirst hzero
      | cons e front =>
        obtain ⟨rfl, hcs⟩ := List.cons.inj heq
        exact hrest front d back hcs hzero
    · rintro ⟨hend, hall⟩
      exact ⟨hall [] c cs rfl, hend, fun front d back heq hzero =>
        hall (c :: front) d back (heq ▸ rfl) hzero⟩

/-- A text is cut at the bar behind a part without bars that closes its brackets. -/
theorem cutAtBar?_of_not_mem (depth : Nat) (cs rest : List Char) (hbar : '|' ∉ cs)
    (hend : cs.foldl depthAfter depth = 0) :
    cutAtBar? depth (cs ++ '|' :: rest) = some (cs, rest) := by
  induction cs generalizing depth with
  | nil =>
    obtain rfl : depth = 0 := hend
    rfl
  | cons c cs ih =>
    have hc : ¬ (c = '|' ∧ depth = 0) := fun h => hbar (h.1 ▸ List.mem_cons_self)
    have hcs : '|' ∉ cs := fun h => hbar (List.mem_cons_of_mem c h)
    rw [List.cons_append, cutAtBar?, if_neg hc, ih _ hcs hend]
    rfl

/-- There is always a part. -/
theorem cutAtCommas_ne_nil (depth : Nat) (cs : List Char) : cutAtCommas depth cs ≠ [] := by
  unfold cutAtCommas
  split
  · exact List.cons_ne_nil _ _
  · split
    · exact List.cons_ne_nil _ _
    · split <;> exact List.cons_ne_nil _ _

/-- A comma outside brackets makes one part more. -/
theorem length_cutAtCommas_cons (depth : Nat) (c : Char) (cs : List Char) :
    (cutAtCommas depth (c :: cs)).length =
      (cutAtCommas (depthAfter depth c) cs).length + if c = ',' ∧ depth = 0 then 1 else 0 := by
  rw [cutAtCommas]
  by_cases hcomma : c = ',' ∧ depth = 0
  · obtain ⟨rfl, rfl⟩ := hcomma
    rfl
  · obtain ⟨first, more, hcut⟩ :=
      List.exists_cons_of_ne_nil (cutAtCommas_ne_nil (depthAfter depth c) cs)
    rw [if_neg hcomma, if_neg hcomma, hcut]
    rfl

/-- Texts put together have one part less than both. -/
theorem length_cutAtCommas_append (depth : Nat) (cs rest : List Char) :
    (cutAtCommas depth (cs ++ rest)).length + 1 =
      (cutAtCommas depth cs).length + (cutAtCommas (cs.foldl depthAfter depth) rest).length := by
  induction cs generalizing depth with
  | nil => exact Nat.add_comm _ _
  | cons c cs ih =>
    have hrest := ih (depthAfter depth c)
    rw [List.cons_append, length_cutAtCommas_cons, length_cutAtCommas_cons, List.foldl_cons]
    omega

/-- A text without bars is one part exactly if it has commas in brackets only. -/
theorem length_cutAtCommas_eq_one_iff (depth : Nat) (cs : List Char) (hbar : '|' ∉ cs) :
    (cutAtCommas depth cs).length = 1 ↔ Bracketed depth cs (cs.foldl depthAfter depth) := by
  induction cs generalizing depth with
  | nil => exact iff_of_true rfl rfl
  | cons c cs ih =>
    have hcs : '|' ∉ cs := fun h => hbar (List.mem_cons_of_mem c h)
    have hc : c ≠ '|' := fun heq => hbar (heq ▸ List.mem_cons_self)
    have hpos := List.length_pos_iff.2 (cutAtCommas_ne_nil (depthAfter depth c) cs)
    rw [length_cutAtCommas_cons, Bracketed, List.foldl_cons, ← ih _ hcs]
    by_cases hcomma : c = ',' ∧ depth = 0
    · rw [if_pos hcomma]
      exact iff_of_false (by omega) fun h => (h.1 hcomma.2).1 hcomma.1
    · have hcovered : depth = 0 → c ≠ ',' ∧ c ≠ '|' := fun hzero =>
        ⟨fun heq => hcomma ⟨heq, hzero⟩, hc⟩
      rw [if_neg hcomma, Nat.add_zero]
      exact (and_iff_right hcovered).symm

end ClosureText

/-! ## Parts of a list -/

/-- A text without bars that closes the brackets it opens, whatever commas are outside of them. -/
def ClosesBrackets (cs : List Char) : Prop :=
  '|' ∉ cs ∧ cs.foldl ClosureText.depthAfter 0 = 0

/-- Texts that close their brackets do so together. -/
theorem ClosesBrackets.append (cs rest : List Char) (h : ClosesBrackets cs)
    (hrest : ClosesBrackets rest) : ClosesBrackets (cs ++ rest) :=
  ⟨fun hmem => (List.mem_append.1 hmem).elim h.1 hrest.1, by
    rw [List.foldl_append, h.2, hrest.2]⟩

/-- Texts with commas between them close their brackets if each of them does. -/
theorem closesBrackets_intercalate (texts : List (List Char))
    (h : ∀ text ∈ texts, ClosesBrackets text) :
    ClosesBrackets (List.intercalate [','] texts) := by
  induction texts with
  | nil => exact ⟨List.not_mem_nil, rfl⟩
  | cons text texts ih =>
    have htext := h text List.mem_cons_self
    have htexts := ih fun t ht => h t (List.mem_cons_of_mem text ht)
    cases texts with
    | nil => rwa [List.intercalate_singleton]
    | cons next texts =>
      have hcomma : ClosesBrackets [','] := ⟨by decide, rfl⟩
      rw [List.intercalate_cons_cons]
      exact (htext.append _ _ hcomma).append _ _ htexts

namespace ClosureText

/-- Texts with commas between them have at least as many parts together, and if they have no more,
each text is one part. -/
theorem length_cutAtCommas_intercalate (texts : List (List Char)) (hne : texts ≠ [])
    (h : ∀ text ∈ texts, ClosesBrackets text) :
    texts.length ≤ (cutAtCommas 0 (List.intercalate [','] texts)).length ∧
      ((cutAtCommas 0 (List.intercalate [','] texts)).length = texts.length →
        ∀ text ∈ texts, (cutAtCommas 0 text).length = 1) := by
  induction texts with
  | nil => exact absurd rfl hne
  | cons text texts ih =>
    have htext := h text List.mem_cons_self
    have hpos := List.length_pos_iff.2 (cutAtCommas_ne_nil 0 text)
    cases texts with
    | nil =>
      rw [List.intercalate_singleton]
      exact ⟨hpos, fun hone => List.forall_mem_singleton.2 hone⟩
    | cons next texts =>
      obtain ⟨hmore, hall⟩ :=
        ih (List.cons_ne_nil _ _) fun t ht => h t (List.mem_cons_of_mem text ht)
      -- the parts of the first text and those of the others, with a comma between them
      have happend := length_cutAtCommas_append 0 text
        (',' :: List.intercalate [','] (next :: texts))
      have hcomma : (cutAtCommas 0 (',' :: List.intercalate [','] (next :: texts))).length =
          (cutAtCommas 0 (List.intercalate [','] (next :: texts))).length + 1 :=
        length_cutAtCommas_cons 0 ',' _
      rw [htext.2] at happend
      rw [List.intercalate_cons_cons, List.append_assoc, List.singleton_append, List.length_cons]
      refine ⟨by omega, fun hequal => List.forall_mem_cons.2 ⟨by omega, hall (by omega)⟩⟩

/-- If there are as many parts as texts, each text has commas in brackets only. -/
theorem bracketed_of_length_cutAtCommas (texts : List (List Char)) (hne : texts ≠ [])
    (h : ∀ text ∈ texts, ClosesBrackets text)
    (hlength : (cutAtCommas 0 (List.intercalate [','] texts)).length = texts.length) :
    ∀ text ∈ texts, Bracketed 0 text 0 := by
  intro text htext
  have hone := (length_cutAtCommas_intercalate texts hne h).2 hlength text htext
  obtain ⟨hbar, hend⟩ := h text htext
  have hbracketed := (length_cutAtCommas_eq_one_iff 0 text hbar).1 hone
  rwa [hend] at hbracketed

/-- If there are names, there are as many as parts. -/
theorem length_paramNames (list : List Char) (h : paramNames list ≠ []) :
    (paramNames list).length = (cutAtCommas 0 list).length := by
  rw [paramNames_eq_map list fun hnone => h (paramNames_eq_nil list hnone), List.length_map]

end ClosureText

/-! ## Types in parameter lists -/

/-- Commas that stand only where brackets are counted to more than nothing are covered. -/
theorem commasCovered_of_bracketed (after : Nat) (type : List Char) (h : Bracketed 0 type after) :
    CommasCovered type := by
  intro front back heq
  have hall := ((ClosureText.bracketed_iff 0 after type).1 h).2
  exact (ClosureText.foldl_depthAfter_ne_zero_iff front).1 fun hzero =>
    (hall front ',' back heq hzero).1 rfl

/-- A type without arrows in brackets has its commas covered. -/
theorem TypeText.commasCovered (type : List Char) (h : TypeText type) : CommasCovered type :=
  commasCovered_of_bracketed 0 type h.bracketed

namespace IsType

/-- Behind a type brackets are counted no higher than before it. -/
theorem foldl_depthAfter_le (enclosed : Bool) (type : List Char) (h : IsType enclosed type) :
    ∀ depth, type.foldl ClosureText.depthAfter depth ≤ depth := by
  induction h with
  | nil => exact fun depth => Nat.le_refl depth
  | plain enclosed c rest hc hbar hcomma below ih =>
    intro depth
    rw [List.foldl_cons, hc.depthAfter_eq]
    exact ih depth
  | arrow enclosed rest below ih =>
    intro depth
    have harrow : ClosureText.depthAfter (ClosureText.depthAfter depth '-') '>' = depth - 1 := rfl
    rw [List.foldl_cons, List.foldl_cons, harrow]
    exact Nat.le_trans (ih _) (Nat.sub_le depth 1)
  | group enclosed brackets inner rest hpair within below ihwithin ihbelow =>
    intro depth
    have hinner := ihwithin (depth + 1)
    rw [List.foldl_cons, List.foldl_append, List.foldl_cons,
      (depthAfter_bracket brackets hpair depth).1, (depthAfter_bracket brackets hpair _).2]
    exact Nat.le_trans (ihbelow _) (by omega)

/-- There is no bar in a type. -/
theorem bar_not_mem (enclosed : Bool) (type : List Char) (h : IsType enclosed type) :
    '|' ∉ type := by
  induction h with
  | nil => exact List.not_mem_nil
  | plain enclosed c rest hc hbar hcomma below ih =>
    exact fun hmem => (List.mem_cons.1 hmem).elim (fun heq => hbar heq.symm) ih
  | arrow enclosed rest below ih => simpa using ih
  | group enclosed brackets inner rest hpair within below ihwithin ihbelow =>
    have hbrackets : ∀ pair ∈ bracketPairs, '|' ≠ pair.1 ∧ '|' ≠ pair.2 := by decide
    obtain ⟨hopen, hclose⟩ := hbrackets brackets hpair
    simp [hopen, hclose, ihwithin, ihbelow]

/-- A type closes its brackets. -/
theorem closesBrackets (type : List Char) (h : IsType false type) : ClosesBrackets type :=
  ⟨h.bar_not_mem, Nat.le_zero.1 (h.foldl_depthAfter_le _ _ 0)⟩

/-- A type has commas only where brackets are counted to more than nothing if its commas are covered.
-/
theorem bracketed_iff (type : List Char) (h : IsType false type) :
    Bracketed 0 type 0 ↔ CommasCovered type := by
  refine ⟨commasCovered_of_bracketed 0 type, fun hcommas => ?_⟩
  refine (ClosureText.bracketed_iff 0 0 type).2 ⟨(closesBrackets type h).2, ?_⟩
  intro front c back heq hzero
  constructor
  · rintro rfl
    exact (ClosureText.foldl_depthAfter_ne_zero_iff front).2 (hcommas front back heq) hzero
  · rintro rfl
    have hbar : '|' ∈ type := heq ▸ List.mem_append_right front List.mem_cons_self
    exact absurd hbar h.bar_not_mem

/-- Characters that are no brackets can stand in front of any type. -/
theorem run (enclosed : Bool) (cs rest : List Char)
    (h : cs.all (fun c => decide (NoBracket c ∧ c ≠ '|' ∧ (c = ',' → enclosed = true))) = true)
    (below : IsType enclosed rest) : IsType enclosed (cs ++ rest) := by
  induction cs with
  | nil => exact below
  | cons c cs ih =>
    rw [List.all_cons, Bool.and_eq_true, decide_eq_true_iff] at h
    obtain ⟨⟨hc, hbar, hcomma⟩, hcs⟩ := h
    exact .plain enclosed c _ hc hbar hcomma (ih hcs)

end IsType

namespace Parameter

/-- A parameter with commas in brackets only has a type with commas in brackets only. -/
theorem closed_of_bracketed_text (param : Parameter) (h : Bracketed 0 param.text 0) :
    param.Closed := by
  intro type htype
  have htext : param.text = param.pattern ++ ':' :: type := by
    unfold text
    rw [htype]
  rw [htext] at h
  exact (param.bracketed_pattern.of_append 0 0 0 _ _ h).2

/-- A parameter with a type of any form closes its brackets. -/
theorem closesBrackets_text (param : Parameter) (h : ∀ type ∈ param.type?, IsType false type) :
    ClosesBrackets param.text := by
  have hpattern : ClosesBrackets param.pattern :=
    ⟨fun hmem => param.ne_of_mem_pattern '|' hmem '|' (by decide) rfl,
      ((ClosureText.bracketed_iff 0 0 _).1 param.bracketed_pattern).1⟩
  unfold text
  cases htype : param.type? with
  | none => exact hpattern
  | some type =>
    have hcolon : ClosesBrackets [':'] := ⟨by decide, rfl⟩
    exact hpattern.append _ _ (hcolon.append _ _ (h type htype).closesBrackets)

/-- What stands between the bars and the commas closes its brackets. -/
theorem closesBrackets_texts (hollow : Blanks) (params : List Parameter)
    (h : ∀ param ∈ params, ∀ type ∈ param.type?, IsType false type) :
    ∀ text ∈ texts hollow params, ClosesBrackets text := by
  intro text htext
  cases params with
  | nil =>
    obtain rfl := List.mem_singleton.1 htext
    exact ⟨hollow.not_mem '|' (by decide),
      ((ClosureText.bracketed_iff 0 0 _).1 (bracketed_hollow hollow)).1⟩
  | cons param params =>
    obtain ⟨param, hparam, rfl⟩ := List.mem_map.1 htext
    exact param.closesBrackets_text (h param hparam)

/-- The names of the parameters are read off a list exactly if the list is cut between them only. -/
theorem paramNames_texts_iff (hollow : Blanks) (params : List Parameter)
    (h : ∀ param ∈ params, ∀ type ∈ param.type?, IsType false type) :
    ClosureText.paramNames (List.intercalate [','] (texts hollow params)) = params.map name ↔
      ∀ param ∈ params, param.Closed := by
  refine ⟨fun hnames => ?_, paramNames_texts hollow params⟩
  cases params with
  | nil => exact fun param hparam => nomatch hparam
  | cons first params =>
    -- With as many names as parameters, the list is cut between the parameters only.
    have hne : ClosureText.paramNames
        (List.intercalate [','] (texts hollow (first :: params))) ≠ [] := by
      rw [hnames]
      exact List.cons_ne_nil _ _
    have hlength := ClosureText.length_paramNames _ hne
    rw [hnames, List.length_map] at hlength
    have hcount : (texts hollow (first :: params)).length = (first :: params).length :=
      List.length_map _
    have hbracketed := ClosureText.bracketed_of_length_cutAtCommas _ (texts_ne_nil _ _)
      (closesBrackets_texts hollow _ h) (hlength.symm.trans hcount.symm)
    exact fun param hparam =>
      param.closed_of_bracketed_text (hbracketed _ (List.mem_map_of_mem hparam))

end Parameter

/-! ## Headers -/

/-- What stands before the body of a closure text: perhaps the word `move`, and parameters with types
of any form between bars. -/
structure WrittenHeader where
  /-- The blanks behind `move`, if the closure begins with it. -/
  moveGap? : Option Blanks := none
  params : List Parameter
  /-- The blanks between the bars of a closure without parameters. -/
  hollow : Blanks := ⟨[], rfl⟩
  isType : ∀ param ∈ params, ∀ type ∈ param.type?, IsType false type

namespace WrittenHeader

/-- The names of the parameters. -/
def names (header : WrittenHeader) : List (List Char) := header.params.map Parameter.name

/-- What stands between the bars. -/
def list (header : WrittenHeader) : List Char :=
  List.intercalate [','] (Parameter.texts header.hollow header.params)

/-- The text of a closure with what follows the second bar. -/
def text (header : WrittenHeader) (rest : List Char) : List Char :=
  match header.moveGap? with
  | none => '|' :: (header.list ++ '|' :: rest)
  | some blanks => 'm' :: 'o' :: 'v' :: 'e' :: (blanks.1 ++ '|' :: (header.list ++ '|' :: rest))

/-- The word `move` and the blanks behind it are dropped. -/
theorem dropMove_text (header : WrittenHeader) (rest : List Char) :
    ClosureText.dropMove (header.text rest) = '|' :: (header.list ++ '|' :: rest) := by
  unfold text
  cases header.moveGap? with
  | none => rfl
  | some blanks => exact ClosureText.dropMove_move blanks _

end WrittenHeader

/-- A closure text is always taken apart into names and its body. The names are those of its
parameters exactly if the commas in the types are covered. -/
theorem ClosureText.ofText?_header (header : WrittenHeader) (gap : Blanks) (body : List Char)
    (hbody : ∀ c, body.head? = some c → isBlank c = false) :
    ∃ names, ofText? (header.text (gap.1 ++ body)) = some { params := names, body } ∧
      (names = header.names ↔
        ∀ param ∈ header.params, ∀ type ∈ param.type?, CommasCovered type) := by
  have hlist : ClosesBrackets header.list := closesBrackets_intercalate _
    (Parameter.closesBrackets_texts header.hollow header.params header.isType)
  have hcut := cutAtBar?_of_not_mem 0 header.list (gap.1 ++ body) hlist.1 hlist.2
  refine ⟨paramNames header.list, ?_, ?_⟩
  · rw [ofText?_of_cutAtBar? _ _ _ (header.dropMove_text _) hcut, trimLeft_append gap body hbody]
  · refine (Parameter.paramNames_texts_iff header.hollow header.params header.isType).trans ?_
    refine forall₂_congr fun param hparam => forall₂_congr fun type htype => ?_
    exact (header.isType param hparam type htype).bracketed_iff

namespace Demo

/-- The type of a function that takes two numbers, in a box. -/
theorem isType_boxed : IsType false " Box<dyn Fn(u8, u8) -> u8>".toList :=
  .run false " Box".toList _ (by decide) <|
  .group false ('<', '>') "dyn Fn(u8, u8) -> u8".toList [] (by decide)
    (.run true "dyn Fn".toList _ (by decide) <|
    .group true ('(', ')') "u8, u8".toList _ (by decide)
      (.run true "u8, u8".toList [] (by decide) (.nil true)) <|
    .run true [' '] _ (by decide) <|
    .arrow true _ <|
    .run true " u8".toList [] (by decide) (.nil true))
    (.nil false)

/-- The type of a map with functions for keys. -/
theorem isType_keyed : IsType false " Map<fn(u8) -> u8, u8>".toList :=
  .run false " Map".toList _ (by decide) <|
  .group false ('<', '>') "fn(u8) -> u8, u8".toList [] (by decide)
    (.run true "fn".toList _ (by decide) <|
    .group true ('(', ')') "u8".toList _ (by decide)
      (.run true "u8".toList [] (by decide) (.nil true)) <|
    .run true [' '] _ (by decide) <|
    .arrow true _ <|
    .run true " u8, u8".toList [] (by decide) (.nil true))
    (.nil false)

/-- A parameter `f` with a type. -/
def functionParameter (type : List Char) : Parameter :=
  { bareParameter with
    name := ['f']
    type? := some type
    name_ne_nil := by decide
    name_letters := by decide +kernel }

/-- The header `move |f: T, &mut n|` with a type `T`. -/
def functionHeader (type : List Char) (h : IsType false type) : WrittenHeader where
  moveGap? := lookupClosure.moveGap?
  params := [functionParameter type, mutableParameter]
  hollow := lookupClosure.hollow
  isType := by
    intro param hparam written hwritten
    simp only [List.mem_cons, List.not_mem_nil, or_false] at hparam
    rcases hparam with rfl | rfl
    · obtain rfl : type = written := Option.some.inj hwritten
      exact h
    · cases hwritten

/-- The arrow in `move |f: Box<dyn Fn(u8, u8) -> u8>, &mut n| f(n, n)` does no harm. -/
theorem ofText?_boxed :
    (∀ c, "f(n, n)".toList.head? = some c → isBlank c = false) ∧
      (functionHeader _ isType_boxed).text (' ' :: "f(n, n)".toList) =
        "move |f: Box<dyn Fn(u8, u8) -> u8>, &mut n| f(n, n)".toList ∧
      ClosureText.ofText? "move |f: Box<dyn Fn(u8, u8) -> u8>, &mut n| f(n, n)".toList =
        some { params := [['f'], ['n']], body := "f(n, n)".toList } := by
  have hbody : ∀ c, "f(n, n)".toList.head? = some c → isBlank c = false := by
    rintro c ⟨⟩
    decide
  obtain ⟨names, hread, hnames⟩ :=
    ClosureText.ofText?_header (functionHeader _ isType_boxed) ⟨[' '], rfl⟩ _ hbody
  have hcovered : CommasCovered " Box<dyn Fn(u8, u8) -> u8>".toList :=
    isType_boxed.bracketed_iff.1 (by decide)
  have hheader : names = [['f'], ['n']] := hnames.2 fun param hparam type htype => by
    rcases List.mem_cons.1 hparam with rfl | hparam
    · obtain rfl := Option.some.inj htype
      exact hcovered
    · obtain rfl := List.mem_singleton.1 hparam
      cases htype
  exact ⟨hbody, rfl, hheader ▸ hread⟩

/-- The arrow in `move |f: Map<fn(u8) -> u8, u8>, &mut n| n` closes the bracket before the comma for
the reader, which finds three names. -/
theorem ofText?_keyed :
    (functionHeader _ isType_keyed).text " n".toList =
        "move |f: Map<fn(u8) -> u8, u8>, &mut n| n".toList ∧
      (functionHeader _ isType_keyed).names = [['f'], ['n']] ∧
      ClosureText.ofText? "move |f: Map<fn(u8) -> u8, u8>, &mut n| n".toList =
        some { params := [['f'], "u8>".toList, ['n']], body := ['n'] } :=
  ⟨rfl, rfl, rfl⟩

end Demo

end DataShape
