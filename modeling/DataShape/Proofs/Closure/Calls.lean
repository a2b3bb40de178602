import DataShape.Proofs.Closure.NestedClosures

/-!
# Which closures are called

A closure is called, and not inlined, if its body is a block or has a result type before it, or if a
closure is nested in it. `ClosureText.called_iff_nestsClosure` says that these are all that are called,
if the body is read as it is (`Readable`).

What comes out of a closure that is inlined may be spelled as a call by chance. Not with empty
replacements: then it is no longer than the body, and a call has the whole closure in it
(`ClosureText.inlineText_ne_call`).
-/

namespace DataShape

namespace ClosureText

/-! ## Calls are longer than bodies -/

/-- The body is an end of the closure text. -/
theorem body_suffix (cs : List Char) (closure : ClosureText) (h : ofText? cs = some closure) :
    closure.body <:+ cs := by
  obtain ⟨rest, hrest, hbody⟩ := exists_body_eq_trimLeft cs closure h
  rw [hbody]
  exact (List.dropWhile_suffix isBlank).trans hrest

/-- Nothing is shorter than empty texts in the holes of a template. -/
theorem length_fill_replicate_le (m : Nat) (params : List (List Char)) (pieces : List Piece) :
    (pieces.flatMap (Piece.fill (List.replicate m []))).length ≤
      (pieces.flatMap (Piece.fill params)).length := by
  induction pieces with
  | nil => exact Nat.le_refl _
  | cons piece pieces ih =>
    have hpiece : (piece.fill (List.replicate m [])).length ≤ (piece.fill params).length := by
      cases piece with
      | text cs => exact Nat.le_refl _
      | slot i =>
        have hempty : (Piece.slot i).fill (List.replicate m []) = [] := by
          show (List.replicate m [])[i]?.getD [] = []
          rw [List.getElem?_replicate]
          split <;> rfl
        rw [hempty]
        exact Nat.zero_le _
    rw [List.flatMap_cons, List.flatMap_cons, List.length_append, List.length_append]
    omega

/-- With empty replacements, a closure is inlined to no more than its body. -/
theorem length_inlineText_le (source : String) (closure : ClosureText)
    (hclosure : ofText? (trim source.toList) = some closure) (m : Nat)
    (h : closure.template? m ≠ none) :
    (inlineText source (List.replicate m "")).length ≤ closure.body.length := by
  obtain ⟨pieces, hpieces⟩ := Option.ne_none_iff_exists'.1 h
  have hinlined := inlineText_of_template?_eq_some source closure hclosure (List.replicate m "")
    pieces (by rw [List.length_replicate]; exact hpieces)
  have hbody := flatMap_fill_pieces? closure.params m _ [] _
    (pieces?_of_template? closure m _ hpieces)
  have hfill := length_fill_replicate_le m closure.params pieces
  have htrim : ∀ cs, (trimRight cs).length ≤ cs.length := fun cs =>
    (List.rdropWhile_prefix isBlank cs).length_le
  rw [Token.flatMap_text_ofText] at hbody
  rw [hbody] at hfill
  rw [hinlined, List.map_replicate, String.length_ofList]
  exact Nat.le_trans (htrim _) hfill

/-- A call has the whole closure in it, and brackets around it. -/
theorem length_lt_call (source : String) (args : List String) :
    (trim source.toList).length < (call source args).length := by
  have hopen : "(".length = 1 := rfl
  unfold call
  simp only [String.length_append, String.length_ofList]
  omega

/-- A closure with a template is not called with empty replacements. -/
theorem inlineText_ne_call (source : String) (closure : ClosureText)
    (hclosure : ofText? (trim source.toList) = some closure) (m : Nat)
    (h : closure.template? m ≠ none) :
    inlineText source (List.replicate m "") ≠ call source (List.replicate m "") := by
  intro hcall
  have hinlined := length_inlineText_le source closure hclosure m h
  have hbody := (body_suffix _ closure hclosure).length_le
  have hlong := length_lt_call source (List.replicate m "")
  rw [hcall] at hinlined
  omega

end ClosureText

/-! ## Which closures are called -/

/-- A body that begins as a block or as a result type. -/
def BeginsBlock (body : List Char) : Prop := "\x7b".toList <+: body ∨ "->".toList <+: body

namespace ClosureText

/-- A closure is called if its body begins as a block or as a result type or has a closure in it. -/
theorem template?_eq_none_iff_nestsClosure (closure : ClosureText) (lexemes : List Lexeme)
    (hbody : ¬ BeginsBlock closure.body → Lexed closure.body lexemes ∧ Readable none lexemes)
    (m : Nat) :
    closure.template? m = none ↔ BeginsBlock closure.body ∨ NestsClosure none lexemes := by
  have hblock : closure.hasBlockBody = true ↔ BeginsBlock closure.body := by
    unfold hasBlockBody BeginsBlock
    rw [Bool.or_eq_true, List.isPrefixOf_iff_prefix, List.isPrefixOf_iff_prefix]
  unfold template?
  by_cases hbegins : BeginsBlock closure.body
  · rw [if_pos (hblock.2 hbegins)]
    exact iff_of_true rfl (.inl hbegins)
  · obtain ⟨hlexed, hreadable⟩ := hbody hbegins
    have hfinds := findsClosure_iff_nestsClosure closure.body lexemes hlexed [] none rfl
      (fun c hc => nomatch hc) hreadable
    rw [if_neg fun h => hbegins (hblock.1 h), or_iff_right hbegins, ← hfinds]
    exact pieces?_eq_none_iff _ _ _ _ _ _

/-- A closure text is called, and not inlined, exactly if its body begins as a block or as a result
type or has a closure in it. For each number of replacements, it has no template then, and with any
replacements a call is what comes out. -/
theorem called_iff_nestsClosure (source : String) (closure : ClosureText) (lexemes : List Lexeme)
    (hclosure : ofText? (trim source.toList) = some closure)
    (hbody : ¬ BeginsBlock closure.body → Lexed closure.body lexemes ∧ Readable none lexemes)
    (m : Nat) :
    (closure.template? m = none ↔ BeginsBlock closure.body ∨ NestsClosure none lexemes) ∧
      ((∀ replacements : List String, replacements.length = m →
          inlineText source replacements = call source replacements) ↔
        BeginsBlock closure.body ∨ NestsClosure none lexemes) := by
  have htemplate := closure.template?_eq_none_iff_nestsClosure lexemes hbody m
  refine ⟨htemplate, ?_⟩
  rw [← htemplate]
  constructor
  · intro hcalled
    by_contra hinlined
    exact inlineText_ne_call source closure hclosure m hinlined
      (hcalled _ (List.length_replicate))
  · rintro hnone replacements rfl
    exact inlineText_of_template?_eq_none source closure hclosure replacements hnone

end ClosureText

namespace Demo

/-- The lexemes of `v | n(|n| n)`. -/
def shadowingLexemes : List Lexeme :=
  [.word false ['v'], .blank ' ', .bar false, .blank ' ', .word false ['n'], .mark '(', .bar false,
    .word false ['n'], .bar false, .blank ' ', .word false ['n'], .mark ')']

/-- The closure `|v, n| v | n(|n| n)`, taken apart. -/
def shadowingClosure : ClosureText where
  params := [['v'], ['n']]
  body := "v | n(|n| n)".toList

/-- A mark that is neither a point nor a slash can stand before anything. -/
theorem mark_wellFormed (c : Char) (rest : List Char)
    (h : (isBlank c || isWordLetter c) = false ∧ c ∉ ['"', '\'', '|', '.', '/']) :
    (Lexeme.mark c).WellFormed rest := by
  obtain ⟨hplain, hmark⟩ := h
  simp only [List.mem_cons, List.not_mem_nil, or_false, not_or] at hmark
  obtain ⟨hquote, htick, hbar, hpoint, hslash⟩ := hmark
  exact ⟨hplain, by simp [hquote, htick, hbar], fun heq => absurd heq hpoint,
    fun heq => absurd heq hslash⟩

/-- The body of `shadowingClosure` has the lexemes that are listed for it. -/
theorem lexed_shadowingLexemes : Lexed shadowingClosure.body shadowingLexemes :=
  .cons (.word false ['v']) _ _ ⟨by decide +kernel, by decide +kernel⟩ <|
  .cons (.blank ' ') _ _ rfl <|
  .cons (.bar false) _ _ (fun _ => by decide) <|
  .cons (.blank ' ') _ _ rfl <|
  .cons (.word false ['n']) _ _ ⟨by decide +kernel, by decide +kernel⟩ <|
  .cons (.mark '(') _ _ (mark_wellFormed _ _ (by decide +kernel)) <|
  .cons (.bar false) _ _ (fun _ => by decide) <|
  .cons (.word false ['n']) _ _ ⟨by decide +kernel, by decide +kernel⟩ <|
  .cons (.bar false) _ _ (fun _ => by decide) <|
  .cons (.blank ' ') _ _ rfl <|
  .cons (.word false ['n']) _ _ ⟨by decide +kernel, by decide +kernel⟩ <|
  .cons (.mark ')') _ _ (mark_wellFormed _ _ (by decide +kernel)) .nil

/-- The first bar in the body of `|v, n| v | n(|n| n)` is an operator, and the second one opens a
closure. So the closure is called, whatever the replacements. -/
theorem called_shadowingClosure :
    ClosureText.ofText? (ClosureText.trim "|v, n| v | n(|n| n)".toList) = some shadowingClosure ∧
      Lexed shadowingClosure.body shadowingLexemes ∧ Readable none shadowingLexemes ∧
      ∀ replacements : List String, replacements.length = 2 →
        ClosureText.inlineText "|v, n| v | n(|n| n)" replacements =
          ClosureText.call "|v, n| v | n(|n| n)" replacements := by
  have hclosure : ClosureText.ofText? (ClosureText.trim "|v, n| v | n(|n| n)".toList) =
      some shadowingClosure := rfl
  have hreadable : Readable none shadowingLexemes := by decide +kernel
  have hcalled := ClosureText.called_iff_nestsClosure _ shadowingClosure shadowingLexemes hclosure
    (fun _ => ⟨lexed_shadowingLexemes, hreadable⟩) 2
  exact ⟨hclosure, lexed_shadowingLexemes, hreadable, hcalled.2.2 (.inr (by decide +kernel))⟩

/-- The lexemes of `S{f:|v|v}`. -/
def fieldLexemes : List Lexeme :=
  [.word false ['S'], .mark '\x7b', .word false ['f'], .mark ':', .bar false, .word false ['v'],
    .bar false, .word false ['v'], .mark '\x7d']

/-- The closure `|v| S{f:|v|v}`, taken apart. -/
def fieldClosure : ClosureText where
  params := [['v']]
  body := "S\x7bf:|v|v\x7d".toList

/-- The body of `fieldClosure` has the lexemes that are listed for it. -/
theorem lexed_fieldLexemes : Lexed fieldClosure.body fieldLexemes :=
  .cons (.word false ['S']) _ _ ⟨by decide +kernel, by decide +kernel⟩ <|
  .cons (.mark '\x7b') _ _ (mark_wellFormed _ _ (by decide +kernel)) <|
  .cons (.word false ['f']) _ _ ⟨by decide +kernel, by decide +kernel⟩ <|
  .cons (.mark ':') _ _ (mark_wellFormed _ _ (by decide +kernel)) <|
  .cons (.bar false) _ _ (fun _ => by decide) <|
  .cons (.word false ['v']) _ _ ⟨by decide +kernel, by decide +kernel⟩ <|
  .cons (.bar false) _ _ (fun _ => by decide) <|
  .cons (.word false ['v']) _ _ ⟨by decide +kernel, by decide +kernel⟩ <|
  .cons (.mark '\x7d') _ _ (mark_wellFormed _ _ (by decide +kernel)) .nil

/-- The tokens that are read off the body of `fieldClosure`. -/
theorem ofText_fieldClosure : Token.ofText fieldClosure.body =
    [.word ['S'], .mark '\x7b', .word ['f'], .mark ':', .mark '|', .word ['v'], .mark '|',
      .word ['v'], .mark '\x7d'] := by
  refine (Token.ofText_cons 'S' _ (.word ['S']) _ rfl).trans (congrArg _ ?_)
  refine (Token.ofText_cons '\x7b' _ (.mark '\x7b') _ rfl).trans (congrArg _ ?_)
  refine (Token.ofText_cons 'f' _ (.word ['f']) _ rfl).trans (congrArg _ ?_)
  refine (Token.ofText_cons ':' _ (.mark ':') _ rfl).trans (congrArg _ ?_)
  refine (Token.ofText_cons '|' _ (.mark '|') _ rfl).trans (congrArg _ ?_)
  refine (Token.ofText_cons 'v' _ (.word ['v']) _ rfl).trans (congrArg _ ?_)
  refine (Token.ofText_cons '|' _ (.mark '|') _ rfl).trans (congrArg _ ?_)
  refine (Token.ofText_cons 'v' _ (.word ['v']) _ rfl).trans (congrArg _ ?_)
  refine (Token.ofText_cons '\x7d' _ (.mark '\x7d') _ rfl).trans (congrArg _ ?_)
  exact Token.ofText_nil

/-- In the body of `|v| S{f:|v|v}` a closure opens behind a colon, but the reader takes its first bar
for an operator and puts the replacement in the place of the parameter of the inner closure. -/
theorem inlineText_fieldClosure :
    ClosureText.ofText? (ClosureText.trim "|v| S\x7bf:|v|v\x7d".toList) = some fieldClosure ∧
      Lexed fieldClosure.body fieldLexemes ∧ NestsClosure none fieldLexemes ∧
      ClosureText.inlineText "|v| S\x7bf:|v|v\x7d" ["x"] = "S\x7bf:|x|x\x7d" ∧
      ClosureText.call "|v| S\x7bf:|v|v\x7d" ["x"] = "(|v| S\x7bf:|v|v\x7d)(x)" := by
  have htemplate : fieldClosure.template? 1 = some
      [.text ['S'], .text ['\x7b'], .text ['f'], .text [':'], .text ['|'], .slot 0, .text ['|'],
        .slot 0, .text ['\x7d']] := by
    unfold ClosureText.template?
    rw [ofText_fieldClosure]
    decide +kernel
  have hclosure : ClosureText.ofText? (ClosureText.trim "|v| S\x7bf:|v|v\x7d".toList) =
      some fieldClosure := rfl
  have hinlined :=
    ClosureText.inlineText_of_template?_eq_some _ fieldClosure hclosure ["x"] _ htemplate
  exact ⟨hclosure, lexed_fieldLexemes, by decide +kernel, hinlined.trans (by decide), by decide⟩

end Demo

end DataShape
