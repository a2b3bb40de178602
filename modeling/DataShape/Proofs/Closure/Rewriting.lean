import DataShape.Closure.Inline
import DataShape.Proofs.Closure.Header

/-!
# Inlining is rewriting

`rewrite` says what a body is with replacements for words: of its tokens, those that are words with
a replacement and name no member are replaced, and all others stay.
`ClosureText.inlineText_eq_rewrite` is the main result. For a closure text as it is written and any
replacements, inlining is `rewrite` of the body's tokens.

Where the reader of a text takes a token for something else, this fails. `Legible` says when it does
not: no character literal is an escaped tick, a word with letters beyond ASCII has no piece with a
replacement, and no bar stands where an operand is awaited, as one that begins a closure does.
-/

namespace DataShape

/-! ## Rewriting tokens -/

/-- The word behind a text names a member: up to blanks the text ends in one point or two colons. -/
def NamesMember (before : List Char) : Prop :=
  ['.'] <:+ ClosureText.trimRight before ∧ ¬ ['.', '.'] <:+ ClosureText.trimRight before ∨
    [':', ':'] <:+ ClosureText.trimRight before

instance (before : List Char) : Decidable (NamesMember before) :=
  inferInstanceAs (Decidable (_ ∧ _ ∨ _))

/-- A token with the words that are bound replaced, given the text before it. -/
def Token.rewrite (bindings : List (List Char × List Char)) (before : List Char) :
    Token → List Char
  | .literal text => text
  | .word w => if NamesMember before then w else (bindings.lookup w).getD w
  | .mark c => [c]

/-- Tokens with the words that are bound replaced, given the text before them. -/
def rewrite (bindings : List (List Char × List Char)) (before : List Char) :
    List Token → List Char
  | [] => []
  | token :: rest => token.rewrite bindings before ++ rewrite bindings (before ++ token.text) rest

/-! ## What is read as it is spelled -/

/-- Cut at its letters beyond ASCII, a word has no piece that is bound and none that begins a
literal with what follows the word. -/
inductive PiecesFree (bound : List (List Char)) (after : List Char) : List Char → Prop
  | nil : PiecesFree bound after []
  | letter (c : Char) (rest : List Char) (hpart : Token.isWordPart c = false)
      (below : PiecesFree bound after rest) : PiecesFree bound after (c :: rest)
  | piece (c : Char) (run rest : List Char) (hrun : ∀ d ∈ c :: run, Token.isWordPart d = true)
      (hmaximal : ∀ d, rest.head? = some d → Token.isWordPart d = false)
      (hfree : c :: run ∉ bound) (hopens : ¬ OpensLiteral (c :: run) (rest ++ after))
      (below : PiecesFree bound after rest) : PiecesFree bound after (c :: run ++ rest)

/-- An operand is awaited behind a text: up to blanks it is empty, or ends in an opening bracket, a
separator or an operator, or in `move` or `return`. -/
def AwaitsOperand (before : List Char) : Prop :=
  ClosureText.trimRight before = [] ∨
    (∃ c ∈ ClosureText.operandMarks, [c] <:+ ClosureText.trimRight before) ∨
      "move".toList <:+ ClosureText.trimRight before ∨
        "return".toList <:+ ClosureText.trimRight before

instance (before : List Char) : Decidable (AwaitsOperand before) :=
  have := List.decidableBEx (fun c => [c] <:+ ClosureText.trimRight before) ClosureText.operandMarks
  inferInstanceAs (Decidable (_ ∨ _))

/-- A token that is read as it is spelled, given the texts before and after it. -/
def Token.Legible (bound : List (List Char)) (before after : List Char) : Token → Prop
  | .literal text => text ∉ ["'\\''".toList, "b'\\''".toList]
  | .word w => (∀ c ∈ w, isWordPart c = true) ∨ (w ∉ bound ∧ PiecesFree bound after w)
  | .mark c => c = '|' → ¬ AwaitsOperand before

/-- Tokens that are read as they are spelled, given the text before them. -/
def Legible (bound : List (List Char)) (before : List Char) : List Token → Prop
  | [] => True
  | token :: rest =>
    token.Legible bound before (rest.flatMap Token.text) ∧ Legible bound (before ++ token.text) rest

/-! ## Words and bars -/

/-- A character that is none of a word is no letter of ASCII. -/
theorem not_isWordPart_of_not_isWordLetter (c : Char) (h : isWordLetter c = false) :
    Token.isWordPart c = false :=
  Bool.eq_false_iff.2 fun hpart =>
    Bool.false_ne_true (h.symm.trans (isWordLetter_of_isWordPart c hpart))

namespace ClosureText

/-- The end of a text, up to blanks, is read from behind. -/
theorem suffix_trimRight_iff (ending before : List Char) :
    ending <:+ trimRight before ↔ ending.reverse <+: before.reverse.dropWhile isBlank := by
  unfold trimRight
  rw [← List.reverse_prefix, List.reverse_reverse]

/-- Whether a word names a member is read off the text before it. -/
theorem isMember_iff (before : List Char) :
    isMember before.reverse = true ↔ NamesMember before := by
  unfold isMember NamesMember
  rw [suffix_trimRight_iff, suffix_trimRight_iff, suffix_trimRight_iff]
  simp only [List.reverse_cons, List.reverse_nil, List.nil_append, List.singleton_append]
  split
  · rename_i hkept
    simp [hkept]
  · rename_i kept hone hkept
    have hsecond : ¬ ['.'] <+: kept := fun ⟨rest, hrest⟩ => hone rest hrest.symm
    simp [hkept, hsecond]
  · rename_i hkept
    simp [hkept]
  · rename_i hpoint hcolons
    refine iff_of_false Bool.false_ne_true ?_
    rintro (⟨⟨rest, hrest⟩, -⟩ | ⟨rest, hrest⟩)
    · exact hpoint rest hrest.symm
    · exact hcolons rest hrest.symm

/-- A bar opens a closure where an operand is awaited. -/
theorem opensClosure_iff (before : List Char) :
    opensClosure before.reverse = true ↔ AwaitsOperand before := by
  have hempty : trimRight before = [] ↔ before.reverse.dropWhile isBlank = [] :=
    List.reverse_eq_nil_iff
  unfold opensClosure AwaitsOperand
  rw [hempty]
  simp only [suffix_trimRight_iff]
  cases before.reverse.dropWhile isBlank with
  | nil => simp
  | cons c cs => simp [or_assoc]

/-! ## Filling pieces -/

/-- Looking a name up among names and values put together is looking for its place. -/
theorem lookup_zip (names values : List (List Char)) (name : List Char) :
    (names.zip values).lookup name = (names.idxOf? name).bind (values[·]?) := by
  induction names generalizing values with
  | nil => rfl
  | cons first names ih =>
    cases values with
    | nil => simp
    | cons value values =>
      rw [List.zip_cons_cons, List.idxOf?_cons, List.lookup_cons]
      by_cases heq : first = name
      · simp [heq]
      · have hne : (name == first) = false := beq_eq_false_iff_ne.2 (Ne.symm heq)
        have hne' : (first == name) = false := beq_eq_false_iff_ne.2 heq
        rw [hne, hne', ih]
        cases names.idxOf? name with
        | none => rfl
        | some i => rfl

/-- A name that is not bound is not found. -/
theorem lookup_eq_none (bindings : List (List Char × List Char)) (name : List Char)
    (h : name ∉ bindings.map Prod.fst) : bindings.lookup name = none :=
  List.lookup_eq_none_iff.2 fun _ hbinding =>
    bne_iff_ne.2 fun heq => h (heq ▸ List.mem_map_of_mem hbinding)

/-- The pieces of tokens with the replacements put in, given the text before the tokens from its
end. -/
def filled? (params replacements : List (List Char)) (before : List Char) (tokens : List Token) :
    Option (List Char) :=
  (pieces? params replacements.length before tokens).map
    (List.flatMap (Piece.fill replacements))

section

variable (params replacements : List (List Char)) (before : List Char) (rest : List Token)

/-- A literal stays. -/
theorem filled?_literal (text : List Char) :
    filled? params replacements before (.literal text :: rest) =
      (filled? params replacements (text.reverse ++ before) rest).map (text ++ ·) := by
  unfold filled?
  rw [pieces?, Option.map_map, Option.map_map]
  rfl

/-- A single character stays, unless it is a bar that opens a closure. -/
theorem filled?_mark (c : Char) (h : c = '|' → opensClosure before = false) :
    filled? params replacements before (.mark c :: rest) =
      (filled? params replacements (c :: before) rest).map (c :: ·) := by
  have hbar : ¬ (decide (c = '|') && opensClosure before) = true := by
    rw [Bool.and_eq_true, decide_eq_true_iff]
    rintro ⟨rfl, hopens⟩
    exact Bool.false_ne_true ((h rfl).symm.trans hopens)
  unfold filled?
  rw [pieces?, if_neg hbar, Option.map_map, Option.map_map]
  rfl

/-- A word is replaced if it is bound and names no member. -/
theorem filled?_word (w : List Char) :
    filled? params replacements before (.word w :: rest) =
      (filled? params replacements (w.reverse ++ before) rest).map
        ((if isMember before then w else ((params.zip replacements).lookup w).getD w) ++ ·) := by
  have hpiece : (wordPiece params replacements.length before w).fill replacements =
      if isMember before then w else ((params.zip replacements).lookup w).getD w := by
    unfold wordPiece
    rw [lookup_zip]
    cases params.idxOf? w with
    | none => simp [Piece.fill]
    | some i =>
      by_cases hlt : i < replacements.length
      · cases isMember before <;> simp [Piece.fill, hlt]
      · simp [Piece.fill, hlt]
  unfold filled?
  rw [pieces?, Option.map_map, Option.map_map, ← hpiece]
  rfl

end

/-! ## Filling expressions -/

/-- A word whose pieces are free stays. -/
theorem filled?_of_piecesFree (params replacements : List (List Char)) (before w rest : List Char)
    (hletters : ∀ c ∈ w, isWordLetter c = true)
    (hmaximal : ∀ c, rest.head? = some c → isWordLetter c = false)
    (h : PiecesFree ((params.zip replacements).map Prod.fst) rest w) :
    filled? params replacements before (Token.ofText (w ++ rest)) =
      (filled? params replacements (w.reverse ++ before) (Token.ofText rest)).map (w ++ ·) := by
  induction h generalizing before with
  | nil =>
    show _ = (filled? params replacements before (Token.ofText rest)).map id
    rw [Option.map_id_fun]
    rfl
  | letter c tail hpart below ih =>
    have hc : isWordLetter c = true := hletters c List.mem_cons_self
    have hne : ∀ d, isWordLetter d = false → c ≠ d := fun d hd heq =>
      Bool.false_ne_true (hd.symm.trans (heq ▸ hc))
    have htail := ih (c :: before) fun d hd => hletters d (List.mem_cons_of_mem c hd)
    have hnext := Token.next_mark c (tail ++ rest) (hne _ (by decide +kernel))
      (hne _ (by decide +kernel)) hpart
    rw [List.cons_append, Token.ofText_cons c _ _ _ hnext, filled?_mark _ _ _ _ c
      fun heq => absurd heq (hne _ (by decide +kernel)), htail, Option.map_map,
      List.reverse_cons, List.append_assoc]
    rfl
  | piece c run tail hrun hstop hfree hopens below ih =>
    have hhead : ∀ d, (tail ++ rest).head? = some d → Token.isWordPart d = false := by
      intro d hd
      rw [List.head?_append, Option.or_eq_some_iff] at hd
      rcases hd with hd | ⟨-, hd⟩
      · exact hstop d hd
      · exact not_isWordPart_of_not_isWordLetter d (hmaximal d hd)
    have hlookup := lookup_eq_none _ _ hfree
    have htail := ih ((c :: run).reverse ++ before) fun d hd =>
      hletters d (List.mem_append_right _ hd)
    have hnext := Token.next_word c run _ hrun hhead hopens
    rw [List.append_assoc, List.cons_append, Token.ofText_cons c _ _ _ hnext, filled?_word, hlookup,
      htail, Option.map_map, List.reverse_append, List.append_assoc]
    simp [Function.comp_def]

/-- The pieces of an expression with the replacements put in are its tokens rewritten, if it is read
as it is spelled. -/
theorem filled?_ofText (params replacements : List (List Char)) (before cs : List Char)
    (tokens : List Token) (h : Spelled cs tokens)
    (hlegible : Legible ((params.zip replacements).map Prod.fst) before tokens) :
    filled? params replacements before.reverse (Token.ofText cs) =
      some (rewrite (params.zip replacements) before tokens) := by
  -- bars and members are judged by the text before them, which grows with every token
  induction h generalizing before with
  | nil =>
    rw [Token.ofText_nil]
    rfl
  | mark c rest tokens hletter hquote htick below ih =>
    have hpart := not_isWordPart_of_not_isWordLetter c hletter
    have hbar : c = '|' → opensClosure before.reverse = false := fun heq =>
      Bool.eq_false_iff.2 fun hopens => hlegible.1 heq ((opensClosure_iff before).1 hopens)
    have hrest := ih (before ++ [c]) hlegible.2
    rw [List.reverse_append, List.reverse_singleton, List.singleton_append] at hrest
    rw [Token.ofText_cons c _ _ _ (Token.next_mark c rest hquote htick hpart),
      filled?_mark _ _ _ _ c hbar, hrest]
    rfl
  | word w rest tokens hne hletters hmaximal hopens below ih =>
    have hrest := ih (before ++ w) hlegible.2
    rw [List.reverse_append] at hrest
    rcases hlegible.1 with hword | ⟨hunbound, hpieces⟩
    · -- a word of ASCII is read as one token
      obtain ⟨c, run, rfl⟩ := List.exists_cons_of_ne_nil hne
      have hhead := fun d hd => not_isWordPart_of_not_isWordLetter d (hmaximal d hd)
      have hnext := Token.next_word c run rest hword hhead hopens
      rw [List.cons_append, Token.ofText_cons c _ _ _ hnext, filled?_word, hrest]
      simp only [isMember_iff]
      rfl
    · -- any other word is read as several tokens, and each of them stays
      have hstays : Token.rewrite (params.zip replacements) before (.word w) = w := by
        unfold Token.rewrite
        dsimp only
        rw [lookup_eq_none _ _ hunbound, Option.getD_none, ite_self]
      rw [below.flatMap_text] at hpieces
      rw [filled?_of_piecesFree _ _ _ w _ hletters hmaximal hpieces, hrest, rewrite, hstays]
      rfl
  | literal text rest tokens htext below ih =>
    obtain ⟨c, tail, rfl, hnext⟩ := Token.readsLiteral text rest htext hlegible.1
    have hrest := ih (before ++ c :: tail) hlegible.2
    rw [List.reverse_append] at hrest
    rw [List.cons_append, Token.ofText_cons c _ _ _ hnext, filled?_literal, hrest]
    rfl

end ClosureText

/-! ## Inlining -/

/-- The names of a closure's parameters with the replacements there are for them. -/
def WrittenClosure.bindings (closure : WrittenClosure) (replacements : List String) :
    List (List Char × List Char) :=
  closure.names.zip (replacements.map String.toList)

/-- Inlining a closure text puts the replacements into the pieces of its body. -/
theorem ClosureText.inlineText_of_filled (closure : WrittenClosure) (replacements : List String)
    (filled : List Char) (hclosed : closure.Closed)
    (h : filled? closure.names (replacements.map String.toList) [] (Token.ofText closure.body) =
      some filled) :
    inlineText closure.source replacements = String.ofList (trimRight filled) := by
  obtain ⟨pieces, hpieces, rfl⟩ := Option.map_eq_some_iff.1 h
  rw [List.length_map] at hpieces
  have hplain : hasBlockBody { params := closure.names, body := closure.body } = false := by
    unfold hasBlockBody
    rw [Bool.or_eq_false_iff, Bool.eq_false_iff, Bool.eq_false_iff]
    exact ⟨fun h => closure.no_block (List.isPrefixOf_iff_prefix.1 h),
      fun h => closure.no_result (List.isPrefixOf_iff_prefix.1 h)⟩
  have htemplate : template? { params := closure.names, body := closure.body }
      replacements.length = some pieces := by
    unfold template?
    rw [if_neg (by rw [hplain]; decide)]
    exact hpieces
  unfold inlineText
  dsimp only
  rw [ofText?_source closure hclosed]
  dsimp only
  rw [htemplate]

/-- Inlining a closure text puts the replacements in the places of the words that are bound and name
no member, all at once, and leaves the rest of the body as it is. -/
theorem ClosureText.inlineText_eq_rewrite (closure : WrittenClosure) (tokens : List Token)
    (replacements : List String) (hspelled : Spelled closure.body tokens)
    (hclosed : closure.Closed)
    (hlegible : Legible ((closure.bindings replacements).map Prod.fst) [] tokens) :
    inlineText closure.source replacements =
      String.ofList (trimRight (rewrite (closure.bindings replacements) [] tokens)) :=
  inlineText_of_filled closure replacements _ hclosed
    (filled?_ofText closure.names _ [] closure.body tokens hspelled hlegible)

namespace Demo

/-- The parameter `v` with a type. -/
def typedParameter : Parameter where
  name := ['v']
  type? := some " Map<K, V>".toList
  name_ne_nil := by decide
  name_letters := by decide +kernel

/-- The parameter `n`, mutable and behind a reference. -/
def mutableParameter : Parameter where
  lead := ⟨[' '], rfl⟩
  refs := 1
  mutGap? := some ⟨[], rfl⟩
  name := ['n']
  name_ne_nil := by decide
  name_letters := by decide +kernel

/-- The tokens of the body of `lookupClosure`. -/
def lookupTokens : List Token :=
  [.word ['v'], .mark '.', .word ['n'], .mark '(', .literal "\"v\"".toList, .mark ',', .mark ' ',
    .word ['n'], .mark ')', .mark ' ', .mark '|', .mark '|', .mark ' ', .word "été".toList]

/-- A closure with a member that has a parameter's name, a string and a word beyond ASCII. -/
def lookupClosure : WrittenClosure where
  lead := ⟨[' '], rfl⟩
  moveGap? := some ⟨[' '], rfl⟩
  params := [typedParameter, mutableParameter]
  gap := ⟨[' '], rfl⟩
  body := lookupTokens.flatMap Token.text
  trail := ⟨[' '], rfl⟩
  body_ne_nil := by decide
  body_head := by
    rintro c ⟨⟩
    decide
  body_last := by
    rintro c ⟨⟩
    decide
  no_block := by decide
  no_result := by decide

/-- The marks in the body of `lookupClosure` are no letters and no quotes. -/
theorem mark_lookupTokens (c : Char) (hc : c ∈ ".(, )|".toList) :
    isWordLetter c = false ∧ c ≠ '"' ∧ c ≠ '\'' := by
  have hall : ".(, )|".toList.all (fun c => !isWordLetter c && c != '"' && c != '\'') = true := by
    decide +kernel
  have hplain := List.all_eq_true.1 hall c hc
  simp only [Bool.and_eq_true, Bool.not_eq_true', bne_iff_ne] at hplain
  exact ⟨hplain.1.1, hplain.1.2, hplain.2⟩

/-- The body of `lookupClosure` has the tokens that are listed for it. -/
theorem spelled_lookupTokens : Spelled lookupClosure.body lookupTokens := by
  have hmark : ∀ c rest tokens, c ∈ ".(, )|".toList → Spelled rest tokens →
      Spelled (c :: rest) (.mark c :: tokens) := fun c rest tokens hc below =>
    have hplain := mark_lookupTokens c hc
    .mark c rest tokens hplain.1 hplain.2.1 hplain.2.2 below
  have hword : ∀ w d rest tokens, w ∈ [['v'], ['n']] → d ∈ ".(, )|".toList →
      Spelled rest tokens → Spelled (w ++ d :: rest) (.word w :: .mark d :: tokens) := by
    intro w d rest tokens hw hd below
    have hletter : ∀ w ∈ [['v'], ['n']], w ≠ [] ∧ w.all isWordLetter = true ∧
        w ∉ [['b'], ['c'], ['r'], ['b', 'r'], ['c', 'r']] := by
      decide +kernel
    obtain ⟨hne, hletters, hopens⟩ := hletter w hw
    refine .word w (d :: rest) _ hne (List.all_eq_true.1 hletters) ?_
      (not_opensLiteral _ _ hopens) (hmark d rest tokens hd below)
    rintro e ⟨⟩
    exact (mark_lookupTokens d hd).1
  have hliteral : IsLiteral "\"v\"".toList :=
    .string [] ['v'] (by decide) (.plain 'v' [] (by decide) (by decide) .nil)
  have hlast : Spelled ("été".toList ++ []) [.word "été".toList] :=
    .word _ [] [] (by decide) (List.all_eq_true.1 (by decide +kernel)) (fun c hc => nomatch hc)
      (not_opensLiteral _ _ (by decide)) .nil
  exact hword ['v'] '.' _ _ (by decide) (by decide) <|
    hword ['n'] '(' _ _ (by decide) (by decide) <|
    .literal _ _ _ hliteral <|
    hmark ',' _ _ (by decide) <| hmark ' ' _ _ (by decide) <|
    hword ['n'] ')' _ _ (by decide) (by decide) <|
    hmark ' ' _ _ (by decide) <| hmark '|' _ _ (by decide) <| hmark '|' _ _ (by decide) <|
    hmark ' ' _ _ (by decide) hlast

/-- The tokens of `lookupClosure` are read as they are spelled. -/
theorem legible_lookupTokens : Legible [['v'], ['n']] [] lookupTokens := by
  have hword : ∀ w before after, w.all Token.isWordPart = true →
      (Token.word w).Legible [['v'], ['n']] before after := fun w _ _ hw =>
    .inl (List.all_eq_true.1 hw)
  have hmark : ∀ c before after, c ≠ '|' → (Token.mark c).Legible [['v'], ['n']] before after :=
    fun c _ _ hc heq => absurd heq hc
  have hlast : PiecesFree [['v'], ['n']] [] "été".toList :=
    .letter 'é' _ (by decide) <|
    .piece 't' [] ['é'] (List.all_eq_true.1 (by decide)) (by rintro d ⟨⟩; decide) (by decide)
      (not_opensLiteral _ _ (by decide)) <|
    .letter 'é' [] (by decide) .nil
  exact ⟨hword ['v'] _ _ (by decide), hmark '.' _ _ (by decide), hword ['n'] _ _ (by decide),
    hmark '(' _ _ (by decide), (by decide : _ ∉ _), hmark ',' _ _ (by decide),
    hmark ' ' _ _ (by decide), hword ['n'] _ _ (by decide), hmark ')' _ _ (by decide),
    hmark ' ' _ _ (by decide), fun _ => by decide, fun _ => by decide, hmark ' ' _ _ (by decide),
    .inr ⟨by decide, hlast⟩, trivial⟩

/-- The closure ` move |v: Map<K, V>, &mut n| v.n("v", n) || été ` is inlined with `input` for `v`
and `10` for `n`. -/
theorem inlineText_lookupClosure :
    lookupClosure.source = " move |v: Map<K, V>, &mut n| v.n(\"v\", n) || été " ∧
      Spelled lookupClosure.body lookupTokens ∧ lookupClosure.Closed ∧
      Legible ((lookupClosure.bindings ["input", "10"]).map Prod.fst) [] lookupTokens ∧
      ClosureText.inlineText lookupClosure.source ["input", "10"] =
        "input.n(\"v\", 10) || été" := by
  have hclosed : lookupClosure.Closed := by decide
  have hinlined := ClosureText.inlineText_eq_rewrite lookupClosure lookupTokens ["input", "10"]
    spelled_lookupTokens hclosed legible_lookupTokens
  exact ⟨by decide, spelled_lookupTokens, hclosed, legible_lookupTokens,
    hinlined.trans (by decide)⟩

/-- The parameter `a`. -/
def bareParameter : Parameter where
  name := ['a']
  name_ne_nil := by decide
  name_letters := by decide +kernel

/-- The tokens of the body of `tickClosure`. -/
def tickTokens : List Token :=
  [.mark '[', .literal "'\\''".toList, .mark ',', .literal "'a'".toList, .mark ']']

/-- A closure with an escaped tick before a character that has a parameter's name. -/
def tickClosure : WrittenClosure where
  params := [bareParameter]
  gap := ⟨[' '], rfl⟩
  body := tickTokens.flatMap Token.text
  body_ne_nil := by decide
  body_head := by
    rintro c ⟨⟩
    decide
  body_last := by
    rintro c ⟨⟩
    decide
  no_block := by decide
  no_result := by decide

/-- The body of `tickClosure` has the tokens that are listed for it. -/
theorem spelled_tickTokens : Spelled tickClosure.body tickTokens :=
  .mark '[' _ _ (by decide +kernel) (by decide) (by decide) <|
  .literal _ _ _ (.escaped [] ['\''] (by decide) (.simple '\'' (by decide))) <|
  .mark ',' _ _ (by decide +kernel) (by decide) (by decide) <|
  .literal _ _ _ (.char [] 'a' (by decide) (by decide) (by decide)) <|
  .mark ']' _ _ (by decide +kernel) (by decide) (by decide) .nil

/-- The tokens that are read off the body of `tickClosure`. -/
theorem ofText_tickClosure : Token.ofText tickClosure.body =
    [.mark '[', .literal "'\\'".toList, .literal "','".toList, .word ['a'], .literal ['\''],
      .mark ']'] := by
  refine (Token.ofText_cons '[' _ (.mark '[') _ rfl).trans (congrArg _ ?_)
  refine (Token.ofText_cons '\'' _ _ _ (Token.next_escapedTick _)).trans (congrArg _ ?_)
  refine (Token.ofText_cons '\'' _ (.literal "','".toList) _ rfl).trans (congrArg _ ?_)
  refine (Token.ofText_cons 'a' _ (.word ['a']) _ rfl).trans (congrArg _ ?_)
  refine (Token.ofText_cons '\'' _ (.literal ['\'']) _ rfl).trans (congrArg _ ?_)
  refine (Token.ofText_cons ']' _ (.mark ']') _ rfl).trans (congrArg _ ?_)
  exact Token.ofText_nil

/-- The reader takes the tick behind an escaped tick for the beginning of a literal, and the `a` of
the literal that follows for the parameter. -/
theorem inlineText_tickClosure :
    tickClosure.source = "|a| ['\\'','a']" ∧ Spelled tickClosure.body tickTokens ∧
      tickClosure.Closed ∧ Token.mark '|' ∉ tickTokens ∧
      ClosureText.inlineText tickClosure.source ["x"] = "['\\'','x']" ∧
      String.ofList (ClosureText.trimRight (rewrite (tickClosure.bindings ["x"]) [] tickTokens)) =
        "['\\'','a']" := by
  have hclosed : tickClosure.Closed := by decide
  have hfilled : ClosureText.filled? tickClosure.names (["x"].map String.toList) []
      (Token.ofText tickClosure.body) = some "['\\'','x']".toList := by
    rw [ofText_tickClosure]
    decide
  have hinlined := ClosureText.inlineText_of_filled tickClosure ["x"] _ hclosed hfilled
  exact ⟨by decide, spelled_tickTokens, hclosed, by decide, hinlined.trans (by decide),
    by decide⟩

end Demo

end DataShape
