import DataShape.Proofs.Closure.Lexemes
import DataShape.Proofs.Closure.Rewriting
import DataShape.Proofs.Closure.Template

/-!
# Finding closures in closures

The reader of a body has no lexemes. It judges a bar by the text before it (`AwaitsOperand`), where
the language goes by the last lexeme (`ExpectsOperand`). `ClosureText.findsClosure_iff_nestsClosure`
says that the reader finds a closure in a body exactly if there is one.

The induction is on the lexemes, and keeps that the text before a place ends in the last lexeme there
(`LastLexeme`) and in no part of a word (`WordsApart`). Then the two judgements agree
(`ClosureText.awaitsOperand_iff_expectsOperand`), but for some lexemes (`Misjudged`). The reader takes
the bar of a closure for an operator behind a colon, `%`, `^`, another bar or a range. It takes an
operator for the bar of a closure behind a word that only ends in `move` or `return`. So all of this is
about bodies in which no bar stands behind one of these, and which have no escaped tick before the
first closure, for there the reader loses its way (`Readable`).
-/

namespace DataShape

/-! ## What is read as it is -/

/-- Behind the lexeme the reader takes the beginning of a closure for an operator, or the other way
around: some operators are none for it, and for keywords it looks at the end of a word only. -/
def Misjudged : Option Lexeme → Prop
  | some (.mark c) => c ∈ [':', '%', '^']
  | some (.bar _) => True
  | some .range => True
  | some (.word raw name) =>
    ¬ ExpectsOperand (some (.word raw name)) ∧ ∃ w ∈ operandWords, w <:+ name
  | some (.label name) => ∃ w ∈ operandWords, w <:+ name
  | _ => False

instance : ∀ previous? : Option Lexeme, Decidable (Misjudged previous?)
  | none => .isFalse id
  | some (.mark c) => inferInstanceAs (Decidable (c ∈ _))
  | some (.bar _) => .isTrue trivial
  | some .range => .isTrue trivial
  | some (.word _ _) => inferInstanceAs (Decidable (_ ∧ _))
  | some (.label name) => inferInstanceAs (Decidable (∃ w ∈ operandWords, w <:+ name))
  | some (.blank _) => .isFalse id
  | some (.literal _) => .isFalse id

/-- A lexeme is read as it is, given the last one before it that is no blank. -/
def Lexeme.Readable (previous? : Option Lexeme) : Lexeme → Prop
  | .literal text => text ∉ ["'\\''".toList, "b'\\''".toList]
  | .bar _ => ¬ Misjudged previous?
  | _ => True

instance Lexeme.instDecidableReadable (previous? : Option Lexeme) :
    ∀ lexeme : Lexeme, Decidable (lexeme.Readable previous?)
  | .literal text => inferInstanceAs (Decidable (text ∉ _))
  | .bar _ => inferInstanceAs (Decidable (¬ _))
  | .blank _ => .isTrue trivial
  | .word _ _ => .isTrue trivial
  | .label _ => .isTrue trivial
  | .range => .isTrue trivial
  | .mark _ => .isTrue trivial

/-- Lexemes are read as they are, up to the first bar that opens a closure. -/
def Readable (previous? : Option Lexeme) : List Lexeme → Prop
  | [] => True
  | lexeme :: lexemes => lexeme.Readable previous? ∧
      ((lexeme.isBar = true ∧ ExpectsOperand previous?) ∨
        Readable (lexeme.after previous?) lexemes)

instance instDecidableReadable :
    ∀ (previous? : Option Lexeme) (lexemes : List Lexeme), Decidable (Readable previous? lexemes)
  | _, [] => .isTrue trivial
  | previous?, lexeme :: lexemes =>
    have := instDecidableReadable (lexeme.after previous?) lexemes
    inferInstanceAs (Decidable (_ ∧ _))

namespace ClosureText

/-! ## Reading lexemes -/

/-- The reader finds that a closure opens in a text, given the text before it. -/
def FindsClosure (before cs : List Char) : Prop :=
  pieces? [] 0 before.reverse (Token.ofText cs) = none

/-- In an empty text no closure opens. -/
theorem not_findsClosure_nil (before : List Char) : ¬ FindsClosure before [] := by
  unfold FindsClosure
  rw [Token.ofText_nil]
  exact fun h => nomatch h

/-- A closure opens with the first token of a text or in the rest of it. -/
theorem findsClosure_cons (before : List Char) (c : Char) (cs : List Char) (token : Token)
    (rest : List Char) (hnext : Token.next c cs = (token, rest)) :
    FindsClosure before (c :: cs) ↔
      (token = .mark '|' ∧ AwaitsOperand before) ∨ FindsClosure (before ++ token.text) rest := by
  unfold FindsClosure
  rw [Token.ofText_cons c cs token rest hnext, pieces?_cons_eq_none_iff, opensClosure_iff,
    List.reverse_append]

/-- No closure opens with a token that is no bar. -/
theorem findsClosure_of_next (before : List Char) (c : Char) (cs : List Char) (token : Token)
    (rest : List Char) (hnext : Token.next c cs = (token, rest)) (hbar : token ≠ .mark '|') :
    FindsClosure before (c :: cs) ↔ FindsClosure (before ++ token.text) rest :=
  (findsClosure_cons before c cs token rest hnext).trans (or_iff_right fun h => hbar h.1)

/-- No closure opens with a character that is neither a bar nor a quote nor a letter of ASCII. -/
theorem findsClosure_mark (before : List Char) (c : Char) (rest : List Char)
    (hmark : c ∉ ['"', '\'', '|']) (hpart : Token.isWordPart c = false) :
    FindsClosure before (c :: rest) ↔ FindsClosure (before ++ [c]) rest := by
  simp only [List.mem_cons, List.not_mem_nil, or_false, not_or] at hmark
  obtain ⟨hquote, htick, hbar⟩ := hmark
  exact findsClosure_of_next before c rest _ _ (Token.next_mark c rest hquote htick hpart)
    fun heq => hbar (Token.mark.inj heq)

/-- What begins a literal behind a word is a quote, a tick or a sign. -/
theorem head_mem_of_opensLiteral (w rest : List Char) (h : OpensLiteral w rest) :
    ∃ c ∈ rest.head?, c ∈ ['"', '\'', '#'] := by
  cases h with
  | string mark rest hmark => exact ⟨'"', rfl, by decide⟩
  | raw mark rest n hmark =>
    cases n with
    | zero => exact ⟨'"', rfl, by decide⟩
    | succ n => exact ⟨'#', rfl, by decide⟩
  | byte rest => exact ⟨'\'', rfl, by decide⟩

/-- A letter is no quote, tick, sign, bar or backslash. -/
theorem not_mem_of_isWordLetter (c : Char) (h : isWordLetter c = true) :
    c ∉ ['"', '\'', '#', '|', '\\'] := by
  have hnone : ∀ d ∈ ['"', '\'', '#', '|', '\\'], isWordLetter d = false :=
    forall_of_all _ _ (by decide +kernel)
  exact fun hmem => Bool.false_ne_true ((hnone c hmem).symm.trans h)

/-- No closure opens with letters of ASCII that begin no literal. -/
theorem findsClosure_run (before : List Char) (c : Char) (run rest : List Char)
    (hrun : ∀ d ∈ c :: run, Token.isWordPart d = true)
    (hhead : ∀ d ∈ rest.head?, Token.isWordPart d = false ∧ d ∉ ['"', '\'', '#']) :
    FindsClosure before (c :: (run ++ rest)) ↔ FindsClosure (before ++ c :: run) rest := by
  have hopens : ¬ OpensLiteral (c :: run) rest := fun h => by
    obtain ⟨d, hd, hmem⟩ := head_mem_of_opensLiteral _ _ h
    exact (hhead d hd).2 hmem
  have hnext := Token.next_word c run rest hrun (fun d hd => (hhead d hd).1) hopens
  exact findsClosure_of_next before c _ _ _ hnext fun heq => nomatch heq

/-- What stands behind the letters of ASCII that a word begins with is no such letter, and no quote,
tick or sign. -/
theorem head_dropWhile_append (w rest : List Char) (hletters : ∀ c ∈ w, isWordLetter c = true)
    (hends : EndsWord rest) : ∀ d ∈ (w.dropWhile Token.isWordPart ++ rest).head?,
      Token.isWordPart d = false ∧ d ∉ ['"', '\'', '#'] := by
  intro d hd
  rw [List.head?_append] at hd
  rcases Option.or_eq_some_iff.1 hd with hd | ⟨-, hd⟩
  · have hpart := List.head?_dropWhile_not Token.isWordPart w
    rw [hd] at hpart
    have hmem : d ∈ w := (List.dropWhile_sublist _).subset (List.mem_of_head? hd)
    have hplain := not_mem_of_isWordLetter d (hletters d hmem)
    simp only [List.mem_cons, List.not_mem_nil, or_false, not_or] at hplain ⊢
    exact ⟨hpart, hplain.1, hplain.2.1, hplain.2.2.1⟩
  · exact ⟨not_isWordPart_of_not_isWordLetter d (hends d hd).1, (hends d hd).2⟩

/-- No closure opens with a word. -/
theorem findsClosure_word (before w rest : List Char) (hletters : ∀ c ∈ w, isWordLetter c = true)
    (hends : EndsWord rest) :
    FindsClosure before (w ++ rest) ↔ FindsClosure (before ++ w) rest := by
  -- letters of ASCII are read in runs, and all others one by one
  induction hlength : w.length using Nat.strong_induction_on generalizing before w with
  | h n ih =>
    cases w with
    | nil => rw [List.nil_append, List.append_nil]
    | cons c tail =>
      have hc : isWordLetter c = true := hletters c List.mem_cons_self
      have htail : ∀ d ∈ tail, isWordLetter d = true := fun d hd =>
        hletters d (List.mem_cons_of_mem c hd)
      rw [List.length_cons] at hlength
      cases hpart : Token.isWordPart c with
      | false =>
        have hplain := not_mem_of_isWordLetter c hc
        have hmark : c ∉ ['"', '\'', '|'] := fun h =>
          hplain ((by decide : ['"', '\'', '|'] ⊆ ['"', '\'', '#', '|', '\\']) h)
        have hrest := ih tail.length (by omega) (before ++ [c]) tail htail rfl
        rw [List.append_assoc] at hrest
        exact (findsClosure_mark before c _ hmark hpart).trans hrest
      | true =>
        have hsplit := List.takeWhile_append_dropWhile (p := Token.isWordPart) (l := tail)
        have hrun : ∀ d ∈ c :: tail.takeWhile Token.isWordPart, Token.isWordPart d = true := by
          intro d hd
          rcases List.mem_cons.1 hd with rfl | hd
          · exact hpart
          · exact List.all_eq_true.1 List.all_takeWhile d hd
        have hread := findsClosure_run before c _ _ hrun (head_dropWhile_append tail rest htail hends)
        have hle : (tail.dropWhile Token.isWordPart).length ≤ tail.length :=
          (List.dropWhile_suffix _).length_le
        have hrest := ih (tail.dropWhile Token.isWordPart).length (by omega)
          (before ++ c :: tail.takeWhile Token.isWordPart) _
          (fun d hd => htail d ((List.dropWhile_sublist _).subset hd)) rfl
        rw [← List.append_assoc, hsplit] at hread
        rw [List.append_assoc, List.cons_append, hsplit] at hrest
        exact hread.trans hrest

/-- The letter `r` with a sign and a letter behind it begins no raw string. -/
theorem not_opensLiteral_rawWord (c : Char) (rest : List Char) (hc : isWordLetter c = true) :
    ¬ OpensLiteral ['r'] ('#' :: c :: rest) := by
  have hplain := not_mem_of_isWordLetter c hc
  intro h
  generalize hbehind : '#' :: c :: rest = behind at h
  cases h with
  | string mark tail hmark => exact absurd (List.cons.inj hbehind).1 (by decide)
  | raw mark tail n hmark =>
    -- behind the signs of a raw string stands a quote
    cases n with
    | zero => exact absurd (List.cons.inj hbehind).1 (by decide)
    | succ n =>
      have hhead := congrArg List.head? (List.cons.inj hbehind).2
      cases n with
      | zero =>
        obtain rfl : c = '"' := Option.some.inj hhead
        exact hplain (by decide)
      | succ n =>
        obtain rfl : c = '#' := Option.some.inj hhead
        exact hplain (by decide)

/-- No closure opens with a raw word. -/
theorem findsClosure_rawWord (before name rest : List Char) (hname : IsName name)
    (hends : EndsWord rest) :
    FindsClosure before ('r' :: '#' :: (name ++ rest)) ↔
      FindsClosure (before ++ 'r' :: '#' :: name) rest := by
  have hletters := List.all_eq_true.1 hname.2
  have hopens : ¬ OpensLiteral ['r'] ('#' :: (name ++ rest)) := by
    obtain ⟨c, cs, rfl⟩ := List.exists_cons_of_ne_nil hname.1
    exact not_opensLiteral_rawWord c _ (hletters c List.mem_cons_self)
  have hhead : ∀ d, ('#' :: (name ++ rest)).head? = some d → Token.isWordPart d = false := by
    rintro d ⟨⟩
    decide
  have hletter : ∀ d ∈ ['r'], Token.isWordPart d = true := forall_of_all _ _ (by decide)
  have hnext := Token.next_word 'r' [] ('#' :: (name ++ rest)) hletter hhead hopens
  have hsign := findsClosure_mark (before ++ ['r']) '#' (name ++ rest) (by decide) (by decide)
  have hword := findsClosure_word (before ++ ['r', '#']) name rest hletters hends
  rw [List.append_assoc] at hsign hword
  have hfirst := findsClosure_of_next before 'r' _ _ _ hnext fun heq => nomatch heq
  exact hfirst.trans (hsign.trans hword)

/-- The tick of a label stands alone. -/
theorem cutTick_label (name rest : List Char) (hname : IsName name) (hends : EndsWord rest) :
    Token.cutTick (name ++ rest) = ([], name ++ rest) := by
  obtain ⟨c, cs, rfl⟩ := List.exists_cons_of_ne_nil hname.1
  have hletters := List.all_eq_true.1 hname.2
  have hplain : ∀ d ∈ c :: cs, d ≠ '\\' ∧ d ≠ '\'' := by
    intro d hd
    have hnone := not_mem_of_isWordLetter d (hletters d hd)
    simp only [List.mem_cons, List.not_mem_nil, or_false, not_or] at hnone
    exact ⟨hnone.2.2.2.2, hnone.2.1⟩
  have htick : ∀ d ∈ (cs ++ rest).head?, d ≠ '\'' := by
    intro d hd
    rw [List.head?_append] at hd
    rcases Option.or_eq_some_iff.1 hd with hd | ⟨-, hd⟩
    · exact (hplain d (List.mem_cons_of_mem c (List.mem_of_head? hd))).2
    · rintro rfl
      exact (hends _ hd).2 (by decide)
  rw [List.cons_append, Token.cutTick.eq_def]
  split
  · rename_i heq
    exact absurd (List.cons.inj heq).1 (hplain c List.mem_cons_self).1
  · rename_i heq
    exact absurd rfl (htick '\'' (by rw [(List.cons.inj heq).2]; rfl))
  · rfl

/-- No closure opens with a label. -/
theorem findsClosure_label (before name rest : List Char) (hname : IsName name)
    (hends : EndsWord rest) :
    FindsClosure before ('\'' :: (name ++ rest)) ↔ FindsClosure (before ++ '\'' :: name) rest := by
  have hnext : Token.next '\'' (name ++ rest) = (.literal ['\''], name ++ rest) := by
    unfold Token.next
    rw [if_neg (by decide), if_pos rfl, cutTick_label name rest hname hends]
    rfl
  have hword := findsClosure_word (before ++ ['\'']) name rest (List.all_eq_true.1 hname.2) hends
  rw [List.append_assoc] at hword
  exact (findsClosure_of_next before '\'' _ _ _ hnext fun heq => nomatch heq).trans hword

/-- No closure opens with a literal that is no escaped tick. -/
theorem findsClosure_literal (before text rest : List Char) (htext : IsLiteral text)
    (htick : text ∉ ["'\\''".toList, "b'\\''".toList]) :
    FindsClosure before (text ++ rest) ↔ FindsClosure (before ++ text) rest := by
  obtain ⟨c, tail, rfl, hnext⟩ := Token.readsLiteral text rest htext htick
  exact findsClosure_of_next before c _ _ _ hnext fun heq => nomatch heq

/-- A closure opens with a bar where an operand is awaited. -/
theorem findsClosure_bar (before rest : List Char) :
    FindsClosure before ('|' :: rest) ↔
      AwaitsOperand before ∨ FindsClosure (before ++ ['|']) rest := by
  have hnext := Token.next_mark '|' rest (by decide) (by decide) (by decide)
  rw [findsClosure_cons before '|' rest _ _ hnext]
  exact or_congr_left (and_iff_right rfl)

/-! ## Judging by the text before a bar -/

/-- A text with blanks at its end is trimmed as without. -/
theorem trimRight_concat_blank (cs : List Char) (c : Char) (h : isBlank c = true) :
    trimRight (cs ++ [c]) = trimRight cs := by
  unfold trimRight
  rw [List.reverse_append, List.reverse_singleton, List.singleton_append,
    List.dropWhile_cons_of_pos h]

/-- A text that ends in no blank is not trimmed. -/
theorem trimRight_concat (cs : List Char) (c : Char) (h : isBlank c = false) :
    trimRight (cs ++ [c]) = cs ++ [c] := by
  have htrim := trimRight_append (cs ++ [c]) ⟨[], rfl⟩ fun d hd => by
    rw [List.getLast?_concat] at hd
    exact Option.some.inj hd ▸ h
  rwa [List.append_nil] at htrim

/-- The words after which an operand is expected are made of letters. -/
theorem isName_of_mem_operandWords (w : List Char) (h : w ∈ operandWords) : IsName w := by
  have hall : ∀ w ∈ operandWords, IsName w := by decide +kernel
  exact hall w h

/-- The marks after which the reader awaits an operand are no letters. -/
theorem not_isWordLetter_of_mem_operandMarks (c : Char) (h : c ∈ operandMarks) :
    isWordLetter c = false :=
  forall_of_all operandMarks (isWordLetter · = false) (by decide +kernel) c h

/-- The reader awaits an operand behind a text that is empty or ends in one of its marks or words. -/
theorem awaitsOperand_iff (before : List Char) :
    AwaitsOperand before ↔ trimRight before = [] ∨
      (∃ c ∈ operandMarks, [c] <:+ trimRight before) ∨
        ∃ w ∈ operandWords, w <:+ trimRight before := by
  unfold AwaitsOperand
  simp [operandWords]

/-- Behind a character that is no letter, only the character counts. -/
theorem awaitsOperand_iff_of_mark (before front : List Char) (c : Char)
    (htrim : trimRight before = front ++ [c]) (hc : isWordLetter c = false) :
    AwaitsOperand before ↔ c ∈ operandMarks := by
  have hword : ¬ ∃ w ∈ operandWords, w <:+ front ++ [c] := by
    rintro ⟨w, hw, hsuffix⟩
    have hname := isName_of_mem_operandWords w hw
    rcases List.suffix_concat_iff.1 hsuffix with rfl | ⟨start, rfl, -⟩
    · exact hname.1 rfl
    · have hletter := List.all_eq_true.1 hname.2 c (by simp)
      exact Bool.false_ne_true (hc.symm.trans hletter)
  rw [awaitsOperand_iff, htrim, or_iff_right (List.append_ne_nil_of_right_ne_nil _
    (List.cons_ne_nil c [])), or_iff_left hword]
  simp

/-- A word of letters ends a text with a name at its end if it ends the name. -/
theorem suffix_append_iff (w front name : List Char) (hw : ∀ c ∈ w, isWordLetter c = true)
    (hfront : ∀ c ∈ front.getLast?, isWordLetter c = false) :
    w <:+ front ++ name ↔ w <:+ name := by
  refine ⟨fun h => ?_, fun h => h.trans (List.suffix_append front name)⟩
  rcases List.suffix_or_suffix_of_suffix h (List.suffix_append front name) with hle | ⟨start, rfl⟩
  · exact hle
  · -- a longer word would reach into what stands before the name
    have hstart : start <:+ front := List.suffix_append_self_iff.1 h
    cases hlast : start.getLast? with
    | none =>
      obtain rfl := List.getLast?_eq_none_iff.1 hlast
      exact List.suffix_refl _
    | some c =>
      have hmem : c ∈ start ++ name := List.mem_append_left _ (List.mem_of_getLast? hlast)
      obtain ⟨more, rfl⟩ := hstart
      have hne : start ≠ [] := fun heq => by
        rw [heq] at hlast
        cases hlast
      have hfront := hfront c (by rw [List.getLast?_append_of_ne_nil _ hne]; exact hlast)
      exact absurd (hfront.symm.trans (hw c hmem)) Bool.false_ne_true

/-- Behind a name, the end of the name counts. -/
theorem awaitsOperand_iff_of_name (before front name : List Char)
    (htrim : trimRight before = front ++ name) (hname : IsName name)
    (hfront : ∀ c ∈ front.getLast?, isWordLetter c = false) :
    AwaitsOperand before ↔ ∃ w ∈ operandWords, w <:+ name := by
  have hmark : ¬ ∃ c ∈ operandMarks, [c] <:+ front ++ name := by
    rintro ⟨c, hc, hsuffix⟩
    obtain ⟨start, d, rfl, hd⟩ := hname.exists_last
    rw [← List.append_assoc, List.singleton_suffix_append_singleton_iff] at hsuffix
    rw [← hsuffix, not_isWordLetter_of_mem_operandMarks c hc] at hd
    cases hd
  rw [awaitsOperand_iff, htrim, or_iff_right (List.append_ne_nil_of_right_ne_nil _ hname.1),
    or_iff_right hmark]
  refine exists_congr fun w => and_congr_right fun hw => ?_
  exact suffix_append_iff w front name
    (List.all_eq_true.1 (isName_of_mem_operandWords w hw).2) hfront

/-! ## Judging by the lexeme before a bar -/

/-- A closure opens with a lexeme that is a bar where an operand is awaited, or behind it. -/
theorem findsClosure_lexeme (previous? : Option Lexeme) (before : List Char) (lexeme : Lexeme)
    (rest : List Char) (h : lexeme.WellFormed rest) (hreadable : lexeme.Readable previous?) :
    FindsClosure before (lexeme.text ++ rest) ↔
      (lexeme.isBar = true ∧ AwaitsOperand before) ∨ FindsClosure (before ++ lexeme.text) rest := by
  have hno : ∀ lexeme : Lexeme, lexeme.isBar = false →
      ((lexeme.isBar = true ∧ AwaitsOperand before) ∨
        FindsClosure (before ++ lexeme.text) rest ↔
          FindsClosure (before ++ lexeme.text) rest) := fun lexeme hbar =>
    or_iff_right fun hopens => Bool.false_ne_true (hbar.symm.trans hopens.1)
  cases lexeme with
  | blank c =>
    have hplain : ∀ d ∈ ['"', '\'', '|'], isBlank d = false := forall_of_all _ _ (by decide)
    have hmark : c ∉ ['"', '\'', '|'] := fun hmem =>
      Bool.false_ne_true ((hplain c hmem).symm.trans h)
    exact (findsClosure_mark before c rest hmark (not_isWordPart_of_not_isWordLetter c
      (not_isWordLetter_of_isBlank c h))).trans (hno (.blank c) rfl).symm
  | word raw name =>
    cases raw with
    | false =>
      exact (findsClosure_word before name rest (List.all_eq_true.1 h.1.2) h.2).trans
        (hno (.word false name) rfl).symm
    | true =>
      exact (findsClosure_rawWord before name rest h.1 h.2).trans (hno (.word true name) rfl).symm
  | label name =>
    exact (findsClosure_label before name rest h.1 h.2).trans (hno (.label name) rfl).symm
  | literal text =>
    exact (findsClosure_literal before text rest h hreadable).trans (hno (.literal text) rfl).symm
  | range =>
    have hpoint : ∀ before rest, FindsClosure before ('.' :: rest) ↔
        FindsClosure (before ++ ['.']) rest := fun before rest =>
      findsClosure_mark before '.' rest (by decide) (by decide)
    have hpoints := (hpoint before ('.' :: rest)).trans (hpoint (before ++ ['.']) rest)
    rw [List.append_assoc] at hpoints
    exact hpoints.trans (hno .range rfl).symm
  | mark c =>
    have hpart := not_isWordPart_of_not_isWordLetter c (Bool.or_eq_false_iff.1 h.1).2
    exact (findsClosure_mark before c rest h.2.1 hpart).trans (hno (.mark c) rfl).symm
  | bar double =>
    cases double with
    | false => exact (findsClosure_bar before rest).trans (or_congr_left (and_iff_right rfl).symm)
    | true =>
      -- behind a bar the reader awaits no operand, so the second one opens nothing
      have hsecond : ¬ AwaitsOperand (before ++ ['|']) := by
        rw [awaitsOperand_iff_of_mark _ before '|' (trimRight_concat before '|' (by decide))
          (by decide +kernel)]
        decide
      have hbars := findsClosure_bar (before ++ ['|']) rest
      rw [or_iff_right hsecond, List.append_assoc] at hbars
      refine (findsClosure_bar before ('|' :: rest)).trans ?_
      rw [hbars]
      exact or_congr_left (and_iff_right rfl).symm

/-- No word reaches across the place between two texts. -/
def WordsApart (front back : List Char) : Prop :=
  ∀ c ∈ front.getLast?, ∀ d ∈ back.head?, isWordLetter c = true → isWordLetter d = false

/-- What stands before a name is no letter. -/
theorem WordsApart.of_name (front name : List Char) (h : WordsApart front name)
    (hname : IsName name) : ∀ c ∈ front.getLast?, isWordLetter c = false := by
  intro c hc
  obtain ⟨d, ds, rfl⟩ := List.exists_cons_of_ne_nil hname.1
  have hd := List.all_eq_true.1 hname.2 d List.mem_cons_self
  refine Bool.eq_false_iff.2 fun hletter => ?_
  exact Bool.false_ne_true ((h c hc d rfl hletter).symm.trans hd)

/-- A text with a mark added ends in the mark. -/
theorem getLast?_concat_mark (front : List Char) (c : Char) (h : isWordLetter c = false) :
    ∀ d ∈ (front ++ [c]).getLast?, isWordLetter d = false := by
  intro d hd
  rw [List.getLast?_concat] at hd
  exact Option.some.inj hd ▸ h

/-- Behind a word, raw or not, the end of the word counts. -/
theorem awaitsOperand_iff_of_word (before front name : List Char) (raw : Bool)
    (htrim : trimRight before = front ++ (Lexeme.word raw name).text) (hname : IsName name)
    (hapart : WordsApart front (Lexeme.word raw name).text) :
    AwaitsOperand before ↔ ∃ w ∈ operandWords, w <:+ name := by
  cases raw with
  | false =>
    exact awaitsOperand_iff_of_name before front name htrim hname (hapart.of_name front name hname)
  | true =>
    have hsign : front ++ 'r' :: '#' :: name = front ++ ['r'] ++ ['#'] ++ name := by simp
    exact awaitsOperand_iff_of_name before _ name (htrim.trans hsign) hname
      (getLast?_concat_mark (front ++ ['r']) '#' (by decide +kernel))

/-- The last lexeme of a text that is no blank. -/
def LastLexeme (before : List Char) : Option Lexeme → Prop
  | none => trimRight before = []
  | some lexeme => ∃ front rest, trimRight before = front ++ lexeme.text ∧
      lexeme.WellFormed rest ∧ WordsApart front lexeme.text

/-- Behind a lexeme no word goes on. -/
theorem wordsApart_append (before : List Char) (lexeme : Lexeme) (rest : List Char)
    (h : lexeme.WellFormed rest) : WordsApart (before ++ lexeme.text) rest := by
  obtain ⟨front, c, htext, hends⟩ := h.exists_last
  intro d hd e he hletter
  rw [htext, ← List.append_assoc, List.getLast?_concat] at hd
  obtain rfl : c = d := Option.some.inj hd
  exact (h.endsWord rest lexeme c hends hletter e he).1

/-- With a lexeme added, the last lexeme of a text is the new one or, behind a blank, the old one. -/
theorem lastLexeme_append (before : List Char) (previous? : Option Lexeme) (lexeme : Lexeme)
    (rest : List Char) (h : lexeme.WellFormed rest) (hlast : LastLexeme before previous?)
    (hapart : WordsApart before (lexeme.text ++ rest)) :
    LastLexeme (before ++ lexeme.text) (lexeme.after previous?) := by
  obtain ⟨front, c, htext, hends⟩ := h.exists_last
  by_cases hblank : ∃ d, lexeme = .blank d
  · obtain ⟨d, rfl⟩ := hblank
    have htrim := trimRight_concat_blank before d h
    cases previous? with
    | none => exact htrim.trans hlast
    | some previous =>
      obtain ⟨front, rest, hprevious, hrest⟩ := hlast
      exact ⟨front, rest, htrim.trans hprevious, hrest⟩
  · have hafter : lexeme.after previous? = some lexeme := by
      cases lexeme with
      | blank d => exact absurd ⟨d, rfl⟩ hblank
      | word | label | literal | bar | range | mark => rfl
    have hc : isBlank c = false := by
      cases lexeme with
      | blank d => exact absurd ⟨d, rfl⟩ hblank
      | word | label =>
        exact not_isBlank_of_isWordLetter c hends
      | literal | bar | range | mark => exact (Bool.or_eq_false_iff.1 hends).1
    have hne : lexeme.text ≠ [] := htext ▸ List.append_ne_nil_of_right_ne_nil _ (List.cons_ne_nil c [])
    have htrim : trimRight (before ++ lexeme.text) = before ++ lexeme.text := by
      rw [htext, ← List.append_assoc, trimRight_concat _ c hc]
    rw [hafter]
    refine ⟨before, rest, htrim, h, fun d hd e he => hapart d hd e ?_⟩
    rw [List.head?_append_of_ne_nil _ hne]
    exact he

/-- The reader awaits an operand where one is expected, unless it misjudges the lexeme before. -/
theorem awaitsOperand_iff_expectsOperand (before : List Char) (previous? : Option Lexeme)
    (hlast : LastLexeme before previous?) (hjudged : ¬ Misjudged previous?) :
    AwaitsOperand before ↔ ExpectsOperand previous? := by
  cases previous? with
  | none => exact iff_of_true (.inl hlast) trivial
  | some lexeme =>
    obtain ⟨front, rest, htrim, hform, hapart⟩ := hlast
    cases lexeme with
    | blank c =>
      have hplain : ∀ c ∈ operandMarks, isBlank c = false := forall_of_all _ _ (by decide)
      rw [awaitsOperand_iff_of_mark before front c htrim (not_isWordLetter_of_isBlank c hform)]
      exact iff_of_false (fun hc => Bool.false_ne_true ((hplain c hc).symm.trans hform)) id
    | word raw name =>
      -- a keyword is its own end, and any other word that ends in one is misjudged
      rw [awaitsOperand_iff_of_word before front name raw htrim hform.1 hapart]
      refine ⟨fun hsuffix => ?_, fun hexpects => ⟨name, hexpects.2, List.suffix_refl name⟩⟩
      by_contra hno
      exact hjudged ⟨hno, hsuffix⟩
    | label name =>
      have htick : front ++ '\'' :: name = front ++ ['\''] ++ name := by simp
      rw [awaitsOperand_iff_of_name before _ name (htrim.trans htick) hform.1
        (getLast?_concat_mark front '\'' (by decide +kernel))]
      exact iff_of_false hjudged id
    | literal text =>
      obtain ⟨start, c, rfl, hc⟩ := IsLiteral.exists_last text hform
      have hplain : ∀ c ∈ ['"', '\'', '#'], isWordLetter c = false ∧ c ∉ operandMarks :=
        forall_of_all _ _ (by decide +kernel)
      have htext : front ++ (start ++ [c]) = front ++ start ++ [c] :=
        (List.append_assoc front start [c]).symm
      rw [awaitsOperand_iff_of_mark before _ c (htrim.trans htext) (hplain c hc).1]
      exact iff_of_false (hplain c hc).2 id
    | bar double => exact absurd trivial hjudged
    | range => exact absurd trivial hjudged
    | mark c =>
      rw [awaitsOperand_iff_of_mark before front c htrim (Bool.or_eq_false_iff.1 hform.1).2]
      -- the reader has all the marks but the three that it misjudges
      have hmarks : "([\x7b,;:=!&+-*/%^<>".toList.Perm (operandMarks ++ [':', '%', '^']) := by decide
      have hmore := (hmarks.mem_iff (a := c)).trans List.mem_append
      exact (or_iff_left hjudged).symm.trans hmore.symm

/-- In the text of lexemes that are read as they are, the reader finds the closures that they nest. -/
theorem findsClosure_iff_nestsClosure (cs : List Char) (lexemes : List Lexeme)
    (h : Lexed cs lexemes) (before : List Char) (previous? : Option Lexeme)
    (hlast : LastLexeme before previous?) (hapart : WordsApart before cs)
    (hreadable : Readable previous? lexemes) :
    FindsClosure before cs ↔ NestsClosure previous? lexemes := by
  -- the induction goes on behind the lexeme, with the text before it one lexeme longer
  induction h generalizing before previous? with
  | nil => exact iff_of_false (not_findsClosure_nil before) id
  | cons lexeme rest lexemes h below ih =>
    obtain ⟨hlexeme, hrest⟩ := hreadable
    have hread := findsClosure_lexeme previous? before lexeme rest h hlexeme
    have hjudge : lexeme.isBar = true → (AwaitsOperand before ↔ ExpectsOperand previous?) := by
      intro hbar
      cases lexeme with
      | bar double => exact awaitsOperand_iff_expectsOperand before previous? hlast hlexeme
      | blank | word | label | literal | range | mark => cases hbar
    rw [hread, NestsClosure, and_congr_right hjudge]
    rcases hrest with hopens | hrest
    · exact iff_of_true (.inl hopens) (.inl hopens)
    · exact or_congr_right (ih _ _ (lastLexeme_append before previous? lexeme rest h hlast hapart)
        (wordsApart_append before lexeme rest h) hrest)

end ClosureText

end DataShape
