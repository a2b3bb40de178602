import DataShape.Closure.Token
import DataShape.Text.Alphabetic
import DataShape.Text.Blank
import DataShape.Text.Numeric

/-!
# What the tokens of an expression are

`Spelled` says, without a scanner, what the tokens of an expression are: a word is a run of letters
and digits of any script and of underscores that is as long as can be, a literal is a whole string
or character literal with what stands before its quote (`IsLiteral`), and any other character stands
alone. A tick or a double quote belongs to a literal, so an expression with a lone one is not
spelled at all.

The lemmas at the end say what `Token.next` makes of each of these. A word of letters beyond ASCII
is cut into pieces, and a character literal that is an escaped tick ends one character early; all
else is read as it is spelled.
-/

namespace DataShape

/-! ## Characters -/

/-- A character that words are made of: a letter or a digit of any script, or an underscore. -/
def isWordLetter (c : Char) : Bool := isAlphabetic c || isNumeric c || c == '_'

/-- What holds of each character of a list is found by looking through the list. -/
theorem forall_of_all (cs : List Char) (p : Char → Prop) [DecidablePred p]
    (h : cs.all (fun c => decide (p c)) = true) : ∀ c ∈ cs, p c :=
  fun c hc => of_decide_eq_true (List.all_eq_true.1 h c hc)

/-- A character of a table is no character of a table without common code points. -/
theorem CodeRanges.not_contains_of_disjoint (table other : CodeRanges) (c : Char)
    (hdisjoint : ∀ r ∈ table, ∀ q ∈ other, r.2 < q.1 ∨ q.2 < r.1)
    (h : table.contains c = true) : other.contains c = false := by
  obtain ⟨r, hr, hrc⟩ := List.any_eq_true.1 h
  refine List.any_eq_false.2 fun q hq hqc => ?_
  rw [Bool.and_eq_true, decide_eq_true_iff, decide_eq_true_iff] at hrc hqc
  rcases hdisjoint r hr q hq with hlt | hlt
  · omega
  · omega

/-- A blank is no character of a word. -/
theorem not_isWordLetter_of_isBlank (c : Char) (h : isBlank c = true) : isWordLetter c = false := by
  have halphabetic := CodeRanges.not_contains_of_disjoint blankRanges alphabeticRanges c
    (by decide +kernel) h
  have hnumeric := CodeRanges.not_contains_of_disjoint blankRanges numericRanges c
    (by decide +kernel) h
  have hscore : (c == '_') = false := beq_eq_false_iff_ne.2 fun heq => by
    rw [heq] at h
    exact absurd h (by decide)
  unfold isWordLetter isAlphabetic isNumeric
  rw [halphabetic, hnumeric, hscore]
  rfl

/-- The letters and digits of ASCII are characters of words. -/
theorem isWordLetter_of_isWordPart (c : Char) (h : Token.isWordPart c = true) :
    isWordLetter c = true := by
  have hin : ∀ lo hi, (lo, hi) ∈ alphabeticRanges ∨ (lo, hi) ∈ numericRanges → lo ≤ c.toNat →
      c.toNat ≤ hi → isWordLetter c = true := by
    intro lo hi hmem hlo hhi
    have hrange : (decide (lo ≤ c.toNat) && decide (c.toNat ≤ hi)) = true := by
      rw [decide_eq_true hlo, decide_eq_true hhi]
      rfl
    unfold isWordLetter isAlphabetic isNumeric CodeRanges.contains
    rcases hmem with hmem | hmem
    · rw [List.any_eq_true.2 ⟨(lo, hi), hmem, hrange⟩]
      rfl
    · rw [List.any_eq_true.2 ⟨(lo, hi), hmem, hrange⟩, Bool.or_true]
      rfl
  have hparts : (c.isUpper || c.isLower || c.isDigit || c == '_') = true := h
  rw [Bool.or_eq_true, Bool.or_eq_true, Bool.or_eq_true] at hparts
  rcases hparts with ((hupper | hlower) | hdigit) | hscore
  · have hbounds := of_decide_eq_true hupper
    exact hin 0x41 0x5A (.inl (by decide +kernel)) hbounds.1 hbounds.2
  · obtain ⟨hlo, hhi⟩ := (Bool.and_eq_true _ _).mp hlower
    exact hin 0x61 0x7A (.inl (by decide +kernel)) (of_decide_eq_true hlo) (of_decide_eq_true hhi)
  · obtain ⟨hlo, hhi⟩ := (Bool.and_eq_true _ _).mp hdigit
    exact hin 0x30 0x39 (.inr (by decide +kernel)) (of_decide_eq_true hlo) (of_decide_eq_true hhi)
  · unfold isWordLetter
    rw [hscore, Bool.or_true]

/-! ## Runs -/

/-- A run of characters is taken off a text up to the first character of another kind. -/
theorem takeWhile_run (p : Char → Bool) (run rest : List Char) (hrun : ∀ c ∈ run, p c = true)
    (hrest : ∀ c, rest.head? = some c → p c = false) : (run ++ rest).takeWhile p = run := by
  rw [List.takeWhile_append_of_pos hrun]
  cases rest with
  | nil => exact List.append_nil run
  | cons c rest =>
    rw [List.takeWhile_cons_of_neg (by rw [hrest c rfl]; decide), List.append_nil]

/-- What follows a run of characters is left of a text without it. -/
theorem dropWhile_run (p : Char → Bool) (run rest : List Char) (hrun : ∀ c ∈ run, p c = true)
    (hrest : ∀ c, rest.head? = some c → p c = false) : (run ++ rest).dropWhile p = rest := by
  rw [List.dropWhile_append_of_pos hrun]
  cases rest with
  | nil => rfl
  | cons c rest => exact List.dropWhile_cons_of_neg (by rw [hrest c rfl]; decide)

/-! ## Literals -/

/-- What can stand between the quotes of a string: a backslash takes the next character with it. -/
inductive StringBody : List Char → Prop
  | nil : StringBody []
  | plain (c : Char) (rest : List Char) (hquote : c ≠ '"') (hbackslash : c ≠ '\\')
      (below : StringBody rest) : StringBody (c :: rest)
  | escaped (c : Char) (rest : List Char) (below : StringBody rest) : StringBody ('\\' :: c :: rest)

/-- What can stand between the quotes of a raw string with `n` signs: no quote with that many signs
behind it. -/
def RawBody (n : Nat) (body : List Char) : Prop :=
  ∀ front back, body = front ++ '"' :: back → ¬ List.replicate n '#' <+: back

/-- A hexadecimal digit. -/
def isHexDigit (c : Char) : Bool :=
  c.isDigit || ('a' ≤ c && c ≤ 'f') || ('A' ≤ c && c ≤ 'F')

/-- What can stand behind the backslash of a character literal. -/
inductive CharEscape : List Char → Prop
  | simple (c : Char) (h : c ∈ ['n', 'r', 't', '\\', '0', '\'', '"']) : CharEscape [c]
  | byte (high low : Char) (hhigh : isHexDigit high = true) (hlow : isHexDigit low = true) :
      CharEscape ['x', high, low]
  | codePoint (digits : List Char) (h : ∀ c ∈ digits, isHexDigit c = true ∨ c = '_') :
      CharEscape ('u' :: '\x7b' :: (digits ++ ['\x7d']))

/-- What stands behind the backslash of a character literal has no tick in it, unless it is one. -/
theorem CharEscape.tick_not_mem (code : List Char) (h : CharEscape code) (hne : code ≠ ['\'']) :
    '\'' ∉ code := by
  cases h with
  | simple c hc =>
    intro hmem
    exact hne (by rw [List.mem_singleton.1 hmem])
  | byte high low hhigh hlow =>
    intro hmem
    simp only [List.mem_cons, List.not_mem_nil, or_false] at hmem
    rcases hmem with h | rfl | rfl
    · exact absurd h (by decide)
    · exact absurd hhigh (by decide)
    · exact absurd hlow (by decide)
  | codePoint digits hdigits =>
    intro hmem
    simp only [List.mem_cons, List.mem_append, List.not_mem_nil, or_false] at hmem
    rcases hmem with h | h | h | h
    · exact absurd h (by decide)
    · exact absurd h (by decide)
    · exact absurd (hdigits _ h) (by decide)
    · exact absurd h (by decide)

/-- A whole literal: a string, byte string or C string, the raw form of one of these, or a character
or byte, which may be escaped. -/
inductive IsLiteral : List Char → Prop
  | string (mark body : List Char) (hmark : mark ∈ [[], ['b'], ['c']]) (hbody : StringBody body) :
      IsLiteral (mark ++ '"' :: (body ++ ['"']))
  | raw (mark body : List Char) (n : Nat) (hmark : mark ∈ [['r'], ['b', 'r'], ['c', 'r']])
      (hbody : RawBody n body) :
      IsLiteral (mark ++ (List.replicate n '#' ++ '"' :: (body ++ '"' :: List.replicate n '#')))
  | char (mark : List Char) (c : Char) (hmark : mark ∈ [[], ['b']]) (htick : c ≠ '\'')
      (hbackslash : c ≠ '\\') : IsLiteral (mark ++ ['\'', c, '\''])
  | escaped (mark code : List Char) (hmark : mark ∈ [[], ['b']]) (hcode : CharEscape code) :
      IsLiteral (mark ++ '\'' :: '\\' :: (code ++ ['\'']))

/-! ## Expressions -/

/-- A word with what follows it begins a string or a character literal, be it whole or not. -/
inductive OpensLiteral : List Char → List Char → Prop
  | string (mark rest : List Char) (hmark : mark ∈ [['b'], ['c']]) : OpensLiteral mark ('"' :: rest)
  | raw (mark rest : List Char) (n : Nat) (hmark : mark ∈ [['r'], ['b', 'r'], ['c', 'r']]) :
      OpensLiteral mark (List.replicate n '#' ++ '"' :: rest)
  | byte (rest : List Char) : OpensLiteral ['b'] ('\'' :: rest)

/-- A word that is no mark of a literal begins none. -/
theorem not_opensLiteral (w rest : List Char)
    (h : w ∉ [['b'], ['c'], ['r'], ['b', 'r'], ['c', 'r']]) : ¬ OpensLiteral w rest := by
  have hmarks : ∀ mark ∈ [['b'], ['c']] ++ [['r'], ['b', 'r'], ['c', 'r']], w ≠ mark :=
    fun mark hmark heq => h (heq ▸ hmark)
  intro hopens
  cases hopens with
  | string _ rest hmark => exact hmarks w (List.mem_append_left _ hmark) rfl
  | raw _ rest n hmark => exact hmarks w (List.mem_append_right _ hmark) rfl
  | byte rest => exact hmarks ['b'] (by decide) rfl

/-- The tokens of an expression. -/
inductive Spelled : List Char → List Token → Prop
  | nil : Spelled [] []
  | mark (c : Char) (rest : List Char) (tokens : List Token) (hletter : isWordLetter c = false)
      (hquote : c ≠ '"') (htick : c ≠ '\'') (below : Spelled rest tokens) :
      Spelled (c :: rest) (.mark c :: tokens)
  | word (w rest : List Char) (tokens : List Token) (hne : w ≠ [])
      (hletters : ∀ c ∈ w, isWordLetter c = true)
      (hmaximal : ∀ c, rest.head? = some c → isWordLetter c = false)
      (hopens : ¬ OpensLiteral w rest) (below : Spelled rest tokens) :
      Spelled (w ++ rest) (.word w :: tokens)
  | literal (text rest : List Char) (tokens : List Token) (htext : IsLiteral text)
      (below : Spelled rest tokens) : Spelled (text ++ rest) (.literal text :: tokens)

/-- The tokens of an expression, put together, are the expression. -/
theorem Spelled.flatMap_text (cs : List Char) (tokens : List Token) (h : Spelled cs tokens) :
    tokens.flatMap Token.text = cs := by
  induction h with
  | nil => rfl
  | mark c rest tokens hletter hquote htick below ih => exact congrArg (c :: ·) ih
  | word w rest tokens hne hletters hmaximal hopens below ih => exact congrArg (w ++ ·) ih
  | literal text rest tokens htext below ih => exact congrArg (text ++ ·) ih

/-! ## Reading literals -/

namespace Token

/-- A character that is neither a quote nor a backslash goes on with the string. -/
theorem cutString_cons (c : Char) (cs : List Char) (hquote : c ≠ '"') (hbackslash : c ≠ '\\') :
    cutString (c :: cs) = Prod.map (c :: ·) id (cutString cs) := by
  rw [cutString.eq_def]
  split
  · rename_i heq
    cases heq
  · rename_i heq
    exact absurd (List.cons.inj heq).1 hbackslash
  · rename_i heq
    obtain ⟨rfl, rfl⟩ := List.cons.inj heq
    rw [if_neg hquote]

/-- A string is cut after its quote. -/
theorem cutString_append (body rest : List Char) (h : StringBody body) :
    cutString (body ++ '"' :: rest) = (body ++ ['"'], rest) := by
  induction h with
  | nil => rfl
  | plain c tail hquote hbackslash below ih =>
    rw [List.cons_append, cutString_cons c _ hquote hbackslash, ih]
    rfl
  | escaped c tail below ih =>
    show Prod.map ('\\' :: c :: ·) id (cutString (tail ++ '"' :: rest)) = _
    rw [ih]
    rfl

/-- A text begins with signs if as many can be taken off it. -/
theorem le_length_takeWhile_iff (n : Nat) (cs : List Char) :
    n ≤ (cs.takeWhile (· == '#')).length ↔ List.replicate n '#' <+: cs := by
  induction n generalizing cs with
  | zero => simp
  | succ n ih =>
    cases cs with
    | nil => simp [List.replicate_succ]
    | cons c cs =>
      rw [List.replicate_succ, List.cons_prefix_cons, ← ih cs, List.takeWhile_cons]
      by_cases hc : c = '#'
      · simp [hc]
      · simp [hc, Ne.symm hc]

/-- Signs in front of a text with a quote in it stand before the quote. -/
theorem replicate_prefix_of_append (n : Nat) (back rest : List Char)
    (h : List.replicate n '#' <+: back ++ '"' :: rest) : List.replicate n '#' <+: back := by
  induction n generalizing back with
  | zero => exact List.nil_prefix
  | succ n ih =>
    rw [List.replicate_succ] at h ⊢
    cases back with
    | nil => exact absurd (List.cons_prefix_cons.1 h).1 (by decide)
    | cons c back =>
      rw [List.cons_append, List.cons_prefix_cons] at h
      rw [List.cons_prefix_cons]
      exact ⟨h.1, ih back h.2⟩

/-- A raw string is cut after its quote and as many signs as it has. -/
theorem cutRaw_append (n : Nat) (body rest : List Char) (h : RawBody n body) :
    cutRaw n (body ++ '"' :: (List.replicate n '#' ++ rest)) =
      (body ++ '"' :: List.replicate n '#', rest) := by
  induction body with
  | nil =>
    have hsigns := (le_length_takeWhile_iff n (List.replicate n '#' ++ rest)).2
      (List.prefix_append _ _)
    show cutRaw n ('"' :: (List.replicate n '#' ++ rest)) = _
    unfold cutRaw
    rw [if_pos ⟨rfl, hsigns⟩, List.take_left' List.length_replicate,
      List.drop_left' List.length_replicate]
    rfl
  | cons c body ih =>
    have hbody : RawBody n body := fun front back heq => h (c :: front) back (by rw [heq]; rfl)
    have hopen : ¬ (c = '"' ∧
        n ≤ ((body ++ '"' :: (List.replicate n '#' ++ rest)).takeWhile (· == '#')).length) := by
      rintro ⟨rfl, hsigns⟩
      rw [le_length_takeWhile_iff] at hsigns
      exact h [] body rfl (replicate_prefix_of_append n body _ hsigns)
    rw [List.cons_append]
    unfold cutRaw
    rw [if_neg hopen, ih hbody]
    rfl

/-- A character literal is cut after the tick behind its character. -/
theorem cutTick_char (c : Char) (rest : List Char) (hbackslash : c ≠ '\\') :
    cutTick (c :: '\'' :: rest) = ([c, '\''], rest) := by
  rw [cutTick.eq_def]
  split
  · rename_i heq
    exact absurd (List.cons.inj heq).1 hbackslash
  · rename_i heq
    obtain ⟨rfl, htail⟩ := List.cons.inj heq
    obtain ⟨-, rfl⟩ := List.cons.inj htail
    rfl
  · rename_i hno
    exact absurd rfl (hno c rest)

/-- An escaped character literal without a tick in it is cut after its tick. -/
theorem cutTick_escaped (code rest : List Char) (htick : '\'' ∉ code) :
    cutTick ('\\' :: (code ++ '\'' :: rest)) = ('\\' :: (code ++ ['\'']), rest) := by
  have hall : ∀ c ∈ code, (c != '\'') = true := fun c hc => bne_iff_ne.2 fun heq => htick (heq ▸ hc)
  have hstop : ∀ c, ('\'' :: rest).head? = some c → (c != '\'') = false := by
    rintro c ⟨⟩
    rfl
  have hdrop := dropWhile_run (· != '\'') code ('\'' :: rest) hall hstop
  have htake := takeWhile_run (· != '\'') code ('\'' :: rest) hall hstop
  simp only [cutTick, hdrop, htake]

/-! ## Reading tokens -/

/-- An empty text has no tokens. -/
theorem ofText_nil : ofText [] = [] := by rw [ofText]

/-- The tokens of a text are its first token and those of the rest. -/
theorem ofText_cons (c : Char) (cs : List Char) (token : Token) (rest : List Char)
    (h : next c cs = (token, rest)) : ofText (c :: cs) = token :: ofText rest := by
  rw [ofText, h]

/-- A character that is neither a quote nor a letter of ASCII stands alone. -/
theorem next_mark (c : Char) (cs : List Char) (hquote : c ≠ '"') (htick : c ≠ '\'')
    (hpart : isWordPart c = false) : next c cs = (mark c, cs) := by
  unfold next
  rw [if_neg hquote, if_neg htick, if_neg (by rw [hpart]; decide)]

/-- The rest of a text that begins with letters of ASCII, none of which follows them. -/
theorem next_of_run (c : Char) (run rest : List Char) (hrun : ∀ d ∈ c :: run, isWordPart d = true)
    (hrest : ∀ d, rest.head? = some d → isWordPart d = false) :
    next c (run ++ rest) =
      match cutAfterWord? (c :: run) rest with
      | some cut => Prod.map (fun text => literal (c :: run ++ text)) id cut
      | none => (word (c :: run), rest) := by
  have hc : isWordPart c = true := hrun c List.mem_cons_self
  have hall : ∀ d ∈ run, isWordPart d = true := fun d hd => hrun d (List.mem_cons_of_mem c hd)
  have htake := takeWhile_run isWordPart run rest hall hrest
  have hdrop := dropWhile_run isWordPart run rest hall hrest
  have hquote : c ≠ '"' := fun heq => absurd (heq ▸ hc) (by decide)
  have htick : c ≠ '\'' := fun heq => absurd (heq ▸ hc) (by decide)
  have hnext : next c (run ++ rest) =
      match cutAfterWord? (c :: (run ++ rest).takeWhile isWordPart)
        ((run ++ rest).dropWhile isWordPart) with
      | some cut =>
        Prod.map (fun text => literal (c :: (run ++ rest).takeWhile isWordPart ++ text)) id cut
      | none =>
        (word (c :: (run ++ rest).takeWhile isWordPart), (run ++ rest).dropWhile isWordPart) :=
    (if_neg hquote).trans ((if_neg htick).trans (if_pos hc))
  rw [hnext, htake, hdrop]

/-- A text that does not go on as a raw string is none. -/
theorem cutRawAfter?_eq_none (cs : List Char)
    (h : ∀ n body, cs ≠ List.replicate n '#' ++ '"' :: body) : cutRawAfter? cs = none := by
  unfold cutRawAfter?
  dsimp only
  split
  · rename_i body hbody
    have hsigns : cs.takeWhile (· == '#') =
        List.replicate (cs.takeWhile (· == '#')).length '#' :=
      List.eq_replicate_of_mem fun d hd =>
        beq_iff_eq.1 (List.all_eq_true.1 List.all_takeWhile d hd)
    refine absurd ?_ (h (cs.takeWhile (· == '#')).length body)
    rw [← hsigns, ← hbody, List.takeWhile_append_dropWhile]
  · rfl

/-- A text that goes on as a raw string is cut behind it. -/
theorem cutRawAfter?_append (n : Nat) (body rest : List Char) (h : RawBody n body) :
    cutRawAfter? (List.replicate n '#' ++ '"' :: (body ++ '"' :: (List.replicate n '#' ++ rest))) =
      some (List.replicate n '#' ++ '"' :: (body ++ '"' :: List.replicate n '#'), rest) := by
  have hall : ∀ d ∈ List.replicate n '#', (d == '#') = true := fun d hd =>
    beq_iff_eq.2 (List.eq_of_mem_replicate hd)
  unfold cutRawAfter?
  rw [List.takeWhile_append_of_pos hall, List.dropWhile_append_of_pos hall]
  simp [cutRaw_append n body rest h]

/-- A word of ASCII that begins no literal is read as a word. -/
theorem next_word (c : Char) (w rest : List Char) (hword : ∀ d ∈ c :: w, isWordPart d = true)
    (hrest : ∀ d, rest.head? = some d → isWordPart d = false)
    (hopens : ¬ OpensLiteral (c :: w) rest) : next c (w ++ rest) = (word (c :: w), rest) := by
  have hnone : cutAfterWord? (c :: w) rest = none := by
    have hraw : c :: w ∈ [['r'], ['b', 'r'], ['c', 'r']] → cutRawAfter? rest = none :=
      fun hmark => cutRawAfter?_eq_none rest fun n body heq => hopens (heq ▸ .raw _ body n hmark)
    unfold cutAfterWord?
    split
    · rename_i hw
      exact hraw (by rw [hw]; decide)
    · rename_i hw
      exact hraw (by rw [hw]; decide)
    · rename_i hw
      exact hraw (by rw [hw]; decide)
    · rename_i hw
      rw [hw] at hopens
      exact absurd (.string ['b'] _ (by decide)) hopens
    · rename_i hw
      rw [hw] at hopens
      exact absurd (.string ['c'] _ (by decide)) hopens
    · rename_i hw
      rw [hw] at hopens
      exact absurd (.byte _) hopens
    · rfl
  rw [next_of_run c w rest hword hrest, hnone]

/-- The letters before a quote are letters of ASCII. -/
theorem isWordPart_of_mark (mark : List Char)
    (h : mark ∈ [['b'], ['c'], ['r'], ['b', 'r'], ['c', 'r']]) :
    ∃ c run, mark = c :: run ∧ ∀ d ∈ c :: run, isWordPart d = true := by
  have hmarks : ∀ mark ∈ [['b'], ['c'], ['r'], ['b', 'r'], ['c', 'r']],
      mark ≠ [] ∧ mark.all isWordPart = true := by decide
  obtain ⟨hne, hall⟩ := hmarks mark h
  obtain ⟨c, run, rfl⟩ := List.exists_cons_of_ne_nil hne
  exact ⟨c, run, rfl, List.all_eq_true.1 hall⟩

/-- The first token of a text is a literal that the text begins with. -/
def ReadsLiteral (text rest : List Char) : Prop :=
  ∃ c tail, text = c :: tail ∧ next c (tail ++ rest) = (literal text, rest)

/-- A literal with letters before its quote is read if it is cut off behind them. -/
theorem readsLiteral_marked (mark quoted rest : List Char)
    (hmark : mark ∈ [['b'], ['c'], ['r'], ['b', 'r'], ['c', 'r']])
    (hhead : ∀ d, (quoted ++ rest).head? = some d → isWordPart d = false)
    (hcut : cutAfterWord? mark (quoted ++ rest) = some (quoted, rest)) :
    ReadsLiteral (mark ++ quoted) rest := by
  obtain ⟨c, run, rfl, hrun⟩ := isWordPart_of_mark mark hmark
  refine ⟨c, run ++ quoted, rfl, ?_⟩
  rw [List.append_assoc, next_of_run c run (quoted ++ rest) hrun hhead, hcut]
  rfl

/-- A string is read. -/
theorem readsLiteral_string (mark body rest : List Char) (hmark : mark ∈ [[], ['b'], ['c']])
    (hbody : StringBody body) : ReadsLiteral (mark ++ '"' :: (body ++ ['"'])) rest := by
  have hcut := cutString_append body rest hbody
  have hhead : ∀ d, ('"' :: (body ++ ['"']) ++ rest).head? = some d → isWordPart d = false := by
    rintro d ⟨⟩
    decide
  simp only [List.mem_cons, List.not_mem_nil, or_false] at hmark
  rcases hmark with rfl | rfl | rfl
  · refine ⟨'"', _, rfl, ?_⟩
    unfold next
    rw [if_pos rfl, List.append_assoc, List.singleton_append, hcut]
    rfl
  · exact readsLiteral_marked ['b'] _ rest (by decide) hhead (by simp [cutAfterWord?, hcut])
  · exact readsLiteral_marked ['c'] _ rest (by decide) hhead (by simp [cutAfterWord?, hcut])

/-- A raw string is read. -/
theorem readsLiteral_raw (mark body rest : List Char) (n : Nat)
    (hmark : mark ∈ [['r'], ['b', 'r'], ['c', 'r']]) (hbody : RawBody n body) :
    ReadsLiteral
      (mark ++ (List.replicate n '#' ++ '"' :: (body ++ '"' :: List.replicate n '#'))) rest := by
  have hcut := cutRawAfter?_append n body rest hbody
  have hhead : ∀ d, (List.replicate n '#' ++ '"' :: (body ++ '"' :: List.replicate n '#') ++
      rest).head? = some d → isWordPart d = false := by
    cases n with
    | zero =>
      rintro d ⟨⟩
      decide
    | succ n =>
      rintro d ⟨⟩
      decide
  simp only [List.mem_cons, List.not_mem_nil, or_false] at hmark
  rcases hmark with rfl | rfl | rfl
  · exact readsLiteral_marked ['r'] _ rest (by decide) hhead (by simpa [cutAfterWord?] using hcut)
  · exact readsLiteral_marked ['b', 'r'] _ rest (by decide) hhead
      (by simpa [cutAfterWord?] using hcut)
  · exact readsLiteral_marked ['c', 'r'] _ rest (by decide) hhead
      (by simpa [cutAfterWord?] using hcut)

/-- A character literal is read if it is cut behind its last tick. -/
theorem readsLiteral_tick (mark text rest : List Char) (hmark : mark ∈ [[], ['b']])
    (hcut : cutTick (text ++ rest) = (text, rest)) :
    ReadsLiteral (mark ++ '\'' :: text) rest := by
  simp only [List.mem_cons, List.not_mem_nil, or_false] at hmark
  rcases hmark with rfl | rfl
  · refine ⟨'\'', text, rfl, ?_⟩
    unfold next
    rw [if_neg (by decide), if_pos rfl, hcut]
    rfl
  · refine readsLiteral_marked ['b'] _ rest (by decide) ?_ (by simp [cutAfterWord?, hcut])
    rintro d ⟨⟩
    decide

/-- A literal that is an escaped tick ends one character early, and its last tick is left over. -/
theorem next_escapedTick (rest : List Char) :
    next '\'' ('\\' :: '\'' :: '\'' :: rest) = (literal "'\\'".toList, '\'' :: rest) := rfl

/-- A whole literal that is no escaped tick is read. -/
theorem readsLiteral (text rest : List Char) (htext : IsLiteral text)
    (htick : text ∉ ["'\\''".toList, "b'\\''".toList]) : ReadsLiteral text rest := by
  cases htext with
  | string mark body hmark hbody => exact readsLiteral_string mark body rest hmark hbody
  | raw mark body n hmark hbody => exact readsLiteral_raw mark body rest n hmark hbody
  | char mark d hmark hd hbackslash =>
    exact readsLiteral_tick mark [d, '\''] rest hmark (cutTick_char d rest hbackslash)
  | escaped mark code hmark hcode =>
    have hne : code ≠ ['\''] := by
      rintro rfl
      simp only [List.mem_cons, List.not_mem_nil, or_false] at hmark
      rcases hmark with rfl | rfl <;> exact htick (by decide)
    refine readsLiteral_tick mark ('\\' :: (code ++ ['\''])) rest hmark ?_
    rw [List.cons_append, List.append_assoc]
    exact cutTick_escaped code rest (hcode.tick_not_mem code hne)

end Token

end DataShape
