/-!
# Tokens of an expression

The text of an expression is cut into literals, words and single characters. A literal is a string
or a character between quotes, with the letters that may stand before it: `b`, `c`, `r`, `br` and
`cr`, the last three for raw strings, which end at a quote followed by as many `#` as stood before
the opening one. A literal that never ends goes on to the end of the text, and a tick that opens no
character literal stands alone.

The tokens of a text, put together, are the text: `Token.text_next` says so for one token.
-/

namespace DataShape

/-- A token of an expression. -/
inductive Token
  | literal (text : List Char)
  | word (text : List Char)
  | mark (c : Char)
deriving DecidableEq

namespace Token

/-- The text of a token. -/
def text : Token → List Char
  | literal text => text
  | word text => text
  | mark c => [c]

/-- A character that words are made of. -/
def isWordPart (c : Char) : Bool := c.isAlphanum || c == '_'

/-- Cuts a text after the quote that ends a string. A backslash takes the next character with it. -/
def cutString : List Char → List Char × List Char
  | [] => ([], [])
  | '\\' :: c :: cs => Prod.map ('\\' :: c :: ·) id (cutString cs)
  | c :: cs =>
    if c = '"' then (['"'], cs)
    else Prod.map (c :: ·) id (cutString cs)

/-- Cuts a text after the quote and the `n` signs that end a raw string. -/
def cutRaw (n : Nat) : List Char → List Char × List Char
  | [] => ([], [])
  | c :: cs =>
    if c = '"' ∧ n ≤ (cs.takeWhile (· == '#')).length then ('"' :: cs.take n, cs.drop n)
    else Prod.map (c :: ·) id (cutRaw n cs)

/-- Cuts a text after the tick that ends a character literal, if one does. After a backslash the
next tick ends the literal, else the one after the next character. -/
def cutTick : List Char → List Char × List Char
  | '\\' :: cs =>
    match cs.dropWhile (· != '\'') with
    | '\'' :: rest => ('\\' :: (cs.takeWhile (· != '\'') ++ ['\'']), rest)
    | _ => ([], '\\' :: cs)
  | c :: '\'' :: cs => ([c, '\''], cs)
  | cs => ([], cs)

/-- Cuts the rest of a raw string off a text that follows its letters, if the text goes on as one.
-/
def cutRawAfter? (cs : List Char) : Option (List Char × List Char) :=
  let signs := cs.takeWhile (· == '#')
  match cs.dropWhile (· == '#') with
  | '"' :: body => some (Prod.map (signs ++ '"' :: ·) id (cutRaw signs.length body))
  | _ => none

/-- Cuts the rest of a literal off a text that follows a word, if the word begins one. -/
def cutAfterWord? (word cs : List Char) : Option (List Char × List Char) :=
  match word, cs with
  | ['r'], _ => cutRawAfter? cs
  | ['b', 'r'], _ => cutRawAfter? cs
  | ['c', 'r'], _ => cutRawAfter? cs
  | ['b'], '"' :: body => some (Prod.map ('"' :: ·) id (cutString body))
  | ['c'], '"' :: body => some (Prod.map ('"' :: ·) id (cutString body))
  | ['b'], '\'' :: body => some (Prod.map ('\'' :: ·) id (cutTick body))
  | _, _ => none

/-- The first token of a text that begins with `c`, and the rest of the text. -/
def next (c : Char) (cs : List Char) : Token × List Char :=
  if c = '"' then Prod.map (fun text => literal (c :: text)) id (cutString cs)
  else if c = '\'' then Prod.map (fun text => literal (c :: text)) id (cutTick cs)
  else if isWordPart c then
    let w := c :: cs.takeWhile isWordPart
    match cutAfterWord? w (cs.dropWhile isWordPart) with
    | some cut => Prod.map (fun text => literal (w ++ text)) id cut
    | none => (word w, cs.dropWhile isWordPart)
  else (mark c, cs)

theorem append_cutString (cs : List Char) : (cutString cs).1 ++ (cutString cs).2 = cs := by
  fun_induction cutString cs <;> simp_all

theorem append_cutRaw (n : Nat) (cs : List Char) : (cutRaw n cs).1 ++ (cutRaw n cs).2 = cs := by
  fun_induction cutRaw n cs <;> simp_all

theorem append_cutTick (cs : List Char) : (cutTick cs).1 ++ (cutTick cs).2 = cs := by
  fun_cases cutTick cs with
  | case1 cs rest h =>
    have := List.takeWhile_append_dropWhile (p := (· != '\'')) (l := cs)
    simp_all
  | case2 => simp
  | case3 => simp
  | case4 => simp

theorem append_cutRawAfter? {cs : List Char} {cut : List Char × List Char}
    (h : cutRawAfter? cs = some cut) : cut.1 ++ cut.2 = cs := by
  simp only [cutRawAfter?] at h
  split at h
  · rename_i body hb
    cases h
    have := List.takeWhile_append_dropWhile (p := (· == '#')) (l := cs)
    simp_all [append_cutRaw]
  · cases h

theorem append_cutAfterWord? {word cs : List Char} {cut : List Char × List Char}
    (h : cutAfterWord? word cs = some cut) : cut.1 ++ cut.2 = cs := by
  simp only [cutAfterWord?] at h
  split at h
  · exact append_cutRawAfter? h
  · exact append_cutRawAfter? h
  · exact append_cutRawAfter? h
  · cases h; simp [append_cutString]
  · cases h; simp [append_cutString]
  · cases h; simp [append_cutTick]
  · cases h

/-- A token and the rest of the text are the text. -/
theorem text_next (c : Char) (cs : List Char) : (next c cs).1.text ++ (next c cs).2 = c :: cs := by
  simp only [next]
  split
  · simp [text, append_cutString]
  split
  · simp [text, append_cutTick]
  split
  · split
    · rename_i cut hcut
      have := append_cutAfterWord? hcut
      have := List.takeWhile_append_dropWhile (p := isWordPart) (l := cs)
      simp_all [text]
    · simp [text]
  · simp [text]

/-- No token is empty. -/
theorem text_next_ne_nil (c : Char) (cs : List Char) : (next c cs).1.text ≠ [] := by
  simp only [next]
  repeat' split
  all_goals simp [text]

/-- What follows a token is shorter than the text. -/
theorem length_next_lt (c : Char) (cs : List Char) : (next c cs).2.length < (c :: cs).length := by
  have h := congrArg List.length (text_next c cs)
  have := List.length_pos_iff.2 (text_next_ne_nil c cs)
  simp only [List.length_append] at h
  omega

/-- The tokens of a text. -/
def ofText : List Char → List Token
  | [] => []
  | c :: cs => (next c cs).1 :: ofText (next c cs).2
termination_by cs => cs.length
decreasing_by exact length_next_lt c cs

/-- The tokens of a text, put together, are the text. -/
theorem flatMap_text_ofText (cs : List Char) : (ofText cs).flatMap text = cs := by
  fun_induction ofText cs with
  | case1 => rfl
  | case2 c cs ih => rw [List.flatMap_cons, ih, text_next]

end Token

end DataShape
