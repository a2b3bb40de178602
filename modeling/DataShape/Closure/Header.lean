import DataShape.Text.Blank

/-!
# Headers of closure texts

A closure text is a parameter list between bars and a body, perhaps after the word `move`. Commas
and bars count only outside brackets; angle brackets count as brackets, and a closing bracket that
was never opened changes nothing. Of a parameter only the name is kept, without its type, its
references and `mut`.
-/

namespace DataShape

/-- A closure text taken apart. -/
structure ClosureText where
  params : List (List Char)
  body : List Char

namespace ClosureText

/-- Drops the blanks at the beginning. -/
def trimLeft (cs : List Char) : List Char := cs.dropWhile isBlank

/-- Drops the blanks at the end. -/
def trimRight (cs : List Char) : List Char := (cs.reverse.dropWhile isBlank).reverse

/-- Drops the blanks at both ends. -/
def trim (cs : List Char) : List Char := trimLeft (trimRight cs)

/-- Drops the word `move` in front, if a blank or a bar follows. -/
def dropMove : List Char → List Char
  | 'm' :: 'o' :: 'v' :: 'e' :: c :: cs =>
    if isBlank c || c == '|' then trimLeft (c :: cs) else 'm' :: 'o' :: 'v' :: 'e' :: c :: cs
  | cs => cs

/-- How deep in brackets the text is after a character. -/
def depthAfter (depth : Nat) (c : Char) : Nat :=
  if c = '<' || c = '(' || c = '[' then depth + 1
  else if c = '>' || c = ')' || c = ']' then depth - 1
  else depth

/-- Cuts a text at the first bar outside brackets. -/
def cutAtBar? (depth : Nat) : List Char → Option (List Char × List Char)
  | [] => none
  | c :: cs =>
    if c = '|' ∧ depth = 0 then some ([], cs)
    else (cutAtBar? (depthAfter depth c) cs).map (Prod.map (c :: ·) id)

/-- The name in a parameter: what stands before the first colon, without references and `mut`. -/
def paramName (param : List Char) : List Char :=
  let name := trimLeft ((trim (param.takeWhile (· != ':'))).dropWhile (· == '&'))
  match name with
  | 'm' :: 'u' :: 't' :: ' ' :: rest => trimLeft rest
  | _ => name

/-- Cuts a parameter list at its commas outside brackets. -/
def cutAtCommas (depth : Nat) : List Char → List (List Char)
  | [] => [[]]
  | c :: cs =>
    if c = ',' ∧ depth = 0 then [] :: cutAtCommas 0 cs
    else match cutAtCommas (depthAfter depth c) cs with
      | [] => [[c]]
      | first :: rest => (c :: first) :: rest

/-- The names in a parameter list. A list that names nothing has no parameters. -/
def paramNames (list : List Char) : List (List Char) :=
  match (cutAtCommas 0 list).map paramName with
  | [[]] => []
  | names => names

/-- The closure text that a text spells, if its parameter list begins and ends. -/
def ofText? (cs : List Char) : Option ClosureText :=
  match dropMove cs with
  | '|' :: '|' :: body => some { params := [], body := trimLeft body }
  | '|' :: rest => do
    let (list, body) ← cutAtBar? 0 rest
    return { params := paramNames list, body := trimLeft body }
  | _ => none

end ClosureText

end DataShape
