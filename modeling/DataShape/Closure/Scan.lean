import DataShape.Closure.Inline

/-!
# Scanning by positions

The inliner can also be told as a machine that holds a text in a row and moves positions about in
it. The header is cut at byte positions, which have to stand between two characters, the body is
looked at by the positions of its characters. Whatever is asked for has to be there: an item past
the end of its row, a piece that ends before it begins or past the end, and a byte position inside a
character are faults, and so is a step that does not go on, since the scan would never end.

`Scan.inlineText` is `ClosureText.inlineText` worked out in this way. Here a fault stands for a
crash; that there is none is a theorem.
-/

namespace DataShape.Scan

open ClosureText Token

/-- Why a scan breaks off. -/
inductive Fault
  /-- The row has no item at the position. -/
  | index (i : Nat)
  /-- The text has no piece between the positions. -/
  | piece (start stop : Nat)
  /-- The byte position is past the end of the text or inside a character. -/
  | offset
  /-- The step at the position does not go on. -/
  | stalled (i : Nat)
deriving DecidableEq

/-- The item at a position. -/
def itemAt {α : Type} (row : List α) (i : Nat) : Except Fault α :=
  match row[i]? with
  | some a => .ok a
  | none => .error (.index i)

/-- The piece between two positions. -/
def piece (chars : List Char) (start stop : Nat) : Except Fault (List Char) :=
  if start ≤ stop ∧ stop ≤ chars.length then .ok ((chars.take stop).drop start)
  else .error (.piece start stop)

/-- Cuts a text at a byte position. -/
def cutAt : List Char → Nat → Except Fault (List Char × List Char)
  | cs, 0 => .ok ([], cs)
  | [], _ + 1 => .error .offset
  | c :: cs, n + 1 =>
    if c.utf8Size ≤ n + 1 then (cutAt cs (n + 1 - c.utf8Size)).map (Prod.map (c :: ·) id)
    else .error .offset

/-- The text between two byte positions. -/
def between (cs : List Char) (start stop : Nat) : Except Fault (List Char) := do
  let (front, _) ← cutAt cs stop
  let (_, text) ← cutAt front start
  return text

/-! ## The header -/

/-- The byte position of the first bar outside brackets. The text itself begins at `offset`. -/
def barOffset? (depth offset : Nat) : List Char → Option Nat
  | [] => none
  | c :: cs =>
    if c = '|' ∧ depth = 0 then some offset
    else barOffset? (depthAfter depth c) (offset + c.utf8Size) cs

/-- The names in the parameters that end with a comma, and the byte position behind the last one.
What is left of the list begins at `offset`, and the parameter it begins in at `start`. -/
def endedParams (list : List Char) (depth start offset : Nat) (names : List (List Char)) :
    List Char → Except Fault (List (List Char) × Nat)
  | [] => .ok (names, start)
  | c :: cs =>
    if c = ',' ∧ depth = 0 then do
      let param ← between list start offset
      endedParams list depth (offset + 1) (offset + 1) (names ++ [paramName param]) cs
    else endedParams list (depthAfter depth c) start (offset + c.utf8Size) names cs

/-- The names in a parameter list. An empty last name counts if there are others. -/
def paramNames (list : List Char) : Except Fault (List (List Char)) := do
  let (names, start) ← endedParams list 0 0 0 [] list
  let (_, rest) ← cutAt list start
  let last := paramName rest
  return if last.isEmpty && names.isEmpty then [] else names ++ [last]

/-- The closure text that a text spells, if its parameter list begins and ends. -/
def split (cs : List Char) : Except Fault (Option ClosureText) :=
  match dropMove cs with
  | '|' :: '|' :: body => .ok (some { params := [], body := trimLeft body })
  | '|' :: rest =>
    match barOffset? 0 0 rest with
    | none => .ok none
    | some stop => do
      let (list, _) ← cutAt rest stop
      let params ← paramNames list
      let (_, body) ← cutAt rest (stop + 1)
      return some { params, body := trimLeft body }
  | _ => .ok none

/-! ## Literals -/

/-- Copies a string from a position behind its first quote on. -/
def copyStringFrom (chars : List Char) (i : Nat) (out : List Char) :
    Except Fault (Nat × List Char) :=
  if i < chars.length then do
    let c ← itemAt chars i
    if c = '\\' ∧ i + 1 < chars.length then do
      let next ← itemAt chars (i + 1)
      copyStringFrom chars (i + 2) (out ++ [c, next])
    else if c = '"' then return (i + 1, out ++ [c])
    else copyStringFrom chars (i + 1) (out ++ [c])
  else .ok (i, out)
termination_by chars.length - i

/-- Copies the string whose first quote stands at a position. The new position is behind it. -/
def copyString (chars : List Char) (start : Nat) (out : List Char) :
    Except Fault (Nat × List Char) :=
  copyStringFrom chars (start + 1) (out ++ ['"'])

/-- The position of the tick that ends the character literal whose first tick stands at a position,
if one does. -/
def tickEnd? (chars : List Char) (start : Nat) : Except Fault (Option Nat) :=
  match chars[start + 1]? with
  | some '\\' => do
    let tail ← piece chars (start + 2) chars.length
    return (tail.findIdx? (· == '\'')).map (start + 2 + ·)
  | some _ => .ok (if chars[start + 2]? = some '\'' then some (start + 2) else none)
  | none => .ok none

/-- Copies the character literal whose first tick stands at a position, or the tick alone. -/
def copyTick (chars : List Char) (start : Nat) (out : List Char) :
    Except Fault (Nat × List Char) := do
  match ← tickEnd? chars start with
  | some stop =>
    let text ← piece chars start (stop + 1)
    return (stop + 1, out ++ text)
  | none => return (start + 1, out ++ ['\''])

/-- The number of signs that stand together from a position on. -/
def signsFrom (chars : List Char) (i : Nat) : Except Fault Nat := do
  let tail ← piece chars i chars.length
  return (tail.takeWhile (· == '#')).length

/-- The position behind a raw string, looked for from a position inside it on. -/
def rawEnd (chars : List Char) (signs i : Nat) : Except Fault Nat :=
  if i < chars.length then do
    let c ← itemAt chars i
    if c = '"' then do
      let found ← signsFrom chars (i + 1)
      if signs ≤ found then return i + 1 + signs else rawEnd chars signs (i + 1)
    else rawEnd chars signs (i + 1)
  else .ok chars.length
termination_by chars.length - i

/-- The position behind the raw string whose letters end at a position, if there is one. -/
def rawLiteral? (chars : List Char) (i : Nat) : Except Fault (Option Nat) := do
  let signs ← signsFrom chars i
  if chars[i + signs]? = some '"' then
    let stop ← rawEnd chars signs (i + signs + 1)
    return some stop
  else return none

/-- The position behind the literal that begins with a word, if there is one. The word ends at the
given position. -/
def literalAfter? (chars word : List Char) (i : Nat) : Except Fault (Option Nat) :=
  match word with
  | ['r'] => rawLiteral? chars i
  | ['b', 'r'] => rawLiteral? chars i
  | ['c', 'r'] => rawLiteral? chars i
  | ['b'] =>
    match chars[i]? with
    | some '"' => (copyString chars i []).map fun copied => some copied.1
    | some '\'' => (copyTick chars i []).map fun copied => some copied.1
    | _ => .ok none
  | ['c'] =>
    match chars[i]? with
    | some '"' => (copyString chars i []).map fun copied => some copied.1
    | _ => .ok none
  | _ => .ok none

/-! ## Words and bars -/

/-- The position behind the word characters from a position on. -/
def wordEnd (chars : List Char) (i : Nat) : Except Fault Nat :=
  if i < chars.length then do
    let c ← itemAt chars i
    if isWordPart c then wordEnd chars (i + 1) else return i
  else .ok i
termination_by chars.length - i

/-- Goes back over blanks. -/
def backOverBlanks (chars : List Char) : Nat → Except Fault Nat
  | 0 => .ok 0
  | j + 1 => do
    let c ← itemAt chars j
    if isBlank c then backOverBlanks chars j else return j + 1

/-- A character stands right before a position. -/
def standsBefore (chars : List Char) (c : Char) : Nat → Except Fault Bool
  | 0 => .ok false
  | j + 1 => do
    let d ← itemAt chars j
    return d == c

/-- The word at a position names a member: up to blanks it follows one point or two colons. -/
def isMemberAt (chars : List Char) (start : Nat) : Except Fault Bool := do
  match ← backOverBlanks chars start with
  | 0 => return false
  | j + 1 =>
    match ← itemAt chars j with
    | '.' => (standsBefore chars '.' j).map (!·)
    | ':' => standsBefore chars ':' j
    | _ => return false

/-- The bar at a position opens a closure. -/
def opensClosureAt (chars : List Char) (i : Nat) : Except Fault Bool := do
  let before ← piece chars 0 i
  return opensClosure before.reverse

/-! ## The scan -/

section

variable (params replacements : List (List Char)) (chars : List Char)

/-- What a word at a position is replaced by. -/
def wordText (start : Nat) (word : List Char) : Except Fault (List Char) :=
  match params.idxOf? word with
  | none => .ok word
  | some k =>
    if k < replacements.length then do
      let member ← isMemberAt chars start
      if member then return word else itemAt replacements k
    else .ok word

/-- Goes over the word at a position, or over the literal that begins with it. -/
def wordStep (i : Nat) (out : List Char) : Except Fault (Nat × List Char) := do
  let stop ← wordEnd chars i
  let word ← piece chars i stop
  match ← literalAfter? chars word stop with
  | some stop =>
    let text ← piece chars i stop
    return (stop, out ++ text)
  | none =>
    let text ← wordText params replacements chars i word
    return (stop, out ++ text)

/-- One step of a scan: the next position and what is written up to there, or nothing if a closure
opens. -/
def step (i : Nat) (out : List Char) : Except Fault (Option (Nat × List Char)) := do
  let c ← itemAt chars i
  if c = '"' then (copyString chars i out).map some
  else if c = '\'' then (copyTick chars i out).map some
  else
    let opens ← if c = '|' then opensClosureAt chars i else .ok false
    if opens then return none
    else if isWordPart c then (wordStep params replacements chars i out).map some
    else return some (i + 1, out ++ [c])

/-- Goes from a position to the end of the text, or to the first closure that opens. -/
def scan (i : Nat) (out : List Char) : Except Fault (Option (List Char)) :=
  if i < chars.length then
    match step params replacements chars i out with
    | .error fault => .error fault
    | .ok none => .ok none
    | .ok (some (j, out)) => if i < j then scan j out else .error (.stalled i)
  else .ok (some (trimRight out))
termination_by chars.length - i

end

/-- A closure text with replacements for its parameters, worked out by positions. -/
def inlineText (source : String) (replacements : List String) : Except Fault String := do
  let text := trim source.toList
  match ← split text with
  | none => return String.ofList text
  | some closure =>
    if closure.hasBlockBody then return call source replacements
    else
      match ← scan closure.params (replacements.map String.toList) closure.body 0 [] with
      | none => return call source replacements
      | some inlined => return String.ofList inlined

end DataShape.Scan
