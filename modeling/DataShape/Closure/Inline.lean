import DataShape.Closure.Header
import DataShape.Closure.Token

/-!
# Inlining closure texts

A closure text with a single expression as its body is inlined by putting replacements in the
places of its parameters. This is done in two steps. The body is first cut into the pieces of a
template, the places of parameters being numbered slots, and then the slots are filled. A word is a
slot if it names a parameter that has a replacement and does not follow a point or a path
separator.

A body that is a block, a body after a result type and a body with a closure in it are not taken
apart. The closure is then called with the replacements as its arguments.
-/

namespace DataShape

/-- A piece of a template. -/
inductive Piece
  | text (cs : List Char)
  /-- The place of a replacement. -/
  | slot (index : Nat)
deriving DecidableEq

namespace Piece

/-- The text of a piece with the replacements put in. -/
def fill (replacements : List (List Char)) : Piece → List Char
  | text cs => cs
  | slot i => replacements[i]?.getD []

end Piece

namespace ClosureText

/-- The characters after which an operand is expected. -/
def operandMarks : List Char := "([\x7b,;=!&+-*/<>".toList

/-- A bar opens a closure where an operand is expected: at the beginning, after an opening bracket,
a separator or an operator, and after `move` or `return`. The text before it is given from its end.
-/
def opensClosure (before : List Char) : Bool :=
  match before.dropWhile isBlank with
  | [] => true
  | c :: cs =>
    operandMarks.contains c || "evom".toList.isPrefixOf (c :: cs)
      || "nruter".toList.isPrefixOf (c :: cs)

/-- A word after one point or after two colons names a member. The text before it is given from its
end. -/
def isMember (before : List Char) : Bool :=
  match before.dropWhile isBlank with
  | '.' :: '.' :: _ => false
  | '.' :: _ => true
  | ':' :: ':' :: _ => true
  | _ => false

/-- The piece for a word, given the text before it from its end. -/
def wordPiece (params : List (List Char)) (count : Nat) (before word : List Char) : Piece :=
  match params.idxOf? word with
  | some i => if i < count && !isMember before then .slot i else .text word
  | none => .text word

/-- The pieces of the tokens of a body, given the text before them from its end, or nothing if a
closure opens among them. `count` is the number of replacements. -/
def pieces? (params : List (List Char)) (count : Nat) (before : List Char) :
    List Token → Option (List Piece)
  | [] => some []
  | token :: rest =>
    let piece? : Option Piece :=
      match token with
      | .literal text => some (.text text)
      | .word text => some (wordPiece params count before text)
      | .mark c => if c = '|' && opensClosure before then none else some (.text [c])
    match piece? with
    | none => none
    | some piece => (pieces? params count (token.text.reverse ++ before) rest).map (piece :: ·)

/-- The body begins as a block or as a result type. -/
def hasBlockBody (closure : ClosureText) : Bool :=
  "\x7b".toList.isPrefixOf closure.body || "->".toList.isPrefixOf closure.body

/-- The template of a closure for a number of replacements, if the closure can be inlined. -/
def template? (closure : ClosureText) (count : Nat) : Option (List Piece) :=
  if closure.hasBlockBody then none
  else pieces? closure.params count [] (Token.ofText closure.body)

/-- A call of a closure text with the given arguments. -/
def call (source : String) (args : List String) : String :=
  "(" ++ String.ofList (trim source.toList) ++ ")(" ++ ", ".intercalate args ++ ")"

/-- A closure text with replacements for its parameters. A text that is no closure stays as it is,
but for the blanks around it. -/
def inlineText (source : String) (replacements : List String) : String :=
  let text := trim source.toList
  match ofText? text with
  | none => String.ofList text
  | some closure =>
    match closure.template? replacements.length with
    | none => call source replacements
    | some pieces =>
      String.ofList (trimRight (pieces.flatMap (Piece.fill (replacements.map String.toList))))

end ClosureText

end DataShape
