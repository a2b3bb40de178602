import DataShape.Text.Blank
import DataShape.Text.CaseVariant
import DataShape.Text.Digit
import DataShape.Text.Word

/-!
# Sets of characters in patterns

A set is kept as the ascending list of the code points at which membership changes: the first begins
a run of members, the second ends it, the third begins the next, and so on. So equal sets have equal
lists, and every operation on two sets is one merge of two lists (`CharSet.combine`).
-/

namespace DataShape

/-- A set of characters. -/
structure CharSet where
  /-- The code points at which membership changes, in ascending order. -/
  edges : List Nat
deriving DecidableEq

namespace CharSet

/-- Membership of a code point, where `inside` says whether the members begin before all edges. -/
def containsFrom (inside : Bool) (n : Nat) : List Nat → Bool
  | [] => inside
  | edge :: edges => if n < edge then inside else containsFrom (!inside) n edges

/-- The code point is in the set. -/
def containsCode (s : CharSet) (n : Nat) : Bool := containsFrom false n s.edges

/-- The character is in the set. -/
def contains (s : CharSet) (c : Char) : Bool := s.containsCode c.toNat

/-- The set without members. -/
def empty : CharSet := ⟨[]⟩

/-- The set of the characters from the first to the last. -/
def range (first last : Char) : CharSet :=
  if first ≤ last then ⟨[first.toNat, last.toNat + 1]⟩ else empty

/-- The set of one character. -/
def single (c : Char) : CharSet := range c c

/-- The set of the code points of a table. No two ranges of a table touch. -/
def ofTable (table : CodeRanges) : CharSet :=
  ⟨table.flatMap fun range => [range.1, range.2 + 1]⟩

/-- The characters that are no members. -/
def complement (s : CharSet) : CharSet :=
  match s.edges with
  | 0 :: edges => ⟨edges⟩
  | edges => ⟨0 :: edges⟩

/-- Puts an edge in front of later ones if membership changes at it. -/
def consEdge (before after : Bool) (edge : Nat) (later : List Nat) : List Nat :=
  if before = after then later else edge :: later

/-- Merges two lists of edges. The flags say whether the places before the next edges are in the
first set and in the second. -/
def combineEdges (op : Bool → Bool → Bool) (a b : Bool) : List Nat → List Nat → List Nat
  | [], [] => []
  | x :: xs, [] => consEdge (op a b) (op (!a) b) x (combineEdges op (!a) b xs [])
  | [], y :: ys => consEdge (op a b) (op a (!b)) y (combineEdges op a (!b) [] ys)
  | x :: xs, y :: ys =>
    if x < y then consEdge (op a b) (op (!a) b) x (combineEdges op (!a) b xs (y :: ys))
    else if y < x then consEdge (op a b) (op a (!b)) y (combineEdges op a (!b) (x :: xs) ys)
    else consEdge (op a b) (op (!a) (!b)) x (combineEdges op (!a) (!b) xs ys)
termination_by xs ys => xs.length + ys.length

/-- The set of the characters for which the operation on the two memberships gives `true`. What is
in neither set is not in the result. -/
def combine (op : Bool → Bool → Bool) (s t : CharSet) : CharSet :=
  ⟨combineEdges op false false s.edges t.edges⟩

/-- The members of one set or the other. -/
def union : CharSet → CharSet → CharSet := combine (· || ·)

/-- The members of both sets. -/
def intersection : CharSet → CharSet → CharSet := combine (· && ·)

/-- The members of the first set that are not in the second. -/
def difference : CharSet → CharSet → CharSet := combine fun x y => x && !y

/-- The members of exactly one of two sets. -/
def symmetricDifference : CharSet → CharSet → CharSet := combine (· != ·)

/-- The union of ranges. -/
def ofRanges (ranges : List (Char × Char)) : CharSet :=
  ranges.foldl (fun s r => s.union (range r.1 r.2)) empty

/-- The characters with a case variant in the set, the members themselves among them. -/
def caseless (s : CharSet) : CharSet :=
  (caseClasses.filter (·.any s.containsCode)).foldl
    (fun t variants => variants.foldl (fun t n => t.union ⟨[n, n + 1]⟩) t) s

/-- Decimal digits. -/
def digit : CharSet := ofTable digitRanges

/-- White space. -/
def blank : CharSet := ofTable blankRanges

/-- Word characters. -/
def word : CharSet := ofTable wordRanges

/-- The runs of members, as their first and last code points. -/
def runsOf : List Nat → CodeRanges
  | first :: stop :: edges => (first, stop - 1) :: runsOf edges
  | [first] => [(first, 0x10FFFF)]
  | [] => []

/-- The ranges of code points that make up the set. -/
def ranges (s : CharSet) : CodeRanges := runsOf s.edges

/-- The only member of the set. -/
def single? (s : CharSet) : Option Char :=
  match s.edges with
  | [first, stop] => if stop = first + 1 then some (Char.ofNat first) else none
  | _ => none

/-- The sets of ASCII characters that have a name. -/
def named? : String → Option CharSet
  | "alnum" => some (ofRanges [('0', '9'), ('A', 'Z'), ('a', 'z')])
  | "alpha" => some (ofRanges [('A', 'Z'), ('a', 'z')])
  | "ascii" => some (ofRanges [('\x00', '\x7f')])
  | "blank" => some (ofRanges [('\t', '\t'), (' ', ' ')])
  | "cntrl" => some (ofRanges [('\x00', '\x1f'), ('\x7f', '\x7f')])
  | "digit" => some (ofRanges [('0', '9')])
  | "graph" => some (ofRanges [('!', '~')])
  | "lower" => some (ofRanges [('a', 'z')])
  | "print" => some (ofRanges [(' ', '~')])
  | "punct" => some (ofRanges [('!', '/'), (':', '@'), ('[', '\x60'), ('\x7b', '~')])
  | "space" => some (ofRanges [('\t', '\r'), (' ', ' ')])
  | "upper" => some (ofRanges [('A', 'Z')])
  | "word" => some (ofRanges [('0', '9'), ('A', 'Z'), ('_', '_'), ('a', 'z')])
  | "xdigit" => some (ofRanges [('0', '9'), ('A', 'F'), ('a', 'f')])
  | _ => none

end CharSet

end DataShape
