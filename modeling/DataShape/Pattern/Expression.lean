import DataShape.Pattern.CharSet

/-!
# Regular expressions

Expressions are built by `Regex.ofSet`, `concat`, `alternation`, `repeated` and `group`, which keep
them in a normal form: texts that follow each other are one text, a set of one character is a text,
a sequence or an alternative within another of its kind is part of it, alternatives that are all
characters or all sets are one set, and what the items of all alternatives begin with is taken out
in front. What an expression matches does not depend on its form, but how much room it takes does.
-/

namespace DataShape

/-- A condition on a place in a text. -/
inductive Assertion
  | textStart
  | textEnd
  | lineStart
  | lineEnd
  | wordBoundary
  | notWordBoundary
  | wordStart
  | wordEnd
deriving DecidableEq

/-- A regular expression. -/
inductive Regex
  /-- The characters as they stand. -/
  | text (cs : List Char)
  /-- One character of the set. -/
  | one (s : CharSet)
  | assertion (a : Assertion)
  | seq (r s : Regex)
  | alt (r s : Regex)
  /-- At least `least` and, if given, at most `most?` matches of `r` in a row. -/
  | times (r : Regex) (least : Nat) (most? : Option Nat) (greedy : Bool)
  /-- A group whose match is kept. Each has a number of its own. -/
  | group (number : Nat) (r : Regex)
deriving DecidableEq

namespace Regex

/-- The expression that matches the empty text. -/
def empty : Regex := text []

/-- One character of a set. -/
def ofSet (s : CharSet) : Regex :=
  match s.single? with
  | some c => text [c]
  | none => one s

/-- The expressions that follow each other in a sequence. -/
def items : Regex → List Regex
  | text [] => []
  | seq r s => r.items ++ s.items
  | r => [r]

/-- The alternatives. -/
def branches : Regex → List Regex
  | alt r s => r.branches ++ s.branches
  | r => [r]

/-- Joins texts that follow each other. -/
def joinTexts : List Regex → List Regex
  | [] => []
  | text cs :: rest =>
    match joinTexts rest with
    | text ds :: rest => text (cs ++ ds) :: rest
    | rest => text cs :: rest
  | r :: rest => r :: joinTexts rest

/-- The expressions one after the other. -/
def concat (rs : List Regex) : Regex :=
  match (joinTexts (rs.flatMap items)).reverse with
  | [] => empty
  | last :: before => before.foldl (fun rest r => seq r rest) last

/-- The character that the expression stands for. -/
def char? : Regex → Option Char
  | text [c] => some c
  | _ => none

/-- The set whose characters the expression stands for. -/
def set? : Regex → Option CharSet
  | one s => some s
  | _ => none

/-- The one set that expressions stand for when all are characters or all are sets. -/
def commonSet? (rs : List Regex) : Option CharSet :=
  match rs.mapM char? with
  | some cs => some (.ofRanges (cs.map fun c => (c, c)))
  | none => (rs.mapM set?).map (·.foldl .union .empty)

/-- The expressions as alternatives, without a look at what they begin with. -/
def either (rs : List Regex) : Regex :=
  let rs := rs.flatMap branches
  match rs, commonSet? rs with
  | [r], _ => r
  | _, some s => ofSet s
  | _, none =>
    match rs.reverse with
    | [] => one .empty
    | last :: before => before.foldl (fun rest r => alt r rest) last

/-- The longest list that two lists begin with. -/
def commonStart : List Regex → List Regex → List Regex
  | r :: rs, s :: ss => if r = s then r :: commonStart rs ss else []
  | _, _ => []

/-- The items with which all of several sequences begin. An expression of one item is no
sequence. -/
def sharedItems (rs : List Regex) : List Regex :=
  match rs.map items with
  | first :: second :: more =>
    if (first :: second :: more).all (2 ≤ ·.length) then
      more.foldl commonStart (commonStart first second)
    else []
  | _ => []

/-- The expressions as alternatives. -/
def alternation (rs : List Regex) : Regex :=
  let rs := rs.flatMap branches
  match sharedItems rs with
  | [] => either rs
  | shared => concat (shared ++ [either (rs.map fun r => concat (r.items.drop shared.length))])

/-- Every match of the expression is empty, as far as its parts show. -/
def onlyEmpty : Regex → Bool
  | text cs => cs.isEmpty
  | one _ => false
  | assertion _ => true
  | seq r s | alt r s => r.onlyEmpty && s.onlyEmpty
  | times r _ most? _ => r.onlyEmpty && most?.isSome
  | group _ r => r.onlyEmpty

/-- Repeats the expression. One that matches only the empty text need not be matched twice. -/
def repeated (r : Regex) (least : Nat) (most? : Option Nat) (greedy : Bool) : Regex :=
  let (least, most?) :=
    if r.onlyEmpty then (min least 1, some (min (most?.getD 1) 1)) else (least, most?)
  if most? = some 0 then empty
  else if least = 1 && most? = some 1 then r
  else times r least most? greedy

/-- The least number of characters in a match, unless some part matches nothing at all. -/
def leastLength? : Regex → Option Nat
  | text cs => some cs.length
  | one s => if s = .empty then none else some 1
  | assertion _ => some 0
  | seq r s => do return (← r.leastLength?) + (← s.leastLength?)
  | alt r s => do return min (← r.leastLength?) (← s.leastLength?)
  | times r least _ _ => do return (← r.leastLength?) * least
  | group _ r => r.leastLength?

/-- The expression matches at the start of the text only, as far as its first items show. -/
def atTextStart : Regex → Bool
  | text _ | one _ => false
  | assertion a => a = .textStart
  | seq r s => r.atTextStart || (r.onlyEmpty && s.atTextStart)
  | alt r s => r.atTextStart && s.atTextStart
  | times r least _ _ => least ≠ 0 && r.atTextStart
  | group _ r => r.atTextStart

/-- The expression matches at the end of the text only, as far as its last items show. -/
def atTextEnd : Regex → Bool
  | text _ | one _ => false
  | assertion a => a = .textEnd
  | seq r s => s.atTextEnd || (s.onlyEmpty && r.atTextEnd)
  | alt r s => r.atTextEnd && s.atTextEnd
  | times r least _ _ => least ≠ 0 && r.atTextEnd
  | group _ r => r.atTextEnd

end Regex

end DataShape
