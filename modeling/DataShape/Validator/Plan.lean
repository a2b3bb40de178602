import DataShape.Pattern.Language
import DataShape.Schema.Basic

/-!
# Plans

A plan is a schema made ready to run. For each node it holds the checks in order of priority, each
with its producer, the path of the node and whether the value may be absent, and below that the
plans of the children. All messages and patterns are worked out in it, so a run only looks at
values.
-/

namespace DataShape

/-- A test of the kind of a value. -/
inductive KindTest
  | string
  | number
  | integer
  /-- A whole number from `min` up to `stop`, which is left out. -/
  | sized (min stop : Binary64)
  | bool
  | list
  | map
deriving DecidableEq

/-- The value is of the kind. -/
def KindTest.accepts (test : KindTest) (v : Value) : Bool :=
  match test with
  | string => v.kind == .string
  | number => v.kind == .number
  | integer => v.number?.any Binary64.isWhole
  | sized min stop => v.number?.any fun x => x.isWhole && min.le x && x.lt stop
  | bool => v.kind == .bool
  | list => v.kind == .list
  | map => v.kind == .map

/-- A test of a value. -/
inductive Test
  | kind (test : KindTest)
  | minLen (n : UInt64)
  | maxLen (n : UInt64)
  | pattern (p : Pattern)
  | min (x : Binary64)
  | max (x : Binary64)
  /-- No keys but the given ones. -/
  | onlyKeys (allowed : List String)
  | predicate (p : Predicate)

/-- What a test finds. -/
inductive Outcome
  | pass
  | fail
  /-- A failure with a detail that stands for the bound. -/
  | failWith (detail : Value)

/-- The length of a value: the characters of a string, the items of a list, the entries of a map. -/
def Value.length : Value → Nat
  | string s => s.length
  | list items => items.length
  | map entries => entries.length
  | _ => 0

namespace Outcome

/-- A failure if the condition holds. -/
def failIf (condition : Bool) : Outcome := if condition then fail else pass

/-- A failure with a detail if there is one. -/
def failWith? : Option Value → Outcome
  | some detail => failWith detail
  | none => pass

end Outcome

/-- What the test finds at a value. -/
def Test.outcome (test : Test) (extras : Extras) (v : Value) : Outcome :=
  match test with
  | kind test => .failIf (!test.accepts v)
  | minLen n => .failIf (v.length < n.toNat)
  | maxLen n => .failIf (n.toNat < v.length)
  | pattern p => .failIf (!v.string?.any p.isMatch)
  | min x => .failIf (v.number?.any (·.lt x))
  | max x => .failIf (v.number?.any x.lt)
  | onlyKeys allowed =>
    .failWith? <| (v.map?.bind fun entries =>
      (Entries.keys entries).find? fun key => !allowed.contains key).map .string
  | predicate p => .failWith? (p.refusal? v extras)

/-- A test with what its failure is reported by. -/
structure Check where
  test : Test
  /-- The bound that the producer is given. -/
  param? : Option Value
  producer : Producer

/-- The checks of a node. -/
structure Cascade where
  path : FieldPath
  /-- The value may be absent. -/
  optional : Bool
  /-- The checks in order of priority, the test of the kind first. -/
  checks : List Check

/-- A plan: the checks of a node, and the plans of its children, which run if all checks pass. -/
inductive Plan
  | leaf (own : Cascade)
  /-- One plan for all items of a list. -/
  | each (own : Cascade) (item : Plan)
  /-- One plan for each position of a list. -/
  | positions (own : Cascade) (plans : List Plan)
  /-- One plan for each property of a map, in declaration order. -/
  | properties (own : Cascade) (plans : List (String × Plan))

/-- The checks of the node itself. -/
def Plan.own : Plan → Cascade
  | leaf own => own
  | each own _ => own
  | positions own _ => own
  | properties own _ => own

end DataShape
