import DataShape.Schema.Defect
import DataShape.Validator.Plan

/-!
# From schemas to plans

`Schema.compile` works out the plan of a schema or finds the first defect: the names of extra
arguments come first, then the nodes in declaration order, the children of a node before its own
rules. Each constraint is reported by the producer of the node or, if it has none, by a message
that is worked out here.
-/

namespace DataShape

/-- The beginning of a default message. -/
def FieldPath.subject (path : FieldPath) : String :=
  if path.isRoot then "Input" else s!"Property '{path.text}'"

/-- A check of a constraint. Its default message is `text` after the subject. -/
def Check.of (errors : Producers) (path : FieldPath) (c : Constraint) (test : Test)
    (param? : Option Value) (text : String) : Check :=
  { test, param?
    producer := (errors.find? c).getD (.literal (.message (path.subject ++ text))) }

/-- The check of a predicate. -/
def Predicate.check (p : Predicate) (errors : Producers) (path : FieldPath) : Check :=
  .of errors path .validator (.predicate p) none ": custom validator error."

namespace LengthBounds

/-- Bounds that no length can meet are refused. -/
def verify (lengths : LengthBounds) (path : FieldPath) : Except Defect Unit :=
  match lengths.min?, lengths.max? with
  | some min, some max =>
    if max < min then .error (.invalidBounds path (.lengths min max)) else .ok ()
  | _, _ => .ok ()

/-- The checks of the bounds. The messages are `least` and `most` of the bound. -/
def checks (lengths : LengthBounds) (errors : Producers) (path : FieldPath)
    (least most : UInt64 → String) : List Check :=
  (lengths.min?.map fun n =>
    Check.of errors path .minLen (.minLen n) (some (toValue n)) (least n)).toList ++
  (lengths.max?.map fun n =>
    Check.of errors path .maxLen (.maxLen n) (some (toValue n)) (most n)).toList

end LengthBounds

namespace NumberKind

/-- The test of the kind of a number. -/
def test (k : NumberKind) : KindTest :=
  match k.range? with
  | some (lo, hi) => .sized (.ofInt lo) (.ofInt (hi + 1))
  | none => if k.isIntegral then .integer else .number

/-- What is asked for, in words. -/
def demand (k : NumberKind) : String :=
  match k.range? with
  | some (lo, hi) => s!" must be an integer between {lo} and {hi}."
  | none => if k.isIntegral then " must be an integer." else " must be a number."

end NumberKind

namespace NumberRules

/-- Bounds have to be finite and in order. -/
def verify (rules : NumberRules) (path : FieldPath) : Except Defect Unit :=
  match (rules.min?.toList ++ rules.max?.toList).find? (!·.isFinite), rules.min?, rules.max? with
  | some bound, _, _ => .error (.invalidBounds path (.notFinite bound))
  | none, some min, some max =>
    if max.lt min then .error (.invalidBounds path (.numbers min max)) else .ok ()
  | none, _, _ => .ok ()

/-- The checks of a number. -/
def checks (rules : NumberRules) (errors : Producers) (path : FieldPath) : List Check :=
  Check.of errors path .type (.kind rules.kind.test) none rules.kind.demand ::
  ((rules.min?.map fun x =>
    Check.of errors path .min (.min x) (some (toValue x))
      s!" must be at least {NumberStyle.plain.text x}.").toList ++
  (rules.max?.map fun x =>
    Check.of errors path .max (.max x) (some (toValue x))
      s!" must be at most {NumberStyle.plain.text x}.").toList)

end NumberRules

namespace StringRules

/-- The check of a pattern, if there is one and it can be read. -/
def patternCheck [PatternLanguage] (rules : StringRules) (errors : Producers) (path : FieldPath) :
    Except Defect (List Check) :=
  match rules.pattern? with
  | none => .ok []
  | some source =>
    match Pattern.ofString source with
    | .error reason => .error (.invalidPattern path source reason)
    | .ok p => .ok [Check.of errors path .pattern (.pattern p) (some (toValue source))
        s!" does not match pattern '{source}'."]

/-- The checks of a string. -/
def checks [PatternLanguage] (rules : StringRules) (errors : Producers) (path : FieldPath) :
    Except Defect (List Check) := do
  rules.lengths.verify path
  let pattern ← rules.patternCheck errors path
  return Check.of errors path .type (.kind .string) none " must be a string." ::
    (rules.lengths.checks errors path
      (fun n => s!" must be at least {n.toNat} characters.")
      (fun n => s!" cannot exceed {n.toNat} characters.") ++ pattern)

end StringRules

namespace Rule

/-- The checks of an array. -/
def arrayChecks (lengths : LengthBounds) (errors : Producers) (path : FieldPath) :
    Except Defect (List Check) := do
  lengths.verify path
  return Check.of errors path .type (.kind .list) none " must be an array." ::
    lengths.checks errors path
      (fun n => s!" must have at least {n.toNat} elements.")
      (fun n => s!" cannot have more than {n.toNat} elements.")

/-- The checks of an object. -/
def objectChecks (only? : Option (List String)) (errors : Producers) (path : FieldPath) :
    List Check :=
  Check.of errors path .type (.kind .map) none " must be an object." ::
  (only?.map fun allowed =>
    Check.of errors path .extra (.onlyKeys allowed) none " contains undeclared keys.").toList

/-- The checks that a rule asks for. -/
def checks [PatternLanguage]
    (rule : Rule) (errors : Producers) (path : FieldPath) : Except Defect (List Check) :=
  match rule with
  | leaf (.string rules) => rules.checks errors path
  | leaf (.number rules) => do
    rules.verify path
    return rules.checks errors path
  | leaf .bool => .ok [Check.of errors path .type (.kind .bool) none " must be a boolean."]
  | leaf (.array lengths) => arrayChecks lengths errors path
  | object only? => .ok (objectChecks only? errors path)

end Rule

namespace Node

/-- The checks of the node itself, its predicate last. -/
def cascade [PatternLanguage] (node : Node) (path : FieldPath) : Except Defect Cascade := do
  let checks ← node.rule.checks node.attrs.errors path
  let predicate := node.attrs.validator?.map fun p => p.check node.attrs.errors path
  return { path, optional := node.attrs.optional, checks := checks ++ predicate.toList }

mutual

/-- The plan of a node. -/
def compile [PatternLanguage] : Node → FieldPath → Except Defect Plan
  | leaf attrs rule, path => do return .leaf (← cascade (leaf attrs rule) path)
  | arrayOf attrs lengths item, path => do
    let plan ← item.compile (path.child .items)
    return .each (← cascade (arrayOf attrs lengths item) path) plan
  | tuple attrs lengths nodes, path => do
    if nodes.isEmpty then throw (.emptyTuple path)
    let plans ← compilePositions nodes path 0
    return .positions (← cascade (tuple attrs lengths nodes) path) plans
  | object attrs allowExtra nodes, path => do
    let plans ← compileProperties nodes path
    return .properties (← cascade (object attrs allowExtra nodes) path) plans

/-- The plans of the positions of a tuple, from the given position on. -/
def compilePositions [PatternLanguage] : List Node → FieldPath → Nat → Except Defect (List Plan)
  | [], _, _ => .ok []
  | node :: rest, path, i => do
    let plan ← node.compile (path.child (.position i))
    return plan :: (← compilePositions rest path (i + 1))

/-- The plans of the properties of an object. -/
def compileProperties [PatternLanguage] :
    List (String × Node) → FieldPath → Except Defect (List (String × Plan))
  | [], _ => .ok []
  | (name, node) :: rest, path => do
    let plan ← node.compile (path.child (.property name))
    return (name, plan) :: (← compileProperties rest path)

end

end Node

/-- The name can be bound to an extra argument: letters, digits and underscores of ASCII, not
beginning with a digit. -/
def isIdentifier (name : String) : Bool :=
  let isLetter (c : Char) := c.isAlpha || c == '_'
  name.toList.head?.any isLetter && name.toList.all fun c => isLetter c || c.isDigit

/-- The names of extra arguments have to be identifiers, each given once. `seen` are those before.
-/
def verifyNames (seen : List String) : List String → Except Defect Unit
  | [] => .ok ()
  | name :: rest =>
    if !isIdentifier name then .error (.invalidExtraParam name .notIdentifier)
    else if seen.contains name then .error (.invalidExtraParam name .repeated)
    else verifyNames (name :: seen) rest

/-- A compiled schema. -/
structure Validator where
  plan : Plan
  /-- The names of extra arguments, in the order in which they are bound. -/
  extraParams : List String

namespace Schema

/-- The plan of the root: the checks of an object that has to be there, the predicate last. -/
def rootPlan [PatternLanguage] (s : Schema) : Except Defect Plan := do
  let only? := if s.allowExtra then none else some (Entries.keys s.properties)
  let predicate := s.validator?.map fun p => p.check s.errors .root
  let checks := Rule.objectChecks only? s.errors .root ++ predicate.toList
  return .properties { path := .root, optional := false, checks }
    (← Node.compileProperties s.properties .root)

/-- The validator of a schema, with names for extra arguments. -/
def compile [PatternLanguage]
    (s : Schema) (extraParams : List String) : Except Defect Validator := do
  verifyNames [] extraParams
  return { plan := ← s.rootPlan, extraParams }

end Schema

end DataShape
