import DataShape.Proofs.Number.WholeRange

/-!
# What a node demands, constraint by constraint

For each constraint, `Node.fault?` says whether a value meets it, and if not, which parameter and
which default message belong to the failure. It reads the schema alone: no plan and no check is
made. A kind is told from the value itself, a sized kind from its exact range
(`NumberKind.admits`), and a pattern from its text.

The parts of a rule are read by small functions (`Rule.lengths`, `Rule.pattern?`, and so on) that
have nothing to say for the rules without that part, so that each constraint has one clause for all
rules.
-/

namespace DataShape

/-- The pattern of a text matches somewhere in another text. A text that is no pattern matches
nowhere. -/
def Pattern.finds [PatternLanguage] (source text : String) : Bool :=
  match Pattern.ofString source with
  | .ok p => p.isMatch text
  | .error _ => false

/-- The first key of a map that is not among the given ones. -/
def Value.undeclaredKey? (v : Value) (allowed : List String) : Option String :=
  v.map?.bind fun entries => (Entries.keys entries).find? fun key => !allowed.contains key

/-- What is wrong with a value: the parameter of the failure, and the default message after its
subject. -/
structure Fault where
  param? : Option Value
  text : String

namespace Rule

/-- The bounds on the length of a string or an array. -/
def lengths : Rule → LengthBounds
  | leaf (.string rules) => rules.lengths
  | leaf (.array lengths) => lengths
  | _ => {}

/-- The pattern of a string. -/
def pattern? : Rule → Option String
  | leaf (.string rules) => rules.pattern?
  | _ => none

/-- The least number. -/
def min? : Rule → Option Binary64
  | leaf (.number rules) => rules.min?
  | _ => none

/-- The greatest number. -/
def max? : Rule → Option Binary64
  | leaf (.number rules) => rules.max?
  | _ => none

/-- The only keys that an object may have, if others are refused. -/
def only? : Rule → Option (List String)
  | object only? => only?
  | _ => none

/-- The value is of the kind that the rule asks for. -/
def hasKind (rule : Rule) (v : Value) : Bool :=
  match rule with
  | leaf (.string _) => v.kind == .string
  | leaf (.number rules) => v.number?.any rules.kind.admits
  | leaf .bool => v.kind == .bool
  | leaf (.array _) => v.kind == .list
  | object _ => v.kind == .map

/-- The demand for a kind, in words. -/
def kindText : Rule → String
  | leaf (.string _) => " must be a string."
  | leaf (.number rules) => rules.kind.demand
  | leaf .bool => " must be a boolean."
  | leaf (.array _) => " must be an array."
  | object _ => " must be an object."

/-- The rule counts the elements of an array. -/
def countsElements : Rule → Bool
  | leaf (.array _) => true
  | _ => false

/-- The demand for a least length, in words. -/
def minLenText (rule : Rule) (n : UInt64) : String :=
  if rule.countsElements then s!" must have at least {n.toNat} elements."
  else s!" must be at least {n.toNat} characters."

/-- The demand for a greatest length, in words. -/
def maxLenText (rule : Rule) (n : UInt64) : String :=
  if rule.countsElements then s!" cannot have more than {n.toNat} elements."
  else s!" cannot exceed {n.toNat} characters."

/-- What a rule finds wrong with a value under a constraint. The predicate of the caller is not a
part of the rule. -/
def fault? [PatternLanguage] (rule : Rule) (v : Value) : Constraint → Option Fault
  | .type => if rule.hasKind v then none else some ⟨none, rule.kindText⟩
  | .minLen => rule.lengths.min?.bind fun n =>
    if v.length < n.toNat then some ⟨some (toValue n), rule.minLenText n⟩ else none
  | .maxLen => rule.lengths.max?.bind fun n =>
    if n.toNat < v.length then some ⟨some (toValue n), rule.maxLenText n⟩ else none
  | .pattern => rule.pattern?.bind fun source =>
    if v.string?.any (Pattern.finds source) then none
    else some ⟨some (toValue source), s!" does not match pattern '{source}'."⟩
  | .min => rule.min?.bind fun x =>
    if v.number?.any (·.lt x) then
      some ⟨some (toValue x), s!" must be at least {NumberStyle.plain.text x}."⟩
    else none
  | .max => rule.max?.bind fun x =>
    if v.number?.any x.lt then
      some ⟨some (toValue x), s!" must be at most {NumberStyle.plain.text x}."⟩
    else none
  | .extra => rule.only?.bind fun allowed => (v.undeclaredKey? allowed).map fun key =>
    ⟨some (.string key), " contains undeclared keys."⟩
  | .validator => none

end Rule

/-- What a node finds wrong with a value under a constraint. An absent value has no kind, and nothing
else can be wrong with it. -/
def Node.fault? [PatternLanguage]
    (node : Node) (extras : Extras) (value? : Option Value) (c : Constraint) :
    Option Fault :=
  match value?, c with
  | none, .type => some ⟨none, node.rule.kindText⟩
  | none, _ => none
  | some v, .validator => node.attrs.validator?.bind fun p => (p.refusal? v extras).map fun detail =>
    ⟨some detail, ": custom validator error."⟩
  | some v, c => node.rule.fault? v c

/-- An absent value has a fault under the constraint of the kind alone. -/
theorem Node.fault?_none [PatternLanguage] (node : Node) (extras : Extras) (c : Constraint) :
    node.fault? extras none c =
      if c = .type then some ⟨none, node.rule.kindText⟩ else none := by
  cases c <;> rfl

end DataShape
