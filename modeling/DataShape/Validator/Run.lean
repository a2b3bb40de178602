import DataShape.Json.Decode
import DataShape.Validator.Compile

/-!
# Running a plan

A run looks at a value with a plan and lists what fails. At each node the first failing check gives
one failure and ends the node. If all checks pass the children are looked at, and their failures
are put together in order. The items of an array that share one plan are looked at from the last to
the first, up to the first that has a failure.

An absent value fails the first check, the test of the kind. An optional child that is absent is
passed over.

A failure says which check failed and what its producer sees. The producers come after the whole
run: `Validator.validate` turns each failure into its error, so producers have no part in what
fails.
-/

namespace DataShape

/-- A check that failed, with what its producer sees. -/
structure Failure where
  check : Check
  context : FailureContext

/-- The error that reports a failure. -/
def Failure.error (f : Failure) : ValidationError := f.check.producer.produce f.context

namespace Check

/-- The parameter that the producer is given, if the check fails. Nothing is there to be tested of
an absent value, so every check fails at it. -/
def refusal? (check : Check) (extras : Extras) : Option Value → Option (Option Value)
  | none => some check.param?
  | some v =>
    match check.test.outcome extras v with
    | .pass => none
    | .fail => some check.param?
    | .failWith detail => some (some detail)

/-- The failure of the check, if it fails. -/
def failure? (check : Check) (extras : Extras) (path : FieldPath) (index? : Option Nat)
    (value? : Option Value) : Option Failure :=
  (check.refusal? extras value?).map fun param? =>
    { check, context := { value?, param?, path, index?, extras } }

end Check

/-- The failure of the first check that fails. -/
def Cascade.failure? (own : Cascade) (extras : Extras) (index? : Option Nat)
    (value? : Option Value) : Option Failure :=
  own.checks.findSome? fun check => check.failure? extras own.path index? value?

/-- What `f` finds at the last element at which it finds anything. Positions count from `i`. -/
def lastFinding {α β : Type} (f : Nat → α → List β) (i : Nat) : List α → List β
  | [] => []
  | x :: xs =>
    match lastFinding f (i + 1) xs with
    | [] => f i x
    | found => found

namespace Plan

/-- An absent child is passed over if it is optional. -/
def skips (plan : Plan) (value? : Option Value) : Bool := value?.isNone && plan.own.optional

mutual

/-- The failures of a plan at a value that may be absent. -/
def failures (extras : Extras) : Plan → Option Nat → Option Value → List Failure
  | leaf own, index?, value? => (own.failure? extras index? value?).toList
  | each own item, index?, value? =>
    match own.failure? extras index? value? with
    | some f => [f]
    | none =>
      lastFinding (fun i v => item.failures extras (some i) (some v)) 0
        ((value?.bind Value.list?).getD [])
  | positions own plans, index?, value? =>
    match own.failure? extras index? value?, value? with
    | some f, _ => [f]
    | none, some v => positionFailures extras plans index? v 0
    | none, none => []
  | properties own plans, index?, value? =>
    match own.failure? extras index? value?, value? with
    | some f, _ => [f]
    | none, some v => propertyFailures extras plans index? v
    | none, none => []

/-- The failures of the plans of positions at a list, from the given position on. -/
def positionFailures (extras : Extras) :
    List Plan → Option Nat → Value → Nat → List Failure
  | [], _, _, _ => []
  | plan :: rest, index?, v, i =>
    (if plan.skips (v.item? i) then [] else plan.failures extras index? (v.item? i))
      ++ positionFailures extras rest index? v (i + 1)

/-- The failures of the plans of properties at a map. -/
def propertyFailures (extras : Extras) :
    List (String × Plan) → Option Nat → Value → List Failure
  | [], _, _ => []
  | (name, plan) :: rest, index?, v =>
    (if plan.skips (v.get? name) then [] else plan.failures extras index? (v.get? name))
      ++ propertyFailures extras rest index? v

end

end Plan

/-- Why an input is not turned into an element of a type. -/
inductive ParseError
  | invalid (errors : List ValidationError)
  /-- The input is valid but does not spell an element. -/
  | undecodable

/-- The wording of a failure. -/
def ParseError.message : ParseError → String
  | invalid errors => s!"validation failed with {errors.length} error(s)"
  | undecodable => "deserialization failed"

namespace Validator

/-- The failures of a value. The extra arguments are bound by position: surplus ones are not seen,
and names without an argument are not bound. -/
def failures (v : Validator) (value : Value) (args : List Value) : List Failure :=
  v.plan.failures { names := v.extraParams, args } none (some value)

/-- The errors of a value. -/
def validate (v : Validator) (value : Value) (args : List Value) : List ValidationError :=
  (v.failures value args).map Failure.error

/-- The errors of a value without extra arguments. -/
def errors (v : Validator) (value : Value) : List ValidationError := v.validate value []

/-- The value has no errors without extra arguments. -/
def isValid (v : Validator) (value : Value) : Bool := (v.errors value).isEmpty

/-- Validates a value and reads it as an element of a type. -/
def parse (α : Type) [Decode α] (v : Validator) (value : Value) (args : List Value) :
    Except ParseError α :=
  match v.validate value args with
  | [] =>
    match Decode.decode? value.toJson with
    | some x => .ok x
    | none => .error .undecodable
  | errors => .error (.invalid errors)

/-- The validator in full detail. -/
def inspect (v : Validator) : String :=
  "Validator \x7b extra_params: [" ++ ", ".intercalate (v.extraParams.map Quoted.quote)
    ++ "], .. \x7d"

end Validator

end DataShape
