import DataShape.Demo

/-!
# Throughput

A batch of inputs can be run over the demonstration schema in two ways: with one validator for all,
or with a validator compiled for each. `reused` and `compiledPerCall` count what each way finds,
and `rate` is the speed of a measurement.
-/

namespace DataShape

/-- The distance of a finite number from zero in units of `2^-1074`. -/
def Binary64.magnitude : Binary64 → Nat
  | finite x => x.magnitude
  | _ => 0

namespace Throughput

/-- How many inputs were validated and how many errors were found. -/
structure Tally where
  calls : Nat
  errors : Nat
deriving DecidableEq

/-- Validates all inputs with one validator. -/
def reused (inputs : List Value) : Except Defect Tally := do
  let v ← Demo.schema.compile []
  let errors := inputs.foldl (fun sum input => sum + (v.errors input).length) 0
  return { calls := inputs.length, errors }

/-- Validates each input with a validator compiled for it. -/
def compiledPerCall (inputs : List Value) : Except Defect Tally := do
  let count (sum : Nat) (input : Value) : Except Defect Nat := do
    let v ← Demo.schema.compile []
    return sum + (v.errors input).length
  return { calls := inputs.length, errors := ← inputs.foldlM count 0 }

/-- The calls per second of a measurement that took whole seconds and nanoseconds. The fraction of a
second, the time and the quotient are each rounded to a double. In no time the rate is infinite. -/
def rate (calls seconds nanos : Nat) : Binary64 :=
  let fraction := Binary64.ofRatio false nanos 1000000000
  let time := Binary64.ofUnits false ((Binary64.ofNat seconds).magnitude + fraction.magnitude) 1
  if time.magnitude = 0 then .infinity false
  else .ofRatio false (Binary64.ofNat calls).magnitude time.magnitude

end Throughput

end DataShape
