import DataShape.Proofs.Validator.Spread
import DataShape.Throughput
import Mathlib.Algebra.Group.Action.Defs
import Mathlib.Algebra.Order.BigOperators.Group.List
import Mathlib.Algebra.Order.Ring.Nat

/-!
# Both ways of running a batch agree

One validator for all inputs and a validator compiled for each find the same. The demonstration
schema always compiles, and always to the same validator, so each round of the slow way adds the
errors of its input to the sum (`Throughput.foldlM_count`) as the fast way does. The bound on the
sum is that on the errors of one input: the schema has five leaves.
-/

namespace DataShape

/-- The number of errors of a batch of inputs. -/
def Validator.errorCount (v : Validator) (inputs : List Value) : Nat :=
  (inputs.map fun input => (v.errors input).length).sum

/-- Adding the errors of one input after the other counts those of the batch. -/
theorem Validator.foldl_errors (v : Validator) (inputs : List Value) :
    inputs.foldl (fun sum input => sum + (v.errors input).length) 0 = v.errorCount inputs := by
  unfold errorCount
  rw [List.sum_eq_foldl, List.foldl_map]

/-- A batch has no more errors than there are leaves of the schema for each input. -/
theorem Schema.errorCount_le [PatternLanguage] (s : Schema) (extraParams : List String)
    (v : Validator) (h : s.compile extraParams = .ok v) (inputs : List Value) :
    v.errorCount inputs ≤ s.leaves * inputs.length := by
  have hsum := List.sum_le_card_nsmul (inputs.map fun input => (v.errors input).length) s.leaves
    (List.forall_mem_map.2 fun input _ => s.length_validate_le_leaves extraParams v h input [])
  rw [List.length_map, smul_eq_mul, Nat.mul_comm] at hsum
  exact hsum

/-- The demonstration schema compiles without extra arguments. -/
theorem Demo.compile_schema_plain :
    Demo.schema.compile [] = .ok { plan := Demo.schema.node.plan .root, extraParams := [] } :=
  (Demo.schema.compile_eq_ok_iff _ _).2 ⟨by decide +kernel, rfl⟩

namespace Throughput

/-- A round in which the schema is compiled for an input adds the errors of the input. -/
theorem count_eq (v : Validator) (h : Demo.schema.compile [] = .ok v) (sum : Nat) (input : Value) :
    (do
      let w ← Demo.schema.compile []
      return sum + (w.errors input).length : Except Defect Nat) =
        .ok (sum + (v.errors input).length) := by
  rw [h]
  rfl

/-- Compiling the schema in each round counts the errors of the batch. -/
theorem foldlM_count (v : Validator) (h : Demo.schema.compile [] = .ok v) (inputs : List Value) :
    inputs.foldlM (fun sum input => (do
      let w ← Demo.schema.compile []
      return sum + (w.errors input).length : Except Defect Nat)) 0 =
        .ok (v.errorCount inputs) := by
  simp only [count_eq v h]
  rw [← v.foldl_errors inputs]
  exact List.foldlM_pure

/-- Both ways of running a batch succeed, on all inputs, and give the same tally: as many calls as
there are inputs, and the errors that the validator of the demonstration schema finds in them. An
input has at most five. -/
theorem both_ways_agree (inputs : List Value) :
    ∃ v, Demo.schema.compile [] = .ok v ∧
      reused inputs = .ok
        { calls := inputs.length, errors := (inputs.map fun i => (v.errors i).length).sum } ∧
      compiledPerCall inputs = .ok
        { calls := inputs.length, errors := (inputs.map fun i => (v.errors i).length).sum } ∧
      (inputs.map fun i => (v.errors i).length).sum ≤ 5 * inputs.length := by
  have hcompile := Demo.compile_schema_plain
  refine ⟨_, hcompile, ?_, ?_, ?_⟩
  · unfold reused
    rw [hcompile, ← Validator.errorCount, ← Validator.foldl_errors]
    rfl
  · unfold compiledPerCall
    simp only [foldlM_count _ hcompile]
    rfl
  · have hleaves : Demo.schema.leaves = 5 := by decide +kernel
    have hcount := Demo.schema.errorCount_le [] _ hcompile inputs
    rw [hleaves] at hcount
    exact hcount

example : (compiledPerCall [Demo.sample, .null]).toOption = some { calls := 2, errors := 6 } := by
  decide +kernel

end Throughput

end DataShape
