import DataShape.Proofs.Validator.Conformance
import DataShape.Proofs.Validator.Location

/-!
# The nodes of a plan

A plan holds one cascade for each node of its schema (`Plan.cascades`). They stand in the order in
which the nodes do, each with the checks and the path of its node (`Node.cascades_plan`), and there
are no others.

Whatever fails in a run is a check of one of them, and is reported under its path
(`Schema.exists_place_of_mem_failures`). It is reported by the producer that the node has for the
constraint, or else by a message that begins with the subject of the path
(`Node.producer_of_checkFor?`).
-/

namespace DataShape

namespace Plan

mutual

/-- The cascades of a plan, those below a node before its own. -/
def cascades : Plan → List Cascade
  | leaf own => [own]
  | each own item => item.cascades ++ [own]
  | positions own plans => positionCascades plans ++ [own]
  | properties own plans => propertyCascades plans ++ [own]

/-- The cascades of the plans of positions. -/
def positionCascades : List Plan → List Cascade
  | [] => []
  | plan :: rest => plan.cascades ++ positionCascades rest

/-- The cascades of the plans of properties. -/
def propertyCascades : List (String × Plan) → List Cascade
  | [] => []
  | (_, plan) :: rest => plan.cascades ++ propertyCascades rest

end

/-- The cascade of the node itself is among them. -/
theorem own_mem_cascades (plan : Plan) : plan.own ∈ plan.cascades := by
  cases plan <;> (unfold cascades own; simp)

end Plan

/-! ## One cascade for each node -/

/-- The cascade of a place: the checks of its node, under the path of its steps. -/
def placeCascade [PatternLanguage]
    (place : List PathStep × Node) : Cascade := place.2.checks (.ofSteps place.1)

namespace Node

mutual

/-- The cascades of the plan of a node are those of its nodes. -/
theorem cascades_plan [PatternLanguage] (node : Node) (steps : List PathStep) :
    (node.plan (.ofSteps steps)).cascades = (node.nodes steps).map placeCascade := by
  cases node with
  | leaf attrs rule =>
    unfold plan Plan.cascades nodes
    rfl
  | arrayOf attrs lengths item =>
    unfold plan Plan.cascades nodes
    rw [← FieldPath.ofSteps_append, cascades_plan item, List.map_append]
    rfl
  | tuple attrs lengths positions =>
    unfold plan Plan.cascades nodes
    rw [cascades_positionPlans positions, List.map_append]
    rfl
  | object attrs allowExtra properties =>
    unfold plan Plan.cascades nodes
    rw [cascades_propertyPlans properties, List.map_append]
    rfl

/-- The same for the positions of a tuple. -/
theorem cascades_positionPlans [PatternLanguage]
    (positions : List Node) (steps : List PathStep) (i : Nat) :
    Plan.positionCascades (positionPlans positions (.ofSteps steps) i) =
      (positionNodes positions steps i).map placeCascade := by
  cases positions with
  | nil => rfl
  | cons node rest =>
    unfold positionPlans Plan.positionCascades positionNodes
    rw [← FieldPath.ofSteps_append, cascades_plan node, cascades_positionPlans rest,
      List.map_append]

/-- The same for the properties of an object. -/
theorem cascades_propertyPlans [PatternLanguage]
    (properties : List (String × Node)) (steps : List PathStep) :
    Plan.propertyCascades (propertyPlans properties (.ofSteps steps)) =
      (propertyNodes properties steps).map placeCascade := by
  match properties with
  | [] => rfl
  | (name, node) :: rest =>
    unfold propertyPlans Plan.propertyCascades propertyNodes
    rw [← FieldPath.ofSteps_append, cascades_plan node, cascades_propertyPlans rest,
      List.map_append]

end

end Node

/-- A compiled validator has one cascade for each node of its schema. -/
theorem Schema.cascades_eq [PatternLanguage]
    (s : Schema) (extraParams : List String) (v : Validator)
    (h : s.compile extraParams = .ok v) : v.plan.cascades = s.nodes.map placeCascade := by
  obtain ⟨-, rfl⟩ := (s.compile_eq_ok_iff extraParams v).1 h
  exact s.node.cascades_plan []

/-! ## What reports a check -/

/-- The checks of a rule are made for its constraints. -/
theorem Rule.exists_eq_of_checkFor? [PatternLanguage]
    (rule : Rule) (errors : Producers) (path : FieldPath)
    (c : Constraint) (check : Check) (h : rule.checkFor? errors path c = some check) :
    ∃ test param? text, check = .of errors path c test param? text := by
  cases c with
  | type => exact ⟨_, _, _, (Option.some.inj h).symm⟩
  | minLen =>
    obtain ⟨n, -, rfl⟩ := Option.map_eq_some_iff.1 h
    exact ⟨_, _, _, rfl⟩
  | maxLen =>
    obtain ⟨n, -, rfl⟩ := Option.map_eq_some_iff.1 h
    exact ⟨_, _, _, rfl⟩
  | pattern =>
    -- A pattern that cannot be read has no check.
    obtain ⟨source, -, hsource⟩ := Option.bind_eq_some_iff.1 h
    cases hread : Pattern.ofString source with
    | error fault =>
      rw [hread] at hsource
      cases hsource
    | ok p =>
      rw [hread] at hsource
      exact ⟨_, _, _, (Option.some.inj hsource).symm⟩
  | min =>
    obtain ⟨x, -, rfl⟩ := Option.map_eq_some_iff.1 h
    exact ⟨_, _, _, rfl⟩
  | max =>
    obtain ⟨x, -, rfl⟩ := Option.map_eq_some_iff.1 h
    exact ⟨_, _, _, rfl⟩
  | extra =>
    obtain ⟨allowed, -, rfl⟩ := Option.map_eq_some_iff.1 h
    exact ⟨_, _, _, rfl⟩
  | validator => cases h

namespace Node

/-- The checks of a node are those that it has for constraints. -/
theorem mem_checks_iff_checkFor? [PatternLanguage]
    (node : Node) (path : FieldPath) (check : Check) :
    check ∈ (node.checks path).checks ↔ ∃ c, node.checkFor? path c = some check := by
  show check ∈ List.flatMap _ _ ↔ _
  rw [List.mem_flatMap]
  simp only [Option.mem_toList]
  exact ⟨fun ⟨c, _, hc⟩ => ⟨c, hc⟩, fun ⟨c, hc⟩ => ⟨c, c.mem_all, hc⟩⟩

/-- A check is reported by the producer of the node for its constraint, or else by a message that
begins with the subject of the path. -/
theorem producer_of_checkFor? [PatternLanguage]
    (node : Node) (path : FieldPath) (c : Constraint) (check : Check)
    (h : node.checkFor? path c = some check) :
    ∃ text, check.producer =
      (node.attrs.errors.find? c).getD (.literal (.message (path.subject ++ text))) := by
  by_cases hc : c = .validator
  · subst hc
    obtain ⟨p, -, rfl⟩ := Option.map_eq_some_iff.1 h
    exact ⟨_, rfl⟩
  · -- All constraints but the predicate are of the rule.
    have hrule : node.rule.checkFor? node.attrs.errors path c = some check := by
      rw [← h]
      cases c with
      | validator => exact absurd rfl hc
      | _ => rfl
    obtain ⟨test, param?, text, rfl⟩ := node.rule.exists_eq_of_checkFor? _ path c check hrule
    exact ⟨text, rfl⟩

end Node

/-! ## The cascade that a failure comes from -/

/-- The failure is of a check of the cascade, and stands under its path. -/
def Failure.ComesFrom (f : Failure) (own : Cascade) : Prop :=
  f.context.path = own.path ∧ f.check ∈ own.checks

/-- The failure of a cascade comes from it. -/
theorem Cascade.comesFrom_of_failure? (own : Cascade) (extras : Extras) (index? : Option Nat)
    (value? : Option Value) (f : Failure) (h : own.failure? extras index? value? = some f) :
    f.ComesFrom own := by
  obtain ⟨check, hcheck, hf⟩ := List.exists_of_findSome?_eq_some h
  obtain ⟨param?, -, rfl⟩ := Option.map_eq_some_iff.1 hf
  exact ⟨rfl, hcheck⟩

namespace Plan

/-- What a child that is not passed over fails at is among the failures of the child. -/
theorem mem_of_mem_unless_skips (plan : Plan) (value? : Option Value) (failures : List Failure)
    (f : Failure) (h : f ∈ if plan.skips value? then [] else failures) : f ∈ failures := by
  split_ifs at h with hskips
  · cases h
  · exact h

/-- A failure comes from the cascade of the node itself, or else from where those below it come
from. -/
theorem exists_cascade_of_mem_unless (own : Cascade) (below : List Cascade) (extras : Extras)
    (index? : Option Nat) (value? : Option Value) (failures : List Failure) (f : Failure)
    (hbelow : f ∈ failures → ∃ cascade ∈ below, f.ComesFrom cascade)
    (h : f ∈ match own.failure? extras index? value? with
      | some g => [g]
      | none => failures) :
    ∃ cascade ∈ below ++ [own], f.ComesFrom cascade := by
  cases hown : own.failure? extras index? value? with
  | some g =>
    rw [hown] at h
    obtain rfl := List.mem_singleton.1 h
    exact ⟨own, List.mem_append_right below (List.mem_singleton_self own),
      own.comesFrom_of_failure? extras index? value? f hown⟩
  | none =>
    rw [hown] at h
    obtain ⟨cascade, hmem, hfrom⟩ := hbelow h
    exact ⟨cascade, List.mem_append_left [own] hmem, hfrom⟩

mutual

/-- A failure at a value comes from one of the cascades of the plan. -/
theorem exists_cascade_of_mem_failures (plan : Plan) (extras : Extras) (index? : Option Nat)
    (value? : Option Value) (f : Failure) (h : f ∈ plan.failures extras index? value?) :
    ∃ cascade ∈ plan.cascades, f.ComesFrom cascade := by
  cases value? with
  | none =>
    -- An absent value fails at its kind, so nothing below it is looked at.
    rw [failures_none, Option.mem_toList] at h
    exact ⟨plan.own, plan.own_mem_cascades, plan.own.comesFrom_of_failure? extras index? none f h⟩
  | some v =>
    cases plan with
    | leaf own =>
      unfold failures at h
      rw [Option.mem_toList] at h
      exact ⟨own, (leaf own).own_mem_cascades,
        own.comesFrom_of_failure? extras index? (some v) f h⟩
    | each own item =>
      unfold failures at h
      unfold cascades
      refine exists_cascade_of_mem_unless own _ extras index? _ _ f (fun hitems => ?_) h
      rw [lastFinding_eq] at hitems
      obtain ⟨failures, hfailures, hf⟩ := exists_mem_of_mem_lastNonempty _ f hitems
      obtain ⟨i, hi, rfl⟩ := List.mem_mapIdx.1 hfailures
      exact exists_cascade_of_mem_failures item extras _ _ f hf
    | positions own plans =>
      rw [failures_positions] at h
      unfold cascades
      exact exists_cascade_of_mem_unless own _ extras index? _ _ f
        (exists_cascade_of_mem_positionFailures plans extras index? v 0 f) h
    | properties own plans =>
      rw [failures_properties] at h
      unfold cascades
      exact exists_cascade_of_mem_unless own _ extras index? _ _ f
        (exists_cascade_of_mem_propertyFailures plans extras index? v f) h

/-- The same for the plans of positions. -/
theorem exists_cascade_of_mem_positionFailures (plans : List Plan) (extras : Extras)
    (index? : Option Nat) (v : Value) (i : Nat) (f : Failure)
    (h : f ∈ positionFailures extras plans index? v i) :
    ∃ cascade ∈ positionCascades plans, f.ComesFrom cascade := by
  cases plans with
  | nil => cases h
  | cons plan rest =>
    unfold positionFailures at h
    unfold positionCascades
    rcases List.mem_append.1 h with h | h
    · obtain ⟨cascade, hmem, hfrom⟩ := exists_cascade_of_mem_failures plan extras _ _ f
        (plan.mem_of_mem_unless_skips _ _ f h)
      exact ⟨cascade, List.mem_append_left _ hmem, hfrom⟩
    · obtain ⟨cascade, hmem, hfrom⟩ := exists_cascade_of_mem_positionFailures rest extras _ v _ f h
      exact ⟨cascade, List.mem_append_right _ hmem, hfrom⟩

/-- The same for the plans of properties. -/
theorem exists_cascade_of_mem_propertyFailures (plans : List (String × Plan)) (extras : Extras)
    (index? : Option Nat) (v : Value) (f : Failure)
    (h : f ∈ propertyFailures extras plans index? v) :
    ∃ cascade ∈ propertyCascades plans, f.ComesFrom cascade := by
  match plans with
  | [] => cases h
  | (name, plan) :: rest =>
    unfold propertyFailures at h
    unfold propertyCascades
    rcases List.mem_append.1 h with h | h
    · obtain ⟨cascade, hmem, hfrom⟩ := exists_cascade_of_mem_failures plan extras _ _ f
        (plan.mem_of_mem_unless_skips _ _ f h)
      exact ⟨cascade, List.mem_append_left _ hmem, hfrom⟩
    · obtain ⟨cascade, hmem, hfrom⟩ := exists_cascade_of_mem_propertyFailures rest extras _ v f h
      exact ⟨cascade, List.mem_append_right _ hmem, hfrom⟩

end

end Plan

/-- What fails in a run is a check of one of the nodes of the schema, and stands under its path. -/
theorem Schema.exists_place_of_mem_failures [PatternLanguage]
    (s : Schema) (extraParams : List String) (v : Validator)
    (h : s.compile extraParams = .ok v) (input : Value) (args : List Value) (f : Failure)
    (hf : f ∈ v.failures input args) : ∃ place ∈ s.nodes, f.ComesFrom (placeCascade place) := by
  obtain ⟨own, hown, hfrom⟩ := v.plan.exists_cascade_of_mem_failures _ _ _ f hf
  rw [s.cascades_eq extraParams v h] at hown
  obtain ⟨place, hplace, rfl⟩ := List.mem_map.1 hown
  exact ⟨place, hplace, hfrom⟩

end DataShape
