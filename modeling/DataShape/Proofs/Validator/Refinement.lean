import DataShape.Demo
import DataShape.Proofs.Validator.Interpretation
import DataShape.Proofs.Validator.Lowering

/-!
# A run of the plan reads the schema

A compiled validator runs a plan in which checks, messages, patterns and paths are worked out
beforehand. `Schema.reports` reads the schema itself. The two agree on what is sent to the producers
of errors: the same producers, in the same order, each with the same value, parameter, path, position
and extra arguments.

A check and the constraint it was made for are compared first (`Node.sent_failure?_of_checkFor?`),
then the first failing check of a node and its first constraint with a fault (`Node.sent_failure?`),
and last whole trees. The path of a plan is the one of the trail, and the position that is handed
down in a run is the innermost one of the trail.
-/

namespace DataShape

/-- What a failure sends to its producer. -/
def Failure.sent (f : Failure) : Producer × FailureContext := (f.check.producer, f.context)

/-- What a report sends to its producer. -/
def Report.sent (r : Report) : Producer × FailureContext := (r.producer, r.context)

/-! ## One constraint -/

/-- The test of the kind of a rule tells the values of the kind. -/
theorem Rule.accepts_kindTest (rule : Rule) (v : Value) :
    rule.kindTest.accepts v = rule.hasKind v := by
  cases rule with
  | leaf rule =>
    cases rule with
    | number rules => exact rules.kind.accepts_test v
    | string rules => rfl
    | bool => rfl
    | array lengths => rfl
  | object only? => rfl

/-- A pattern that a configured node has is matched by the pattern that it spells. -/
theorem Node.Configured.finds_eq [PatternLanguage]
    (node : Node) (h : node.Configured) (source : String)
    (hsource : node.rule.pattern? = some source) :
    ∃ p, Pattern.ofString source = .ok p ∧ ∀ text, Pattern.finds source text = p.isMatch text := by
  obtain ⟨p, hp⟩ := h.pattern source hsource
  refine ⟨p, hp, fun text => ?_⟩
  unfold Pattern.finds
  rw [hp]

namespace Node

section

variable (node : Node) (extras : Extras) (trail : Trail) (v : Value) (c : Constraint)

/-- A check that fails on a condition sends what is sent of a fault under the condition. -/
theorem sent_of_failIf (test : Test) (param? : Option Value) (text : String) (condition : Prop)
    [Decidable condition] (h : test.outcome extras v = .failIf (decide condition)) :
    ((Check.of node.attrs.errors trail.path c test param? text).failure? extras trail.path
        trail.index? (some v)).map Failure.sent =
      ((if condition then some (Fault.mk param? text) else none).map
        (node.report extras trail (some v) c)).map Report.sent := by
  have htest : (Check.of node.attrs.errors trail.path c test param? text).test.outcome extras v =
      .failIf (decide condition) := h
  simp only [Check.failure?, Check.refusal?, htest]
  by_cases hcondition : condition
  · rw [decide_eq_true hcondition, if_pos hcondition]
    rfl
  · rw [decide_eq_false hcondition, if_neg hcondition]
    rfl

/-- A check that fails with a detail sends what is sent of a fault with the detail. -/
theorem sent_of_failWith? (test : Test) (param? : Option Value) (text : String)
    (detail? : Option Value) (h : test.outcome extras v = .failWith? detail?) :
    ((Check.of node.attrs.errors trail.path c test param? text).failure? extras trail.path
        trail.index? (some v)).map Failure.sent =
      ((detail?.map fun detail => Fault.mk (some detail) text).map
        (node.report extras trail (some v) c)).map Report.sent := by
  have htest : (Check.of node.attrs.errors trail.path c test param? text).test.outcome extras v =
      .failWith? detail? := h
  simp only [Check.failure?, Check.refusal?, htest]
  cases detail? <;> rfl

/-- A constraint with a bound sends the same in both ways if it does for each bound. -/
theorem sent_of_bound {α : Type} (bound? : Option α) (check : α → Check)
    (fault? : α → Option Fault)
    (h : ∀ bound, ((check bound).failure? extras trail.path trail.index? (some v)).map
        Failure.sent =
      ((fault? bound).map (node.report extras trail (some v) c)).map Report.sent) :
    ((bound?.map check).bind fun check =>
        check.failure? extras trail.path trail.index? (some v)).map Failure.sent =
      ((bound?.bind fault?).map (node.report extras trail (some v) c)).map Report.sent := by
  cases bound? with
  | none => rfl
  | some bound => exact h bound

/-- The check of a constraint fails at a present value when the constraint has a fault, and sends
the same. -/
theorem sent_failure?_of_checkFor? [PatternLanguage] (h : node.Configured) :
    ((node.checkFor? trail.path c).bind fun check =>
        check.failure? extras trail.path trail.index? (some v)).map Failure.sent =
      ((node.fault? extras (some v) c).map (node.report extras trail (some v) c)).map
        Report.sent := by
  cases c with
  | type =>
    have hkind : (Test.kind node.rule.kindTest).outcome extras v =
        .failIf (decide ¬ node.rule.hasKind v = true) := by
      rw [← Rule.accepts_kindTest]
      simp [Test.outcome]
    have hsent := node.sent_of_failIf extras trail v .type _ none node.rule.kindText _ hkind
    rw [ite_not] at hsent
    exact hsent
  | minLen =>
    exact node.sent_of_bound extras trail v .minLen node.rule.lengths.min? _ _ fun n =>
      node.sent_of_failIf extras trail v .minLen _ _ _ _ rfl
  | maxLen =>
    exact node.sent_of_bound extras trail v .maxLen node.rule.lengths.max? _ _ fun n =>
      node.sent_of_failIf extras trail v .maxLen _ _ _ _ rfl
  | pattern =>
    simp only [checkFor?, Rule.checkFor?, fault?, Rule.fault?]
    cases hpattern : node.rule.pattern? with
    | none => rfl
    | some source =>
      obtain ⟨p, hp, hfinds⟩ := h.finds_eq _ source hpattern
      have hmatch : (Test.pattern p).outcome extras v =
          .failIf (decide ¬ v.string?.any (Pattern.finds source) = true) := by
        rw [funext hfinds]
        simp [Test.outcome]
      have hsent := node.sent_of_failIf extras trail v .pattern _ (some (toValue source))
        s!" does not match pattern '{source}'." _ hmatch
      rw [ite_not] at hsent
      rw [Option.bind_some, hp]
      exact hsent
  | min =>
    exact node.sent_of_bound extras trail v .min node.rule.min? _ _ fun x =>
      node.sent_of_failIf extras trail v .min _ _ _ _ (by simp [Test.outcome])
  | max =>
    exact node.sent_of_bound extras trail v .max node.rule.max? _ _ fun x =>
      node.sent_of_failIf extras trail v .max _ _ _ _ (by simp [Test.outcome])
  | extra =>
    refine node.sent_of_bound extras trail v .extra node.rule.only? _ _ fun allowed => ?_
    have hsent := node.sent_of_failWith? extras trail v .extra (.onlyKeys allowed) none
      " contains undeclared keys." ((v.undeclaredKey? allowed).map .string) rfl
    refine hsent.trans ?_
    cases v.undeclaredKey? allowed <;> rfl
  | validator =>
    exact node.sent_of_bound extras trail v .validator node.attrs.validator? _ _ fun p =>
      node.sent_of_failWith? extras trail v .validator _ _ _ _ rfl

end

end Node

/-! ## One node -/

/-- The first finding over the checks of all constraints is the first over the constraints. -/
theorem findSome?_flatMap_toList {α β γ : Type} (l : List α) (f : α → Option β)
    (g : β → Option γ) :
    (l.flatMap fun a => (f a).toList).findSome? g = l.findSome? fun a => (f a).bind g := by
  induction l with
  | nil => rfl
  | cons a l ih =>
    rw [List.flatMap_cons, List.findSome?_append, ih, List.findSome?_cons]
    cases f a with
    | none => rfl
    | some b =>
      rw [Option.bind_some, Option.toList_some, List.findSome?_singleton]
      cases g b <;> rfl

namespace Node

/-- The first failing check of a node and its first constraint with a fault send the same. At an
absent value both are those of the kind. -/
theorem sent_failure? [PatternLanguage]
    (node : Node) (h : node.Configured) (extras : Extras) (trail : Trail)
    (value? : Option Value) :
    ((node.checks trail.path).failure? extras trail.index? value?).map Failure.sent =
      (node.report? extras trail value?).map Report.sent := by
  cases value? with
  | none => rfl
  | some v =>
    unfold Cascade.failure? report? checks
    rw [findSome?_flatMap_toList, List.map_findSome?, List.map_findSome?]
    exact congrArg (List.findSome? · Constraint.all)
      (funext fun c => node.sent_failure?_of_checkFor? extras trail v c h)

/-- A plan passes over what its node passes over. -/
theorem skips_plan [PatternLanguage] (node : Node) (path : FieldPath) (value? : Option Value) :
    (node.plan path).skips value? = node.passesOver value? := by
  unfold Plan.skips passesOver
  rw [own_plan]
  rfl

end Node

/-! ## Whole trees -/

/-- A scan from the last element to the first stops at the last nonempty list. -/
theorem lastFinding_eq {α β : Type} (f : Nat → α → List β) (xs : List α) :
    ∀ i, lastFinding f i xs = lastNonempty (xs.mapIdx fun j x => f (i + j) x) := by
  induction xs with
  | nil =>
    intro i
    rfl
  | cons x xs ih =>
    intro i
    have htail : lastFinding f (i + 1) xs =
        lastNonempty (xs.mapIdx fun j x => f (i + (j + 1)) x) := by
      rw [ih (i + 1)]
      simp only [Nat.add_assoc, Nat.add_comm 1]
    have hcons := lastNonempty_cons (f i x) (xs.mapIdx fun j x => f (i + (j + 1)) x)
    rw [← htail] at hcons
    rw [List.mapIdx_cons]
    exact hcons.symm

/-- At an absent value a plan fails with the checks of the node itself. -/
theorem Plan.failures_none (plan : Plan) (extras : Extras) (index? : Option Nat) :
    plan.failures extras index? none = (plan.own.failure? extras index? none).toList := by
  cases plan with
  | leaf own =>
    unfold failures
    rfl
  | each own item =>
    show _ = (own.failure? extras index? none).toList
    unfold failures
    cases own.failure? extras index? none <;> rfl
  | positions own plans =>
    show _ = (own.failure? extras index? none).toList
    unfold failures
    cases own.failure? extras index? none <;> rfl
  | properties own plans =>
    show _ = (own.failure? extras index? none).toList
    unfold failures
    cases own.failure? extras index? none <;> rfl

/-- A plan of positions goes on to them at a present value. -/
theorem Plan.failures_positions (own : Cascade) (plans : List Plan) (extras : Extras)
    (index? : Option Nat) (v : Value) :
    (positions own plans).failures extras index? (some v) =
      match own.failure? extras index? (some v) with
      | some f => [f]
      | none => positionFailures extras plans index? v 0 := by
  unfold failures
  cases own.failure? extras index? (some v) <;> rfl

/-- A plan of properties goes on to them at a present value. -/
theorem Plan.failures_properties (own : Cascade) (plans : List (String × Plan)) (extras : Extras)
    (index? : Option Nat) (v : Value) :
    (properties own plans).failures extras index? (some v) =
      match own.failure? extras index? (some v) with
      | some f => [f]
      | none => propertyFailures extras plans index? v := by
  unfold failures
  cases own.failure? extras index? (some v) <;> rfl

/-- What a node reports of an absent value is its kind. -/
theorem Node.reports_none [PatternLanguage] (node : Node) (extras : Extras) (trail : Trail) :
    node.reports extras trail none = (node.report? extras trail none).toList := by
  cases node <;> (unfold reports; rfl)

/-- What a node and its children send is the same in a run and in a reading, if what the node sends
is, and what the children send when the node has no fault. -/
theorem sent_unless (failure? : Option Failure) (report? : Option Report) (failures : List Failure)
    (reports : List Report) (hown : failure?.map Failure.sent = report?.map Report.sent)
    (hbelow : failures.map Failure.sent = reports.map Report.sent) :
    (match failure? with
      | some f => [f]
      | none => failures).map Failure.sent =
    (match report? with
      | some r => [r]
      | none => reports).map Report.sent := by
  cases failure? with
  | none =>
    cases report? with
    | none => exact hbelow
    | some r => cases hown
  | some f =>
    cases report? with
    | none => cases hown
    | some r => exact congrArg (· :: []) (Option.some.inj hown)

namespace Node

/-- A child that is passed over sends nothing in either way. -/
theorem sent_child [PatternLanguage] (node : Node) (path : FieldPath) (value? : Option Value)
    (failures : List Failure) (reports : List Report)
    (h : failures.map Failure.sent = reports.map Report.sent) :
    (if (node.plan path).skips value? then [] else failures).map Failure.sent =
      (if node.passesOver value? then [] else reports).map Report.sent := by
  rw [skips_plan]
  cases node.passesOver value? with
  | true => rfl
  | false => exact h

mutual

/-- A run of the plan of a node and a reading of the node send the same. -/
theorem sent_failures [PatternLanguage] (node : Node) (steps : List PathStep)
    (h : ∀ place ∈ node.nodes steps, place.2.Configured) (extras : Extras) (trail : Trail)
    (value? : Option Value) :
    ((node.plan trail.path).failures extras trail.index? value?).map Failure.sent =
      (node.reports extras trail value?).map Report.sent := by
  have hown := node.sent_failure? (h _ (node.self_mem_nodes steps)) extras trail value?
  cases value? with
  | none =>
    -- An absent value fails at its kind, so nothing below it is looked at.
    rw [Plan.failures_none, reports_none, own_plan, ← Option.toList_map, hown, Option.toList_map]
  | some v =>
    cases node with
    | leaf attrs rule =>
      unfold plan Plan.failures reports
      rw [← Option.toList_map, hown, Option.toList_map]
    | arrayOf attrs lengths item =>
      unfold nodes at h
      have hitems := fun i x => sent_failures item (steps ++ [.items])
        (fun place hplace => h place (List.mem_append_left _ hplace)) extras
        (trail ++ [.element i]) (some x)
      simp only [Trail.path_append, Trail.index?_append_element] at hitems
      unfold plan Plan.failures reports
      refine sent_unless _ _ _ _ hown ?_
      -- Each item sends the same in both ways, so the last one that sends anything is the same.
      rw [lastFinding_eq, map_lastNonempty, map_lastNonempty, List.mapIdx_eq_zipIdx_map,
        List.mapIdx_eq_zipIdx_map, List.map_map, List.map_map]
      simp only [Nat.zero_add]
      exact congrArg lastNonempty (List.map_congr_left fun place _ => hitems place.2 place.1)
    | tuple attrs lengths positions =>
      unfold nodes at h
      have hbelow := sent_positionFailures positions steps 0
        (fun place hplace => h place (List.mem_append_left _ hplace)) extras trail v
      unfold plan reports
      rw [Plan.failures_positions]
      exact sent_unless _ _ _ _ hown hbelow
    | object attrs allowExtra properties =>
      unfold nodes at h
      have hbelow := sent_propertyFailures properties steps
        (fun place hplace => h place (List.mem_append_left _ hplace)) extras trail v
      unfold plan reports
      rw [Plan.failures_properties]
      exact sent_unless _ _ _ _ hown hbelow

/-- The same for the positions of a tuple. -/
theorem sent_positionFailures [PatternLanguage]
    (positions : List Node) (steps : List PathStep) (i : Nat)
    (h : ∀ place ∈ positionNodes positions steps i, place.2.Configured) (extras : Extras)
    (trail : Trail) (v : Value) :
    (Plan.positionFailures extras (positionPlans positions trail.path i) trail.index? v i).map
        Failure.sent =
      (positionReports extras positions trail (some v) i).map Report.sent := by
  cases positions with
  | nil => rfl
  | cons node rest =>
    unfold positionNodes at h
    rw [List.forall_mem_append] at h
    have hfirst := sent_failures node _ h.1 extras (trail ++ [.position i]) (v.item? i)
    rw [Trail.path_append, Trail.index?_append_position] at hfirst
    unfold positionPlans Plan.positionFailures positionReports
    rw [List.map_append, List.map_append,
      sent_positionFailures rest steps (i + 1) h.2 extras trail v]
    exact congrArg (· ++ _) (sent_child node _ _ _ _ hfirst)

/-- The same for the properties of an object. -/
theorem sent_propertyFailures [PatternLanguage]
    (properties : List (String × Node)) (steps : List PathStep)
    (h : ∀ place ∈ propertyNodes properties steps, place.2.Configured) (extras : Extras)
    (trail : Trail) (v : Value) :
    (Plan.propertyFailures extras (propertyPlans properties trail.path) trail.index? v).map
        Failure.sent =
      (propertyReports extras properties trail (some v)).map Report.sent := by
  match properties with
  | [] => rfl
  | (name, node) :: rest =>
    unfold propertyNodes at h
    rw [List.forall_mem_append] at h
    have hfirst := sent_failures node _ h.1 extras (trail ++ [.property name]) (v.get? name)
    rw [Trail.path_append, Trail.index?_append_property] at hfirst
    unfold propertyPlans Plan.propertyFailures propertyReports
    rw [List.map_append, List.map_append, sent_propertyFailures rest steps h.2 extras trail v]
    exact congrArg (· ++ _) (sent_child node _ _ _ _ hfirst)

end

end Node

/-- A run of a compiled validator and a reading of its schema send the same. -/
theorem Schema.sent_failures [PatternLanguage]
    (s : Schema) (extraParams : List String) (v : Validator)
    (h : s.compile extraParams = .ok v) (value : Value) (args : List Value) :
    (v.failures value args).map Failure.sent =
      (s.reports { names := extraParams, args } value).map Report.sent := by
  obtain ⟨hdefects, rfl⟩ := (s.compile_eq_ok_iff extraParams v).1 h
  obtain ⟨-, -, hnodes⟩ := (s.defects_eq_nil_iff extraParams).1 hdefects
  exact s.node.sent_failures [] hnodes { names := extraParams, args } [] (some value)

/-- The errors of a validator are those of the reports of its schema. -/
theorem Schema.validate_eq [PatternLanguage]
    (s : Schema) (extraParams : List String) (v : Validator)
    (h : s.compile extraParams = .ok v) (value : Value) (args : List Value) :
    v.validate value args = (s.reports { names := extraParams, args } value).map Report.error := by
  have hfailures : v.validate value args =
      ((v.failures value args).map Failure.sent).map fun sent => sent.1.produce sent.2 := by
    rw [List.map_map]
    rfl
  have hreports : (s.reports { names := extraParams, args } value).map Report.error =
      ((s.reports { names := extraParams, args } value).map Report.sent).map
        fun sent => sent.1.produce sent.2 := by
    rw [List.map_map]
    rfl
  rw [hfailures, hreports, s.sent_failures extraParams v h value args]

/-- Compiling a schema and running its validator refines reading the schema: the same producers are
called in the same order with the same context, and the list of errors is that of the reports. -/
theorem Schema.validator_refines_reports [PatternLanguage]
    (s : Schema) (extraParams : List String) (v : Validator)
    (h : s.compile extraParams = .ok v) (value : Value) (args : List Value) :
    (v.failures value args).map Failure.sent =
        (s.reports { names := extraParams, args } value).map Report.sent ∧
      v.validate value args =
        (s.reports { names := extraParams, args } value).map Report.error :=
  ⟨s.sent_failures extraParams v h value args, s.validate_eq extraParams v h value args⟩

/-- The demonstration schema compiles with a name for an extra argument. -/
theorem Demo.compile_schema :
    Demo.schema.compile ["limit"] =
      .ok { plan := Demo.schema.node.plan .root, extraParams := ["limit"] } :=
  (Demo.schema.compile_eq_ok_iff _ _).2 ⟨by decide +kernel, rfl⟩

/-- The sample of the demonstration fails as its schema reads. -/
theorem Demo.validator_refines_reports_sample :
    Demo.schema.compile ["limit"] =
        .ok { plan := Demo.schema.node.plan .root, extraParams := ["limit"] } ∧
      (Validator.failures { plan := Demo.schema.node.plan .root, extraParams := ["limit"] }
          Demo.sample [toValue 3]).map Failure.sent =
        (Demo.schema.reports { names := ["limit"], args := [toValue 3] } Demo.sample).map
          Report.sent ∧
      Validator.validate { plan := Demo.schema.node.plan .root, extraParams := ["limit"] }
          Demo.sample [toValue 3] =
        (Demo.schema.reports { names := ["limit"], args := [toValue 3] } Demo.sample).map
          Report.error :=
  ⟨Demo.compile_schema,
    Demo.schema.validator_refines_reports ["limit"] _ Demo.compile_schema Demo.sample [toValue 3]⟩

example :
    (Demo.schema.reports { names := ["limit"], args := [toValue 3] } Demo.sample).map
        (fun r => (r.trail.path.text, r.trail.index?, r.constraint)) =
      [("name", none, .maxLen), ("age", none, .max), ("hobbies/*", some 5, .minLen),
        ("users/*/name", some 2, .maxLen), ("users/*/age", some 2, .max)] := by
  decide +kernel

end DataShape
