import DataShape.Proofs.Validator.FetchedPlan
import DataShape.Proofs.Validator.NumberBounds
import DataShape.Proofs.Validator.TypedParsing
import DataShape.Proofs.Validator.Visits

/-!
# What a walk relies on

A walk through a plan goes on in some way whatever it comes across (`DataShape.Validator.Walk`), so
that it means anything rests on the plan. `Schema.walk_proper` says what the plans of schemas are
like and what follows for every walk through them. Each node has the checks of its node in the
schema, in the order of the node's constraints, the test of the kind first and once, the predicate
last (`Cascade.FitsRule`), and its children are fetched in the one way that fits
(`FetchPlan.IsFor`). Then a length is only looked at in strings and lists, a pattern only in
strings, a bound on numbers only in numbers and keys only in maps, and what is absent only meets the
test of a kind (`Action.Proper`).

The induction is over the node of the schema. A node's later checks and its children only see values
that its kind has accepted (`Walk.check_proper`), and what is accepted is of the one kind that all
constraints of the rule are about (`Rule.appliesTo_valueKind`). That a walk finds the failures of a
run is shown in `DataShape.Proofs.Validator.FetchedPlan`, and that it writes down all that it does
in `DataShape.Proofs.Validator.LoggedActions`.
-/

namespace DataShape

/-! ## Proper actions -/

/-- The constraint that a test is about. -/
def Test.constraint : Test → Constraint
  | kind _ => .type
  | minLen _ => .minLen
  | maxLen _ => .maxLen
  | pattern _ => .pattern
  | min _ => .min
  | max _ => .max
  | onlyKeys _ => .extra
  | predicate _ => .validator

/-- The test has something to look at in values of the kind. -/
def Test.AppliesTo (test : Test) (k : ValueKind) : Prop :=
  match test with
  | kind _ => True
  | minLen _ => k = .string ∨ k = .list
  | maxLen _ => k = .string ∨ k = .list
  | pattern _ => k = .string
  | min _ => k = .number
  | max _ => k = .number
  | onlyKeys _ => k = .map
  | predicate _ => True

/-- The action makes sense. -/
def Action.Proper : Action → Prop
  | check test none => ∃ k, test = .kind k
  | check test (some v) => test.AppliesTo v.kind
  | fetch (.key _) parent => parent.kind = .map
  | fetch (.position _) parent => parent.kind = .list
  | fetch .root _ => False
  | fetch .element _ => False
  | scan v => v.kind = .list
  | giveUp => False

/-- All that the walk has done makes sense. -/
def Walk.Proper (w : Walk) : Prop := ∀ action ∈ w.actions, action.Proper

/-- One more proper action leaves a walk proper. -/
theorem Walk.Proper.act {w : Walk} (h : w.Proper) (action : Action) (haction : action.Proper) :
    (w.act action).Proper :=
  List.forall_mem_append.2 ⟨h, List.forall_mem_singleton.2 haction⟩

/-! ## What plans are like -/

/-- The checks fit a rule: the test of its kind comes first and only once, a predicate comes last,
and all are about constraints of the rule, in their order. -/
structure Cascade.FitsRule (own : Cascade) (rule : Rule) : Prop where
  kind_first : own.checks.head?.map Check.test = some (.kind rule.kindTest)
  kind_once : ∀ check ∈ own.checks.tail, ∀ k, check.test ≠ .kind k
  predicate_last : ∀ check ∈ own.checks.dropLast, ∀ p, check.test ≠ .predicate p
  constraints : (own.checks.map fun check => check.test.constraint).Sublist rule.constraints

/-- The plan is one for the node: at every node the checks fit the rule, and the children are
fetched by the keys of the properties, by the positions from 0 on, or as elements. No key is fetched
twice if no property is declared twice. -/
inductive FetchPlan.IsFor : FetchPlan → Node → Prop
  | leaf (attrs : Attributes) (rule : LeafRule) (fetch : Fetch) (own : Cascade)
      (fits : own.FitsRule (Node.leaf attrs rule).rule) :
      IsFor (.node fetch own .none) (.leaf attrs rule)
  | arrayOf (attrs : Attributes) (lengths : LengthBounds) (item : Node) (fetch : Fetch)
      (own : Cascade) (plan : FetchPlan)
      (fits : own.FitsRule (Node.arrayOf attrs lengths item).rule)
      (fetched : plan.fetch = .element) (below : IsFor plan item) :
      IsFor (.node fetch own (.uniform plan)) (.arrayOf attrs lengths item)
  | tuple (attrs : Attributes) (lengths : LengthBounds) (positions : List Node) (fetch : Fetch)
      (own : Cascade) (plans : List FetchPlan)
      (fits : own.FitsRule (Node.tuple attrs lengths positions).rule) (nonempty : plans ≠ [])
      (fetched : plans.map FetchPlan.fetch = (List.range plans.length).map .position)
      (below : List.Forall₂ IsFor plans positions) :
      IsFor (.node fetch own (.positions plans)) (.tuple attrs lengths positions)
  | object (attrs : Attributes) (allowExtra : Bool) (properties : List (String × Node))
      (fetch : Fetch) (own : Cascade) (plans : List FetchPlan)
      (fits : own.FitsRule (Node.object attrs allowExtra properties).rule)
      (fetched : plans.map FetchPlan.fetch = (Entries.keys properties).map .key)
      (distinct : (Node.object attrs allowExtra properties).HasDistinctNames →
        (plans.map FetchPlan.fetch).Nodup)
      (below : List.Forall₂ IsFor plans (properties.map Prod.snd)) :
      IsFor (.node fetch own (.properties plans)) (.object attrs allowExtra properties)

/-! ## The checks of a node -/

/-- The constraints of a rule stand in the order of all constraints. -/
theorem Rule.filter_constraints (rule : Rule) :
    (Constraint.all.filter fun c => decide (c ∈ rule.constraints)) = rule.constraints := by
  cases rule with
  | leaf rule => cases rule <;> rfl
  | object only? => rfl

namespace Node

/-- The check for a constraint is about it. -/
theorem constraint_of_checkFor? [PatternLanguage]
    (node : Node) (path : FieldPath) (c : Constraint) (check : Check)
    (h : node.checkFor? path c = some check) : check.test.constraint = c := by
  cases c with
  | type =>
    obtain rfl := Option.some.inj h
    rfl
  | pattern =>
    -- A pattern that cannot be read has no check.
    obtain ⟨source, -, hsource⟩ := Option.bind_eq_some_iff.1 h
    cases hread : Pattern.ofString source with
    | error e =>
      rw [hread] at hsource
      cases hsource
    | ok p =>
      rw [hread] at hsource
      obtain rfl := Option.some.inj hsource
      rfl
  | _ =>
    obtain ⟨_, -, rfl⟩ := Option.map_eq_some_iff.1 h
    rfl

/-- A node has checks for constraints of its rule only. -/
theorem mem_constraints_of_checkFor? [PatternLanguage]
    (node : Node) (path : FieldPath) (c : Constraint)
    (h : (node.checkFor? path c).isSome = true) : c ∈ node.rule.constraints := by
  unfold checkFor? at h
  generalize node.rule = rule at h ⊢
  -- A constraint that the kind of the rule does not have has no bound, and so no check.
  cases rule with
  | leaf rule =>
    cases rule <;> cases c <;>
      first | (simp [Rule.constraints, LeafRule.constraints]; done) | cases h
  | object only? => cases c <;> first | (simp [Rule.constraints]; done) | cases h

/-- The checks of a node are about those of all constraints that it has a check for. -/
theorem map_constraint_checks [PatternLanguage] (node : Node) (path : FieldPath) :
    ((node.checks path).checks.map fun check => check.test.constraint) =
      Constraint.all.filter fun c => (node.checkFor? path c).isSome := by
  have hall : ∀ cs : List Constraint,
      ((cs.flatMap fun c => (node.checkFor? path c).toList).map fun check =>
        check.test.constraint) = cs.filter fun c => (node.checkFor? path c).isSome := by
    intro cs
    induction cs with
    | nil => rfl
    | cons c cs ih =>
      rw [List.flatMap_cons, List.map_append, ih]
      cases hcheck : node.checkFor? path c with
      | none => rw [List.filter_cons_of_neg (by rw [hcheck]; decide)]; rfl
      | some check =>
        rw [List.filter_cons_of_pos (by rw [hcheck]; rfl), Option.toList_some, List.map_singleton,
          node.constraint_of_checkFor? path c check hcheck]
        rfl
  exact hall Constraint.all

/-- The checks of a node fit its rule. -/
theorem fitsRule_checks [PatternLanguage] (node : Node) (path : FieldPath) :
    (node.checks path).FitsRule node.rule := by
  have hmap := node.map_constraint_checks path
  have hsublist : ((node.checks path).checks.map fun check => check.test.constraint).Sublist
      Constraint.all := hmap ▸ List.filter_sublist
  refine ⟨rfl, ?_, ?_, ?_⟩
  · intro check hcheck k htest
    have hmem : Constraint.type ∈
        ((node.checks path).checks.map fun check => check.test.constraint).tail := by
      rw [← List.map_tail]
      exact List.mem_map.2 ⟨check, hcheck, by rw [htest]; rfl⟩
    exact absurd (hsublist.tail.subset hmem) (by decide)
  · intro check hcheck p htest
    have hmem : Constraint.validator ∈
        ((node.checks path).checks.map fun check => check.test.constraint).dropLast := by
      rw [← List.map_dropLast]
      exact List.mem_map.2 ⟨check, hcheck, by rw [htest]; rfl⟩
    have hfront := hsublist.reverse.tail
    rw [List.tail_reverse, List.tail_reverse, List.reverse_sublist] at hfront
    exact absurd (hfront.subset hmem) (by decide)
  · have hfilter : (Constraint.all.filter fun c => (node.checkFor? path c).isSome) =
        node.rule.constraints.filter fun c => (node.checkFor? path c).isSome := by
      conv_rhs => rw [← node.rule.filter_constraints]
      rw [List.filter_filter]
      refine List.filter_congr fun c _ => ?_
      cases hcheck : (node.checkFor? path c).isSome with
      | false => rfl
      | true => rw [decide_eq_true (node.mem_constraints_of_checkFor? path c hcheck)]; rfl
    rw [hmap, hfilter]
    exact List.filter_sublist

end Node

/-! ## The plans of configured nodes -/

namespace Plan

/-- Positions are fetched in their order. -/
theorem map_fetch_positionsWithFetch (plans : List Plan) : ∀ i : Nat,
    (positionsWithFetch plans i).map FetchPlan.fetch =
      (List.range' i plans.length).map .position := by
  induction plans with
  | nil =>
    intro i
    rfl
  | cons plan rest ih =>
    intro i
    unfold positionsWithFetch
    rw [List.map_cons, fetch_withFetch, ih, List.length_cons, List.range'_succ, List.map_cons]

/-- There is a plan for each position. -/
theorem length_positionsWithFetch (plans : List Plan) (i : Nat) :
    (positionsWithFetch plans i).length = plans.length := by
  have hlength := congrArg List.length (map_fetch_positionsWithFetch plans i)
  rwa [List.length_map, List.length_map, List.length_range'] at hlength

end Plan

namespace Node

/-- The keys are those of the properties. -/
theorem map_fetch_propertyPlans [PatternLanguage]
    (properties : List (String × Node)) (path : FieldPath) :
    (Plan.propertiesWithFetch (propertyPlans properties path)).map FetchPlan.fetch =
      (Entries.keys properties).map .key := by
  induction properties with
  | nil => rfl
  | cons entry rest ih =>
    unfold propertyPlans Plan.propertiesWithFetch
    rw [List.map_cons, Plan.fetch_withFetch, ih]
    rfl

/-- The plans of a node are plans for it, however its value is fetched. -/
def HasFittingPlans [PatternLanguage] (node : Node) : Prop :=
  ∀ (path : FieldPath) (fetch : Fetch), ((node.plan path).withFetch fetch).IsFor node

/-- The plans of positions are plans for them. -/
theorem isFor_positionPlans [PatternLanguage] (positions : List Node)
    (h : ∀ node ∈ positions, node.HasFittingPlans) (path : FieldPath) : ∀ i : Nat,
      List.Forall₂ FetchPlan.IsFor (Plan.positionsWithFetch (positionPlans positions path i) i)
        positions := by
  induction positions with
  | nil =>
    intro i
    exact .nil
  | cons node rest ih =>
    intro i
    rw [List.forall_mem_cons] at h
    unfold positionPlans Plan.positionsWithFetch
    exact .cons (h.1 _ _) (ih h.2 (i + 1))

/-- The plans of properties are plans for them. -/
theorem isFor_propertyPlans [PatternLanguage] (properties : List (String × Node))
    (h : ∀ node ∈ properties.map Prod.snd, node.HasFittingPlans) (path : FieldPath) :
    List.Forall₂ FetchPlan.IsFor (Plan.propertiesWithFetch (propertyPlans properties path))
      (properties.map Prod.snd) := by
  induction properties with
  | nil => exact .nil
  | cons entry rest ih =>
    rw [List.map_cons, List.forall_mem_cons] at h
    unfold propertyPlans Plan.propertiesWithFetch
    exact .cons (h.1 _ _) (ih h.2)

/-- The plans of a node are plans for it if all of its nodes are configured. -/
theorem hasFittingPlans [PatternLanguage]
    (node : Node) : node.AllConfigured → node.HasFittingPlans := by
  induction node using Node.inductionOnChildren with
  | step node ih =>
    intro hconfigured path fetch
    obtain ⟨hown, hchildren⟩ := node.allConfigured_iff.1 hconfigured
    have hfits := node.fitsRule_checks path
    have hbelow := fun child hchild => ih child hchild (hchildren child hchild)
    cases node with
    | leaf attrs rule =>
      unfold plan Plan.withFetch
      exact .leaf attrs rule fetch _ hfits
    | arrayOf attrs lengths item =>
      have hitem := hbelow item (List.mem_singleton_self item)
      unfold plan Plan.withFetch
      exact .arrayOf attrs lengths item fetch _ _ hfits (Plan.fetch_withFetch _ _) (hitem _ _)
    | tuple attrs lengths positions =>
      unfold plan Plan.withFetch
      refine .tuple attrs lengths positions fetch _ _ hfits ?_ ?_
        (isFor_positionPlans positions hbelow path 0)
      · -- A tuple without positions is a defect.
        cases positions with
        | nil => exact absurd rfl (hown.positions attrs lengths)
        | cons first rest => exact List.cons_ne_nil _ _
      · rw [Plan.map_fetch_positionsWithFetch, Plan.length_positionsWithFetch,
          List.range_eq_range']
    | object attrs allowExtra properties =>
      have hkeys := map_fetch_propertyPlans properties path
      unfold plan Plan.withFetch
      refine .object attrs allowExtra properties fetch _ _ hfits hkeys (fun hdistinct => ?_)
        (isFor_propertyPlans properties hbelow path)
      rw [hkeys]
      exact List.Nodup.map (fun _ _ => Fetch.key.inj) hdistinct

end Node

/-! ## Values that are accepted -/

namespace Rule

/-- The kind of all values that the rule accepts. -/
def valueKind : Rule → ValueKind
  | leaf (.string _) => .string
  | leaf (.number _) => .number
  | leaf .bool => .bool
  | leaf (.array _) => .list
  | object _ => .map

/-- What a rule accepts is of its kind. -/
theorem kind_of_accepts (rule : Rule) (v : Value) (h : rule.kindTest.accepts v = true) :
    v.kind = rule.valueKind := by
  rw [accepts_kindTest] at h
  cases rule with
  | object only? => exact eq_of_beq h
  | leaf rule =>
    cases rule with
    | string rules => exact eq_of_beq h
    | bool => exact eq_of_beq h
    | array lengths => exact eq_of_beq h
    | number rules =>
      cases v with
      | number x => rfl
      | _ => cases h

/-- The constraints of a rule are all about values of its kind. -/
theorem appliesTo_valueKind (rule : Rule) (test : Test)
    (h : test.constraint ∈ rule.constraints) : test.AppliesTo rule.valueKind := by
  -- A test of another constraint is none of the rule, so nothing is left of these cases.
  cases rule with
  | object only? =>
    cases test <;> simp_all [Test.AppliesTo, Test.constraint, constraints, valueKind]
  | leaf rule =>
    cases rule <;> cases test <;>
      simp_all [Test.AppliesTo, Test.constraint, constraints, LeafRule.constraints, valueKind]

end Rule

/-! ## The checks of one node -/

namespace Walk

/-- A walk stays proper when it makes proper checks. -/
theorem Proper.check {extras : Extras} {path : FieldPath} {index? : Option Nat}
    {value? : Option Value} (checks : List Check) : ∀ {w : Walk}, w.Proper →
      (∀ c ∈ checks, (Action.check c.test value?).Proper) →
      (w.check extras path index? value? checks).1.Proper := by
  induction checks with
  | nil =>
    intro w hw _
    exact hw
  | cons c rest ih =>
    intro w hw hchecks
    rw [List.forall_mem_cons] at hchecks
    unfold Walk.check
    cases c.failure? extras path index? value? with
    | some f => exact hw.act _ hchecks.1
    | none => exact ih (hw.act _ hchecks.1) hchecks.2

/-- A walk stays proper when it makes the checks of a node, and if all of them pass there is a value
that the kind of the node accepts. -/
theorem check_proper (own : Cascade) (rule : Rule) (hown : own.FitsRule rule) (extras : Extras)
    (path : FieldPath) (index? : Option Nat) (value? : Option Value) (w : Walk) (hw : w.Proper) :
    (w.check extras path index? value? own.checks).1.Proper ∧
      ((w.check extras path index? value? own.checks).2 = true →
        ∃ v, value? = some v ∧ rule.kindTest.accepts v = true) := by
  obtain ⟨first, hfirst, hkind⟩ := Option.map_eq_some_iff.1 hown.kind_first
  obtain ⟨rest, hchecks⟩ := List.head?_eq_some_iff.1 hfirst
  have hconstraints := hown.constraints
  rw [hchecks, List.map_cons] at hconstraints
  rw [hchecks]
  unfold check
  cases value? with
  | none =>
    refine ⟨hw.act (.check first.test none) ⟨_, hkind⟩, fun hpassed => ?_⟩
    cases hpassed
  | some v =>
    have hact : (w.act (.check first.test (some v))).Proper := by
      refine hw.act _ ?_
      rw [hkind]
      trivial
    have hnone : first.failure? extras path index? (some v) = none ↔
        rule.kindTest.accepts v = true := by
      rw [first.failure?_eq_none_iff, hkind, Test.outcome_kind_eq_pass_iff]
    cases hfailure : first.failure? extras path index? (some v) with
    | some f =>
      refine ⟨hact, fun hpassed => ?_⟩
      cases hpassed
    | none =>
      have haccepts := hnone.1 hfailure
      refine ⟨hact.check rest fun c hc => ?_, fun _ => ⟨v, rfl, haccepts⟩⟩
      -- The values that are accepted are those that the other checks are about.
      show c.test.AppliesTo v.kind
      rw [rule.kind_of_accepts v haccepts]
      exact rule.appliesTo_valueKind c.test
        (hconstraints.subset (List.mem_cons_of_mem _ (List.mem_map_of_mem hc)))

end Walk

/-! ## Whole walks -/

/-- A walk through the plan for a node stays proper. -/
def Node.WalksProper (extras : Extras) (node : Node) : Prop :=
  ∀ (plan : FetchPlan) (index? : Option Nat) (value? : Option Value) (w : Walk),
    plan.IsFor node → w.Proper → (plan.walk extras index? value? w).Proper

namespace Walk

/-- A walk stays proper when it goes through the plans of several children that are fetched
properly. -/
theorem Proper.walkAll {extras : Extras} {index? : Option Nat} {v : Value} {plans : List FetchPlan}
    {nodes : List Node} (h : List.Forall₂ FetchPlan.IsFor plans nodes)
    (hnodes : ∀ node ∈ nodes, node.WalksProper extras)
    (hfetched : ∀ fetch ∈ plans.map FetchPlan.fetch, (Action.fetch fetch v).Proper) :
    ∀ {w : Walk}, w.Proper → (FetchPlan.walkAll extras plans index? v w).Proper := by
  induction h with
  | nil =>
    intro w hw
    exact hw
  | @cons plan node plans nodes hplan _ ih =>
    intro w hw
    rw [List.forall_mem_cons] at hnodes
    rw [List.map_cons, List.forall_mem_cons] at hfetched
    have hact := hw.act _ hfetched.1
    unfold FetchPlan.walkAll
    split
    · exact ih hnodes.2 hfetched.2 hact
    · exact ih hnodes.2 hfetched.2 (hnodes.1 plan index? _ _ hplan hact)

end Walk

/-- A walk through the plan for a node stays proper. -/
theorem Node.walksProper (extras : Extras) (node : Node) : node.WalksProper extras := by
  induction node using Node.inductionOnChildren with
  | step node ih =>
    intro plan index? value? w hplan hw
    obtain ⟨fetch, own, below⟩ := plan
    have hfits : own.FitsRule node.rule := by cases hplan <;> assumption
    obtain ⟨hchecked, hpassed⟩ :=
      w.check_proper own node.rule hfits extras own.path index? value? hw
    unfold FetchPlan.walk
    generalize w.check extras own.path index? value? own.checks = checked at hchecked hpassed ⊢
    obtain ⟨w, passed⟩ := checked
    cases passed with
    | false => exact hchecked
    | true =>
      obtain ⟨v, rfl, haccepts⟩ := hpassed rfl
      have hkind := node.rule.kind_of_accepts v haccepts
      show (FetchPlan.walkBelow extras below index? v w).Proper
      -- What stands below looks for items in a list, or for keys in a map.
      cases hplan with
      | leaf => exact hchecked
      | arrayOf attrs lengths item fetch own plan fits fetched hbelow =>
        have hact := hchecked.act (.scan v) hkind
        have hitem := ih item (List.mem_singleton_self item)
        unfold FetchPlan.walkBelow
        split
        · exact hact
        · exact Walk.scan_preserves (fun i x w hw => hitem plan _ _ w hbelow hw) _ _ hact
      | tuple attrs lengths positions fetch own plans fits nonempty fetched hbelow =>
        refine Walk.Proper.walkAll hbelow ih (fun fetch hfetch => ?_) hchecked
        rw [fetched] at hfetch
        obtain ⟨i, -, rfl⟩ := List.mem_map.1 hfetch
        exact hkind
      | object attrs allowExtra properties fetch own plans fits fetched distinct hbelow =>
        refine Walk.Proper.walkAll hbelow ih (fun fetch hfetch => ?_) hchecked
        rw [fetched] at hfetch
        obtain ⟨name, -, rfl⟩ := List.mem_map.1 hfetch
        exact hkind

/-- A schema that compiles is lowered to its compiled plan, which is a plan for its root and, below
that, for all of its nodes. A walk through it with any input finds the failures of the validator,
and all that it does makes sense. -/
theorem Schema.walk_proper [PatternLanguage]
    (s : Schema) (extraParams : List String) (v : Validator)
    (h : s.compile extraParams = .ok v) :
    ∃ plan, s.lower = .ok plan ∧ plan = v.plan.withFetch .root ∧ plan.fetch = .root ∧
      plan.IsFor s.node ∧ ∀ (input : Value) (args : List Value),
        (plan.walk { names := extraParams, args } none (some input) {}).failures =
            v.failures input args ∧
          (plan.walk { names := extraParams, args } none (some input) {}).Proper := by
  obtain ⟨-, -, hconfigured⟩ := (s.compiles_iff extraParams).1 ⟨v, h⟩
  have hlower := s.lower_eq extraParams v h
  obtain ⟨-, rfl⟩ := (s.compile_eq_ok_iff extraParams v).1 h
  have hplan := s.node.hasFittingPlans hconfigured .root .root
  refine ⟨_, hlower, rfl, Plan.fetch_withFetch _ _, hplan, fun input args => ⟨?_, ?_⟩⟩
  · rw [Plan.failures_walk]
    rfl
  · exact s.node.walksProper _ _ none (some input) {} hplan fun _ hnone => nomatch hnone

namespace Demo

/-- The schema of journeys: a number of days, a place as a pair of numbers, and names of stops. -/
def journey : Schema :=
  .ofSettings
    [.denyExtra,
      .property "days" (.ofNumber .plain [.own (.min (.ofNat 1)), .optional]),
      .property "place" (.ofArray
        (.positions [.ofNumber .plain [.own (.max (.ofNat 90))], .ofNumber .plain []]) []),
      .property "stops" (.ofArray (.each (.ofString [.own (.minLen 1)])) [])]

/-- A journey with a place that has one number only, and with a stop that is a number. -/
def journeySample : Value :=
  .ofEntries [("place", toValue [91]), ("stops", .list [toValue "", toValue 1])]

/-- A walk with the journey makes sense. -/
theorem walk_proper_journey :
    journey.compile [] = .ok { plan := journey.node.plan .root, extraParams := [] } ∧
      ∃ plan, journey.lower = .ok plan ∧ plan.IsFor journey.node ∧
        (plan.walk { names := [], args := [] } none (some journeySample) {}).failures =
          Validator.failures { plan := journey.node.plan .root, extraParams := [] }
            journeySample [] ∧
        (plan.walk { names := [], args := [] } none (some journeySample) {}).Proper := by
  have hcompile : journey.compile [] = .ok { plan := journey.node.plan .root, extraParams := [] } :=
    (journey.compile_eq_ok_iff _ _).2 ⟨by decide +kernel, rfl⟩
  obtain ⟨plan, hlower, -, -, hplan, hwalk⟩ := journey.walk_proper [] _ hcompile
  obtain ⟨hfailures, hproper⟩ := hwalk journeySample []
  exact ⟨hcompile, plan, hlower, hplan, hfailures, hproper⟩

example :
    journey.lower.toOption.map (fun plan =>
      (plan.walk { names := [], args := [] } none (some journeySample) {}).actions.filterMap
        fun
        | .check test value? => some (test.constraint, value?.map Value.kind)
        | _ => none) =
      some [(.type, some .map), (.extra, some .map), (.type, some .list), (.type, some .number),
        (.max, some .number), (.type, none), (.type, some .list), (.type, some .number)] := by
  decide +kernel

end Demo

end DataShape
