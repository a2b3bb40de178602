import DataShape.Proofs.Schema.Defects
import DataShape.Proofs.Schema.PathText

/-!
# Compiling is listing the defects and making the plan

`Schema.compile` interleaves two tasks: it looks for the first defect, and it makes the plan. Here
the two are taken apart. `Node.plan` makes the plan of any node, sound or not, one check for each
constraint that the node has (`Node.checkFor?`). `Schema.compile_eq` shows that compiling gives the
plan when `Schema.defects` is empty, and the first of the defects otherwise.

The proof carries `unlessDefect x ds`, which is `x` unless `ds` has a defect. Two of them in a row
are one whose defects are put together (`unlessDefect_bind`), so each step of the compilation adds
its defects behind those before it.
-/

namespace DataShape

/-- `x` unless there is a defect, else the first one. -/
def unlessDefect {α : Type} (x : α) : List Defect → Except Defect α
  | [] => .ok x
  | d :: _ => .error d

/-- Two steps in a row find the first defect of both. -/
theorem unlessDefect_bind {α β : Type} (x : α) (ds es : List Defect) (f : α → Except Defect β)
    (y : β) (h : f x = unlessDefect y es) :
    (unlessDefect x ds >>= f) = unlessDefect y (ds ++ es) := by
  cases ds with
  | nil => exact h
  | cons d ds => rfl

/-- A last step that finds no defect only changes the result. -/
theorem unlessDefect_map {α β : Type} (x : α) (ds : List Defect) (f : α → β) :
    (unlessDefect x ds >>= fun a => pure (f a)) = unlessDefect (f x) ds := by
  rw [unlessDefect_bind x ds [] _ (f x) rfl, List.append_nil]

/-- A result comes out when there is no defect. -/
theorem unlessDefect_eq_ok_iff {α : Type} (x y : α) (ds : List Defect) :
    unlessDefect x ds = .ok y ↔ ds = [] ∧ x = y := by
  cases ds <;> simp [unlessDefect]

/-- A defect comes out when it is the first. -/
theorem unlessDefect_eq_error_iff {α : Type} (x : α) (ds : List Defect) (d : Defect) :
    unlessDefect x ds = .error d ↔ ds.head? = some d := by
  cases ds <;> simp [unlessDefect]

/-! ## The checks of a node -/

/-- The test of the kind that a rule asks for. -/
def Rule.kindTest : Rule → KindTest
  | leaf (.string _) => .string
  | leaf (.number rules) => rules.kind.test
  | leaf .bool => .bool
  | leaf (.array _) => .list
  | object _ => .map

/-- The check of a rule for a constraint, if the rule has the constraint. The predicate of the caller
is not a part of the rule. -/
def Rule.checkFor? [PatternLanguage]
    (rule : Rule) (errors : Producers) (path : FieldPath) (c : Constraint) :
    Option Check :=
  let check := Check.of errors path c
  match c with
  | .type => some (check (.kind rule.kindTest) none rule.kindText)
  | .minLen => rule.lengths.min?.map fun n =>
    check (.minLen n) (some (toValue n)) (rule.minLenText n)
  | .maxLen => rule.lengths.max?.map fun n =>
    check (.maxLen n) (some (toValue n)) (rule.maxLenText n)
  | .pattern => rule.pattern?.bind fun source =>
    match Pattern.ofString source with
    | .ok p => some (check (.pattern p) (some (toValue source))
        s!" does not match pattern '{source}'.")
    | .error _ => none
  | .min => rule.min?.map fun x =>
    check (.min x) (some (toValue x)) s!" must be at least {NumberStyle.plain.text x}."
  | .max => rule.max?.map fun x =>
    check (.max x) (some (toValue x)) s!" must be at most {NumberStyle.plain.text x}."
  | .extra => rule.only?.map fun allowed =>
    check (.onlyKeys allowed) none " contains undeclared keys."
  | .validator => none

namespace Node

/-- The check of a node for a constraint, if the node has the constraint. -/
def checkFor? [PatternLanguage] (node : Node) (path : FieldPath) (c : Constraint) : Option Check :=
  match c with
  | .validator => node.attrs.validator?.map fun p => p.check node.attrs.errors path
  | c => node.rule.checkFor? node.attrs.errors path c

/-- The checks of the node itself, in order of priority. -/
def checks [PatternLanguage] (node : Node) (path : FieldPath) : Cascade where
  path
  optional := node.attrs.optional
  checks := Constraint.all.flatMap fun c => (node.checkFor? path c).toList

mutual

/-- The plan of a node, whether it has defects or not. -/
def plan [PatternLanguage] : Node → FieldPath → Plan
  | leaf attrs rule, path => .leaf (checks (leaf attrs rule) path)
  | arrayOf attrs lengths item, path =>
    .each (checks (arrayOf attrs lengths item) path) (item.plan (path.child .items))
  | tuple attrs lengths nodes, path =>
    .positions (checks (tuple attrs lengths nodes) path) (positionPlans nodes path 0)
  | object attrs allowExtra properties, path =>
    .properties (checks (object attrs allowExtra properties) path) (propertyPlans properties path)

/-- The plans of the positions of a tuple, from the given position on. -/
def positionPlans [PatternLanguage] : List Node → FieldPath → Nat → List Plan
  | [], _, _ => []
  | node :: rest, path, i =>
    node.plan (path.child (.position i)) :: positionPlans rest path (i + 1)

/-- The plans of the properties of an object. -/
def propertyPlans [PatternLanguage] : List (String × Node) → FieldPath → List (String × Plan)
  | [], _ => []
  | (name, node) :: rest, path =>
    (name, node.plan (path.child (.property name))) :: propertyPlans rest path

end

/-- The checks stand in a node's plan. -/
theorem own_plan [PatternLanguage]
    (node : Node) (path : FieldPath) : (node.plan path).own = node.checks path := by
  cases node <;> (unfold plan; rfl)

end Node

/-! ## The steps of a compilation -/

/-- The test of bounds on a length finds their defect. -/
theorem LengthBounds.verify_eq (lengths : LengthBounds) (path : FieldPath) :
    lengths.verify path = unlessDefect () (lengths.defects path) := by
  unfold verify defects
  cases lengths.min? with
  | none => rfl
  | some min =>
    cases lengths.max? with
    | none => rfl
    | some max => by_cases h : max < min <;> simp [h, unlessDefect]

/-- A number has no defects but those of its bounds. -/
theorem NumberRules.defects_eq [PatternLanguage] (rules : NumberRules) (path : FieldPath) :
    Rule.defects (.leaf (.number rules)) path =
      rules.min?.toList.flatMap (boundDefects path) ++
        rules.max?.toList.flatMap (boundDefects path) ++
        orderDefects path rules.min? rules.max? := rfl

/-- The test of bounds on a number finds the first of their defects. -/
theorem NumberRules.verify_eq [PatternLanguage] (rules : NumberRules) (path : FieldPath) :
    rules.verify path = unlessDefect () (Rule.defects (.leaf (.number rules)) path) := by
  obtain ⟨kind, min?, max?⟩ := rules
  rw [defects_eq]
  unfold verify
  -- Which bounds are set and finite decides the first defect. Their order counts only when both are.
  cases min? with
  | none =>
    cases max? with
    | none => rfl
    | some max => cases hmax : max.isFinite <;> simp [boundDefects, orderDefects, unlessDefect, hmax]
  | some min =>
    cases hmin : min.isFinite with
    | false => simp [boundDefects, unlessDefect, hmin]
    | true =>
      cases max? with
      | none => simp [boundDefects, orderDefects, unlessDefect, hmin]
      | some max =>
        cases hmax : max.isFinite with
        | false => simp [boundDefects, unlessDefect, hmin, hmax]
        | true =>
          cases hlt : max.lt min <;>
            simp [boundDefects, orderDefects, unlessDefect, hmin, hmax, hlt]

/-- The check of a pattern is made when the pattern can be read. -/
theorem StringRules.patternCheck_eq [PatternLanguage]
    (rules : StringRules) (errors : Producers) (path : FieldPath) :
    rules.patternCheck errors path =
      unlessDefect
        (rules.pattern?.bind fun source =>
          match Pattern.ofString source with
          | .ok p => some (Check.of errors path .pattern (.pattern p) (some (toValue source))
              s!" does not match pattern '{source}'.")
          | .error _ => none).toList
        (rules.pattern?.toList.flatMap (patternDefects path)) := by
  unfold patternCheck
  cases rules.pattern? with
  | none => rfl
  | some source =>
    cases h : Pattern.ofString source <;> simp [patternDefects, unlessDefect, h]

namespace Rule

/-- The checks of an array are found or refused by its defects. -/
theorem arrayChecks_eq [PatternLanguage]
    (lengths : LengthBounds) (errors : Producers) (path : FieldPath) :
    arrayChecks lengths errors path =
      unlessDefect
        (Constraint.all.flatMap fun c =>
          (checkFor? (.leaf (.array lengths)) errors path c).toList)
        (defects (.leaf (.array lengths)) path) := by
  unfold arrayChecks
  rw [LengthBounds.verify_eq, unlessDefect_map]
  simp [Constraint.all, checkFor?, defects, Rule.lengths, pattern?, min?, max?, only?, kindTest,
    kindText, minLenText, maxLenText, countsElements, LengthBounds.checks, orderDefects]

/-- The checks of a string are found or refused by its defects. -/
theorem stringChecks_eq [PatternLanguage]
    (rules : StringRules) (errors : Producers) (path : FieldPath) :
    rules.checks errors path =
      unlessDefect
        (Constraint.all.flatMap fun c =>
          (checkFor? (.leaf (.string rules)) errors path c).toList)
        (defects (.leaf (.string rules)) path) := by
  unfold StringRules.checks
  rw [LengthBounds.verify_eq, StringRules.patternCheck_eq]
  refine (unlessDefect_bind () _ _ _ _ (unlessDefect_map _ _ _)).trans ?_
  simp [Constraint.all, checkFor?, defects, Rule.lengths, pattern?, min?, max?, only?, kindTest,
    kindText, minLenText, maxLenText, countsElements, LengthBounds.checks, orderDefects]

/-- The checks of a number are those of its constraints. -/
theorem numberChecks_eq [PatternLanguage]
    (rules : NumberRules) (errors : Producers) (path : FieldPath) :
    rules.checks errors path =
      Constraint.all.flatMap fun c =>
        (checkFor? (.leaf (.number rules)) errors path c).toList := by
  simp [Constraint.all, checkFor?, Rule.lengths, pattern?, min?, max?, only?, kindTest, kindText,
    NumberRules.checks]

/-- The checks of an object are those of its constraints. -/
theorem objectChecks_eq [PatternLanguage]
    (only? : Option (List String)) (errors : Producers) (path : FieldPath) :
    objectChecks only? errors path =
      Constraint.all.flatMap fun c => (checkFor? (.object only?) errors path c).toList := by
  simp [Constraint.all, checkFor?, Rule.lengths, pattern?, min?, max?, Rule.only?, kindTest,
    kindText, objectChecks]

/-- The checks of a rule are found or refused by its defects. -/
theorem checks_eq [PatternLanguage] (rule : Rule) (errors : Producers) (path : FieldPath) :
    rule.checks errors path =
      unlessDefect (Constraint.all.flatMap fun c => (rule.checkFor? errors path c).toList)
        (rule.defects path) := by
  unfold checks
  cases rule with
  | leaf rule =>
    cases rule with
    | string rules => exact stringChecks_eq rules errors path
    | number rules =>
      simp only [NumberRules.verify_eq]
      rw [unlessDefect_map, numberChecks_eq]
    | bool => rfl
    | array lengths => exact arrayChecks_eq lengths errors path
  | object only? => exact congrArg Except.ok (objectChecks_eq only? errors path)

end Rule

namespace Node

/-- The checks of a node are those of its rule, and then its predicate. -/
theorem checks_checks [PatternLanguage] (node : Node) (path : FieldPath) :
    (node.checks path).checks =
      (Constraint.all.flatMap fun c => (node.rule.checkFor? node.attrs.errors path c).toList) ++
        (node.attrs.validator?.map fun p => p.check node.attrs.errors path).toList := by
  simp [checks, Constraint.all, checkFor?, Rule.checkFor?]

/-- The cascade of a node is found or refused by the defects of its rule. -/
theorem cascade_eq [PatternLanguage] (node : Node) (path : FieldPath) :
    node.cascade path = unlessDefect (node.checks path) (node.rule.defects path) := by
  unfold cascade
  rw [Rule.checks_eq, unlessDefect_map, ← checks_checks]
  rfl

/-- The cascade of a node that is not an empty tuple is found or refused by its own defects. -/
theorem cascade_eq_of_not_isEmptyTuple [PatternLanguage] (node : Node) (path : FieldPath)
    (h : node.isEmptyTuple = false) :
    node.cascade path = unlessDefect (node.checks path) (node.ownDefects path) := by
  unfold ownDefects
  rw [cascade_eq, h]
  rfl

end Node

/-! ## The whole compilation -/

namespace Node

mutual

/-- Compiling a node gives its plan or the first defect of its nodes. -/
theorem compile_eq [PatternLanguage] (node : Node) (steps : List PathStep) :
    node.compile (.ofSteps steps) =
      unlessDefect (node.plan (.ofSteps steps)) (defectsOf (node.nodes steps)) := by
  cases node with
  | leaf attrs rule =>
    unfold compile plan nodes
    rw [cascade_eq_of_not_isEmptyTuple _ _ rfl, unlessDefect_map, defectsOf_singleton]
  | arrayOf attrs lengths item =>
    -- The plan of the items is made before the checks of the array.
    unfold compile plan nodes
    rw [← FieldPath.ofSteps_append, compile_eq item, defectsOf_append, defectsOf_singleton,
      cascade_eq_of_not_isEmptyTuple _ _ rfl]
    exact unlessDefect_bind _ _ _ _ _ (unlessDefect_map _ _ _)
  | tuple attrs lengths positions =>
    unfold compile plan nodes
    rw [compilePositions_eq positions, defectsOf_append, defectsOf_singleton]
    -- A tuple without positions has a defect at once, and nothing below it that could have one.
    cases positions with
    | nil => rfl
    | cons first rest =>
      rw [cascade_eq_of_not_isEmptyTuple _ _ rfl]
      exact unlessDefect_bind _ _ _ _ _ (unlessDefect_map _ _ _)
  | object attrs allowExtra properties =>
    unfold compile plan nodes
    rw [compileProperties_eq properties, defectsOf_append, defectsOf_singleton,
      cascade_eq_of_not_isEmptyTuple _ _ rfl]
    exact unlessDefect_bind _ _ _ _ _ (unlessDefect_map _ _ _)

/-- Compiling the positions of a tuple gives their plans or the first defect of their nodes. -/
theorem compilePositions_eq [PatternLanguage]
    (positions : List Node) (steps : List PathStep) (i : Nat) :
    compilePositions positions (.ofSteps steps) i =
      unlessDefect (positionPlans positions (.ofSteps steps) i)
        (defectsOf (positionNodes positions steps i)) := by
  cases positions with
  | nil => rfl
  | cons node rest =>
    unfold compilePositions positionPlans positionNodes
    rw [← FieldPath.ofSteps_append, compile_eq node, compilePositions_eq rest, defectsOf_append]
    exact unlessDefect_bind _ _ _ _ _ (unlessDefect_map _ _ _)

/-- Compiling the properties of an object gives their plans or the first defect of their nodes. -/
theorem compileProperties_eq [PatternLanguage]
    (properties : List (String × Node)) (steps : List PathStep) :
    compileProperties properties (.ofSteps steps) =
      unlessDefect (propertyPlans properties (.ofSteps steps))
        (defectsOf (propertyNodes properties steps)) := by
  match properties with
  | [] => rfl
  | (name, node) :: rest =>
    unfold compileProperties propertyPlans propertyNodes
    rw [← FieldPath.ofSteps_append, compile_eq node, compileProperties_eq rest, defectsOf_append]
    exact unlessDefect_bind _ _ _ _ _ (unlessDefect_map _ _ _)

end

end Node

/-- The test of names finds the first defect of the names. The names seen so far are those before,
in any order. -/
theorem verifyNames_eq (names : List String) : ∀ seen before : List String,
    (∀ name, name ∈ seen ↔ name ∈ before) →
      verifyNames seen names = unlessDefect () (namesDefects before names) := by
  -- Only membership counts, and each name joins both lists.
  induction names with
  | nil =>
    intro seen before h
    rfl
  | cons name rest ih =>
    intro seen before h
    have hrest := ih (name :: seen) (before ++ [name]) fun n => by
      rw [List.mem_cons, List.mem_append, List.mem_singleton, h n, or_comm]
    unfold verifyNames namesDefects nameDefects
    rw [hrest]
    cases isIdentifier name with
    | false => rfl
    | true =>
      by_cases hmem : name ∈ before
      · simp [hmem, (h name).2 hmem, unlessDefect]
      · have hseen : name ∉ seen := fun hs => hmem ((h name).1 hs)
        simp [hmem, hseen]

/-- The root is compiled as an object node that has to be there. -/
theorem Schema.rootPlan_eq [PatternLanguage] (s : Schema) : s.rootPlan = s.node.compile .root := by
  unfold rootPlan node Node.compile
  cases Node.compileProperties s.properties .root <;> rfl

/-- Compiling a schema gives its validator or the first of its defects. -/
theorem Schema.compile_eq [PatternLanguage] (s : Schema) (extraParams : List String) :
    s.compile extraParams =
      unlessDefect { plan := s.node.plan .root, extraParams } (s.defects extraParams) := by
  have hroot : s.rootPlan =
      unlessDefect (s.node.plan .root) (defectsOf (s.node.nodes [])) :=
    s.rootPlan_eq.trans (s.node.compile_eq [])
  unfold compile defects nodes
  rw [verifyNames_eq extraParams [] [] fun _ => Iff.rfl, hroot]
  exact unlessDefect_bind _ _ _ _ _ (unlessDefect_map _ _ _)

/-- A compiled schema has no defects, and its validator runs the plan of its root. -/
theorem Schema.compile_eq_ok_iff [PatternLanguage]
    (s : Schema) (extraParams : List String) (v : Validator) :
    s.compile extraParams = .ok v ↔
      s.defects extraParams = [] ∧ { plan := s.node.plan .root, extraParams } = v := by
  rw [compile_eq, unlessDefect_eq_ok_iff]

/-- A schema compiles exactly when the names for extra arguments are identifiers, each given once,
and every node is configured. Otherwise the first of its defects comes out. A defect that is not
one of a name is one of a node that is not configured, and carries the path of that node. -/
theorem Schema.compile_finds_first_defect [PatternLanguage]
    (s : Schema) (extraParams : List String) :
    ((∃ v, s.compile extraParams = .ok v) ↔
      (∀ name ∈ extraParams, IsIdentifier name) ∧ extraParams.Nodup ∧
        ∀ place ∈ s.nodes, place.2.Configured) ∧
    (∀ d, s.compile extraParams = .error d ↔ (s.defects extraParams).head? = some d) ∧
    ∀ d ∈ s.defects extraParams,
      (∃ name ∈ extraParams, ∃ fault, d = .invalidExtraParam name fault) ∨
      ∃ place ∈ s.nodes, ¬ place.2.Configured ∧ d ∈ place.2.ownDefects (.ofSteps place.1) ∧
        d.path? = some (.ofSteps place.1) := by
  refine ⟨?_, ?_, ?_⟩
  · -- The schema compiles when it has no defect.
    rw [← defects_eq_nil_iff]
    constructor
    · rintro ⟨v, hv⟩
      exact ((s.compile_eq_ok_iff extraParams v).1 hv).1
    · intro h
      exact ⟨_, (s.compile_eq_ok_iff extraParams _).2 ⟨h, rfl⟩⟩
  · -- Otherwise the first defect comes out.
    intro d
    rw [compile_eq, unlessDefect_eq_error_iff]
  · -- A node that has a defect of its own is not configured.
    intro d hd
    rcases List.mem_append.1 hd with hname | hnode
    · exact Or.inl (mem_namesDefects extraParams [] d hname)
    · obtain ⟨place, hplace, hown⟩ := List.mem_flatMap.1 hnode
      have hnot : ¬ place.2.Configured := fun hc => by
        rw [(place.2.ownDefects_eq_nil_iff _).2 hc] at hown
        exact List.not_mem_nil hown
      exact Or.inr ⟨place, hplace, hnot, hown, place.2.path?_of_mem_ownDefects _ d hown⟩

end DataShape
