import DataShape.Proofs.Validator.Refinement
import DataShape.Validator.Walk

/-!
# Walks and runs

The plan that a schema is lowered to is its compiled plan with a way to fetch the value written to
each node (`Schema.lower_eq`), and a walk through it adds the failures of a run to those it has
found before (`Plan.failures_walk`). A walk shares one list of failures among all nodes, and a scan
stops when this list has grown. A run puts the failures of the nodes together. Both agree since what
a node adds does not depend on what is in the list.
-/

namespace DataShape

/-! ## Lowering is compiling -/

namespace Plan

mutual

/-- The plan with the ways its values are fetched. -/
def withFetch : Plan → Fetch → FetchPlan
  | leaf own, fetch => .node fetch own .none
  | each own item, fetch => .node fetch own (.uniform (item.withFetch .element))
  | positions own plans, fetch => .node fetch own (.positions (positionsWithFetch plans 0))
  | properties own plans, fetch => .node fetch own (.properties (propertiesWithFetch plans))

/-- The same for the plans of positions, from the given position on. -/
def positionsWithFetch : List Plan → Nat → List FetchPlan
  | [], _ => []
  | plan :: rest, i => plan.withFetch (.position i) :: positionsWithFetch rest (i + 1)

/-- The same for the plans of properties. -/
def propertiesWithFetch : List (String × Plan) → List FetchPlan
  | [] => []
  | (name, plan) :: rest => plan.withFetch (.key name) :: propertiesWithFetch rest

end

/-- The value is fetched as was said. -/
@[simp] theorem fetch_withFetch (plan : Plan) (fetch : Fetch) :
    (plan.withFetch fetch).fetch = fetch := by
  cases plan <;> (unfold withFetch; rfl)

/-- The checks stay. -/
@[simp] theorem own_withFetch (plan : Plan) (fetch : Fetch) :
    (plan.withFetch fetch).own = plan.own := by
  cases plan <;> (unfold withFetch; rfl)

end Plan

namespace Node

mutual

/-- A node is lowered to its compiled plan, or has the same defect. -/
theorem lower_eq [PatternLanguage] (node : Node) (path : FieldPath) (fetch : Fetch) :
    node.lower path fetch = (node.compile path).map (·.withFetch fetch) := by
  cases node with
  | leaf attrs rule =>
    unfold lower compile
    cases cascade (leaf attrs rule) path <;> rfl
  | arrayOf attrs lengths item =>
    unfold lower compile
    rw [lower_eq item]
    cases item.compile (path.child .items) with
    | error d => rfl
    | ok plan => cases cascade (arrayOf attrs lengths item) path <;> rfl
  | tuple attrs lengths positions =>
    unfold lower compile
    rw [lowerPositions_eq positions]
    cases positions with
    | nil => rfl
    | cons first rest =>
      cases compilePositions (first :: rest) path 0 with
      | error d => rfl
      | ok plans => cases cascade (tuple attrs lengths (first :: rest)) path <;> rfl
  | object attrs allowExtra properties =>
    unfold lower compile
    rw [lowerProperties_eq properties]
    cases compileProperties properties path with
    | error d => rfl
    | ok plans => cases cascade (object attrs allowExtra properties) path <;> rfl

/-- The same for the positions of a tuple. -/
theorem lowerPositions_eq [PatternLanguage] (positions : List Node) (path : FieldPath) (i : Nat) :
    lowerPositions positions path i =
      (compilePositions positions path i).map (Plan.positionsWithFetch · i) := by
  cases positions with
  | nil => rfl
  | cons node rest =>
    unfold lowerPositions compilePositions
    rw [lower_eq node, lowerPositions_eq rest]
    cases node.compile (path.child (.position i)) with
    | error d => rfl
    | ok plan => cases compilePositions rest path (i + 1) <;> rfl

/-- The same for the properties of an object. -/
theorem lowerProperties_eq [PatternLanguage]
    (properties : List (String × Node)) (path : FieldPath) :
    lowerProperties properties path =
      (compileProperties properties path).map Plan.propertiesWithFetch := by
  match properties with
  | [] => rfl
  | (name, node) :: rest =>
    unfold lowerProperties compileProperties
    rw [lower_eq node, lowerProperties_eq rest]
    cases node.compile (path.child (.property name)) with
    | error d => rfl
    | ok plan => cases compileProperties rest path <;> rfl

end

end Node

/-- A schema is lowered to the plan of its validator. -/
theorem Schema.lower_eq [PatternLanguage] (s : Schema) (extraParams : List String) (v : Validator)
    (h : s.compile extraParams = .ok v) : s.lower = .ok (v.plan.withFetch .root) := by
  unfold compile at h
  unfold lower
  rw [Node.lower_eq, ← s.rootPlan_eq]
  cases hnames : verifyNames [] extraParams with
  | error d =>
    rw [hnames] at h
    cases h
  | ok names =>
    cases hroot : s.rootPlan with
    | error d =>
      rw [hnames, hroot] at h
      cases h
    | ok plan =>
      rw [hnames, hroot] at h
      obtain rfl := Except.ok.inj h
      rfl

/-! ## Walks add the failures of runs -/

namespace Walk

/-- The checks of a node add the failure of the first one that fails, if any does. -/
theorem check_eq (extras : Extras) (path : FieldPath) (index? : Option Nat)
    (value? : Option Value) (checks : List Check) : ∀ w : Walk,
      (w.check extras path index? value? checks).1.failures = w.failures ++
          (checks.findSome? fun c => c.failure? extras path index? value?).toList ∧
        (w.check extras path index? value? checks).2 =
          (checks.findSome? fun c => c.failure? extras path index? value?).isNone := by
  induction checks with
  | nil =>
    intro w
    exact ⟨(List.append_nil _).symm, rfl⟩
  | cons c rest ih =>
    intro w
    unfold check
    rw [List.findSome?_cons]
    cases c.failure? extras path index? value? with
    | some f => exact ⟨rfl, rfl⟩
    | none => exact ih (w.act (.check c.test value?))

/-- The first item is visited, and the others if it has added no failure. -/
theorem scan_cons (visit : Nat → Value → Walk → Walk) (before : Nat) (item : Value × Nat)
    (rest : List (Value × Nat)) (w : Walk) :
    w.scan visit before (item :: rest) =
      if before < (visit item.2 item.1 w).failures.length then visit item.2 item.1 w
      else (visit item.2 item.1 w).scan visit before rest := rfl

/-- What every visit preserves holds at the end. -/
theorem scan_preserves {holds : Walk → Prop} {visit : Nat → Value → Walk → Walk}
    (hvisit : ∀ i x (w : Walk), holds w → holds (visit i x w)) (before : Nat)
    (items : List (Value × Nat)) : ∀ {w : Walk}, holds w → holds (w.scan visit before items) := by
  induction items with
  | nil =>
    intro w hw
    exact hw
  | cons item items ih =>
    intro w hw
    have hfirst := hvisit item.2 item.1 w hw
    rw [scan_cons]
    split
    · exact hfirst
    · exact ih hfirst

/-- A visit of one item. -/
theorem scan_singleton (visit : Nat → Value → Walk → Walk) (before : Nat) (item : Value × Nat)
    (w : Walk) : w.scan visit before [item] = visit item.2 item.1 w := by
  rw [scan_cons]
  exact ite_self _

/-- A visit of items in two parts comes to the second part if the first has added no failure. -/
theorem scan_append (visit : Nat → Value → Walk → Walk) (before : Nat)
    (items rest : List (Value × Nat)) : ∀ w : Walk, w.failures.length ≤ before →
      w.scan visit before (items ++ rest) =
        if before < (w.scan visit before items).failures.length then w.scan visit before items
        else (w.scan visit before items).scan visit before rest := by
  induction items with
  | nil =>
    intro w hle
    exact (if_neg (Nat.not_lt.2 hle)).symm
  | cons item items ih =>
    intro w hle
    rw [List.cons_append, scan_cons, scan_cons]
    by_cases hgrown : before < (visit item.2 item.1 w).failures.length
    · rw [if_pos hgrown, if_pos hgrown, if_pos hgrown]
    · rw [if_neg hgrown, if_neg hgrown]
      exact ih _ (Nat.not_lt.1 hgrown)

/-- Visiting the items of a list from its end on adds what is found at the last item at which
anything is found. -/
theorem failures_scan (visit : Nat → Value → Walk → Walk) (find : Nat → Value → List Failure)
    (hvisit : ∀ i x (w : Walk), (visit i x w).failures = w.failures ++ find i x)
    (items : List Value) : ∀ (k : Nat) (w : Walk),
      (w.scan visit w.failures.length (items.zipIdx k).reverse).failures =
        w.failures ++ lastFinding find k items := by
  induction items with
  | nil =>
    intro k w
    exact (List.append_nil _).symm
  | cons x items ih =>
    intro k w
    have hrest := ih (k + 1) w
    rw [List.zipIdx_cons, List.reverse_cons, scan_append _ _ _ _ _ (Nat.le_refl _), lastFinding]
    cases hfound : lastFinding find (k + 1) items with
    | nil =>
      -- Nothing is added behind the first item, so it is visited too.
      rw [hfound, List.append_nil] at hrest
      rw [hrest, if_neg (Nat.lt_irrefl _), scan_singleton, hvisit, hrest]
    | cons f found =>
      rw [hfound] at hrest
      have hgrown : w.failures.length <
          (w.scan visit w.failures.length (items.zipIdx (k + 1)).reverse).failures.length := by
        rw [hrest, List.length_append, List.length_cons]
        omega
      rw [if_pos hgrown, hrest]

end Walk

namespace FetchPlan

variable (extras : Extras) (fetch : Fetch) (own : Cascade) (below : FetchChildren)
  (index? : Option Nat) (w : Walk)

/-- At an absent value a walk adds the failure of the node itself. -/
theorem failures_walk_none : ((node fetch own below).walk extras index? none w).failures =
    w.failures ++ (own.failure? extras index? none).toList := by
  obtain ⟨hfailures, -⟩ := Walk.check_eq extras own.path index? none own.checks w
  unfold walk
  generalize w.check extras own.path index? none own.checks = checked at hfailures ⊢
  obtain ⟨checked, passed⟩ := checked
  cases passed <;> exact hfailures

/-- At a present value a walk adds the failure of the node itself, or else what is found below. -/
theorem failures_walk_some (v : Value) (found : List Failure)
    (hbelow : ∀ w, (walkBelow extras below index? v w).failures = w.failures ++ found) :
    ((node fetch own below).walk extras index? (some v) w).failures =
      w.failures ++ match own.failure? extras index? (some v) with
        | some f => [f]
        | none => found := by
  obtain ⟨hfailures, hpassed⟩ := Walk.check_eq extras own.path index? (some v) own.checks w
  unfold walk Cascade.failure?
  generalize w.check extras own.path index? (some v) own.checks = checked at hfailures hpassed ⊢
  obtain ⟨checked, passed⟩ := checked
  cases hfailure : own.checks.findSome? fun c => c.failure? extras own.path index? (some v) with
  | some f =>
    rw [hfailure] at hfailures hpassed
    obtain rfl := hpassed
    exact hfailures
  | none =>
    rw [hfailure] at hfailures hpassed
    obtain rfl := hpassed
    show (walkBelow extras below index? v checked).failures = _
    rw [hbelow, hfailures]
    exact congrArg (· ++ found) (List.append_nil _)

end FetchPlan

namespace Plan

variable (extras : Extras)

/-- A walk through the plans of several children adds nothing at the first one if it is skipped, and
else what is found there. -/
theorem failures_walkAll_cons (plan : Plan) (fetch : Fetch) (rest : List FetchPlan)
    (index? : Option Nat) (v : Value) (w : Walk) (found : List Failure)
    (hplan : ∀ w, ((plan.withFetch fetch).walk extras index? (fetch.find? v) w).failures =
      w.failures ++ plan.failures extras index? (fetch.find? v))
    (hrest : ∀ w, (FetchPlan.walkAll extras rest index? v w).failures = w.failures ++ found) :
    (FetchPlan.walkAll extras (plan.withFetch fetch :: rest) index? v w).failures =
      w.failures ++ ((if plan.skips (fetch.find? v) then []
        else plan.failures extras index? (fetch.find? v)) ++ found) := by
  unfold FetchPlan.walkAll skips
  rw [fetch_withFetch, own_withFetch]
  by_cases hskips : ((fetch.find? v).isNone && plan.own.optional) = true
  · rw [if_pos hskips, if_pos hskips, hrest]
    rfl
  · rw [if_neg hskips, if_neg hskips, hrest, hplan, List.append_assoc]
    rfl

mutual

/-- A walk through the plan adds the failures of a run of it. -/
theorem failures_walk (plan : Plan) (fetch : Fetch) (index? : Option Nat) (value? : Option Value)
    (w : Walk) : ((plan.withFetch fetch).walk extras index? value? w).failures =
      w.failures ++ plan.failures extras index? value? := by
  cases value? with
  | none =>
    rw [failures_none, ← plan.own_withFetch fetch]
    generalize plan.withFetch fetch = lowered
    cases lowered
    exact FetchPlan.failures_walk_none extras _ _ _ index? w
  | some v =>
    cases plan with
    | leaf own =>
      unfold withFetch failures
      rw [FetchPlan.failures_walk_some extras _ _ _ _ _ v [] fun w => (List.append_nil _).symm]
      cases own.failure? extras index? (some v) <;> rfl
    | each own item =>
      unfold withFetch failures
      refine FetchPlan.failures_walk_some extras _ _ _ _ _ v _ fun w => ?_
      unfold FetchPlan.walkBelow
      rw [Option.bind_some]
      cases v.list? with
      | none => exact (List.append_nil _).symm
      | some items =>
        exact Walk.failures_scan _ _
          (fun i x w => failures_walk item .element (some i) (some x) w) items 0 (w.act (.scan v))
    | positions own plans =>
      unfold withFetch
      rw [failures_positions]
      exact FetchPlan.failures_walk_some extras _ _ _ _ _ v _
        fun w => failures_walkPositions plans 0 index? v w
    | properties own plans =>
      unfold withFetch
      rw [failures_properties]
      exact FetchPlan.failures_walk_some extras _ _ _ _ _ v _
        fun w => failures_walkProperties plans index? v w

/-- The same for the plans of positions. -/
theorem failures_walkPositions (plans : List Plan) (i : Nat) (index? : Option Nat) (v : Value)
    (w : Walk) :
    (FetchPlan.walkAll extras (positionsWithFetch plans i) index? v w).failures =
      w.failures ++ positionFailures extras plans index? v i := by
  cases plans with
  | nil => exact (List.append_nil _).symm
  | cons plan rest =>
    unfold positionsWithFetch positionFailures
    exact failures_walkAll_cons extras plan (.position i) _ index? v w _
      (fun w => failures_walk plan (.position i) index? (v.item? i) w)
      fun w => failures_walkPositions rest (i + 1) index? v w

/-- The same for the plans of properties. -/
theorem failures_walkProperties (plans : List (String × Plan)) (index? : Option Nat) (v : Value)
    (w : Walk) :
    (FetchPlan.walkAll extras (propertiesWithFetch plans) index? v w).failures =
      w.failures ++ propertyFailures extras plans index? v := by
  match plans with
  | [] => exact (List.append_nil _).symm
  | (name, plan) :: rest =>
    unfold propertiesWithFetch propertyFailures
    exact failures_walkAll_cons extras plan (.key name) _ index? v w _
      (fun w => failures_walk plan (.key name) index? (v.get? name) w)
      fun w => failures_walkProperties rest index? v w

end

end Plan

end DataShape
