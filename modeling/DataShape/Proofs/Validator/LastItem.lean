import DataShape.Proofs.Validator.Accumulation
import DataShape.Proofs.Validator.Nesting
import DataShape.Proofs.Validator.NumberBounds

/-!
# An array reports its last invalid item

Take an array with one node for all items, without bounds on its length and without a predicate of
its own. `Node.reports_last_item` says what such an array reports, wherever it stands in a schema: of
two lists put together the errors of the second or, if it has none, those of the first. So the errors
of a list are those of its last invalid item, all of them, and the items before it have no part in
them.

A producer may be given the position of an item, and that moves when another list is put in front. So
all of this is about producers that do not look at the position, as literals and default messages
never do. Then the errors of an item depend on the path alone and not on the trail that leads to it
(`Node.reports_sameError`), and the errors of an array are a function of the items without their
positions (`Node.errors_arrayOf`).
-/

namespace DataShape

/-! ## The last nonempty list -/

/-- Of lists put together, the last nonempty one is among the second lists if any of these is
nonempty. -/
theorem lastNonempty_append {α : Type} (lists lists' : List (List α)) :
    lastNonempty (lists ++ lists') =
      if lastNonempty lists' = [] then lastNonempty lists else lastNonempty lists' := by
  induction lists with
  | nil =>
    have hnil : lastNonempty ([] : List (List α)) = [] := rfl
    rw [List.nil_append, hnil]
    split
    · assumption
    · rfl
  | cons list lists ih =>
    rw [List.cons_append, lastNonempty_cons, lastNonempty_cons, ih]
    by_cases hlast : lastNonempty lists' = []
    · rw [if_pos hlast, if_pos hlast]
    · rw [if_neg hlast, if_neg hlast]
      obtain ⟨a, rest, hfound⟩ := List.exists_cons_of_ne_nil hlast
      rw [hfound]

/-- A nonempty list has lists without elements behind it if it is the last one. -/
theorem exists_split_of_lastNonempty {α β : Type} (f : α → List β) (xs : List α)
    (h : lastNonempty (xs.map f) ≠ []) :
    ∃ front x back, xs = front ++ x :: back ∧ f x ≠ [] ∧ (∀ y ∈ back, f y = []) ∧
      lastNonempty (xs.map f) = f x := by
  induction xs with
  | nil => exact absurd rfl h
  | cons x xs ih =>
    rw [List.map_cons, lastNonempty_cons] at h ⊢
    by_cases hlast : lastNonempty (xs.map f) = []
    · rw [hlast] at h ⊢
      have hnone := (lastNonempty_eq_nil_iff (xs.map f)).1 hlast
      exact ⟨[], x, xs, rfl, h, fun y hy => hnone _ (List.mem_map_of_mem hy), rfl⟩
    · obtain ⟨front, y, back, rfl, hy, hback, hfound⟩ := ih hlast
      refine ⟨x :: front, y, back, rfl, hy, hback, ?_⟩
      obtain ⟨e, rest, hcons⟩ := List.exists_cons_of_ne_nil hy
      rw [hfound, hcons]

/-! ## Errors without positions -/

/-- The producer does not look at the position of the item. -/
def Producer.IgnoresPosition (p : Producer) : Prop :=
  ∀ (context : FailureContext) (index? : Option Nat),
    p.produce { context with index? } = p.produce context

/-- A literal looks at nothing. -/
theorem Producer.ignoresPosition_literal (e : ValidationError) : (literal e).IgnoresPosition :=
  fun _ _ => rfl

namespace Node

/-- No producer in the tree of a node looks at the position of an item. -/
def IgnoresPositions (node : Node) : Prop :=
  ∀ trail target, node.Reaches trail target → ∀ c p, target.attrs.errors.find? c = some p →
    p.IgnoresPosition

/-- A tree in which every producer is a literal looks at no position. -/
theorem ignoresPositions_of_literal (node : Node)
    (h : ∀ trail target, node.Reaches trail target → ∀ c p, target.attrs.errors.find? c = some p →
      ∃ e, p = .literal e) : node.IgnoresPositions := by
  intro trail target hreach c p hp
  obtain ⟨e, rfl⟩ := h trail target hreach c p hp
  exact Producer.ignoresPosition_literal e

/-- The node itself is in its tree. -/
theorem IgnoresPositions.own (node : Node) (h : node.IgnoresPositions) (c : Constraint)
    (p : Producer) (hp : node.attrs.errors.find? c = some p) : p.IgnoresPosition :=
  h [] node (.here node) c p hp

/-- Two reports end up as the same error. -/
def SameError (r r' : Report) : Prop := r.error = r'.error

/-- The error of a fault depends on the path alone and not on the trail that leads to the value. -/
theorem sameError_of_path_eq (node : Node) (extras : Extras) (trail trail' : Trail)
    (value? : Option Value) (c : Constraint) (fault : Fault) (hpath : trail.path = trail'.path)
    (h : ∀ p, node.attrs.errors.find? c = some p → p.IgnoresPosition) :
    SameError (node.report extras trail value? c fault)
      (node.report extras trail' value? c fault) := by
  unfold SameError
  cases hdeclared : node.attrs.errors.find? c with
  | none =>
    rw [node.error_report_of_undeclared extras trail value? c fault hdeclared,
      node.error_report_of_undeclared extras trail' value? c fault hdeclared, hpath]
  | some p =>
    have hcontext : (node.report extras trail value? c fault).context =
        { (node.report extras trail' value? c fault).context with index? := trail.index? } := by
      show FailureContext.mk _ _ trail.path _ _ = _
      rw [hpath]
      rfl
    rw [node.error_report_of_declared extras trail value? c fault p hdeclared,
      node.error_report_of_declared extras trail' value? c fault p hdeclared, hcontext,
      h p hdeclared]

/-- The same for what the node reports itself. -/
theorem report?_sameError [PatternLanguage] (node : Node) (extras : Extras) (trail trail' : Trail)
    (value? : Option Value) (hpath : trail.path = trail'.path)
    (h : ∀ c p, node.attrs.errors.find? c = some p → p.IgnoresPosition) :
    List.Forall₂ SameError (node.report? extras trail value?).toList
      (node.report? extras trail' value?).toList := by
  rw [report?_eq_map_finding?, report?_eq_map_finding?]
  cases node.finding? extras value? with
  | none => exact .nil
  | some found =>
    exact .cons (node.sameError_of_path_eq extras trail trail' value? found.1 found.2 hpath
      (h found.1)) .nil

mutual

/-- The errors of a tree depend on the path alone and not on the trail that leads to the value. -/
theorem reports_sameError [PatternLanguage] (node : Node) (extras : Extras) (trail trail' : Trail)
    (value? : Option Value) (hpath : trail.path = trail'.path) (h : node.IgnoresPositions) :
    List.Forall₂ SameError (node.reports extras trail value?)
      (node.reports extras trail' value?) := by
  have hown := node.report?_sameError extras trail trail' value? hpath h.own
  cases node with
  | leaf attrs rule =>
    unfold reports
    exact hown
  | arrayOf attrs lengths item =>
    have hitem : item.IgnoresPositions := fun below target hreach =>
      h _ target (.element attrs lengths item target 0 below hreach)
    unfold reports
    refine forall₂_unless _ _ _ _ hown (forall₂_lastNonempty _ _ (forall₂_mapIdx _ _ _ ?_))
    intro i x _
    exact reports_sameError item extras _ _ _ (Trail.path_append_congr _ _ _ hpath) hitem
  | tuple attrs lengths positions =>
    unfold reports
    refine forall₂_unless _ _ _ _ hown
      (positionReports_sameError positions extras trail trail' value? 0 hpath ?_)
    intro child hchild below target hreach
    obtain ⟨j, hj⟩ := List.mem_iff_getElem?.1 hchild
    exact h _ target (.position attrs lengths positions child target j below hj hreach)
  | object attrs allowExtra properties =>
    unfold reports
    refine forall₂_unless _ _ _ _ hown
      (propertyReports_sameError properties extras trail trail' value? hpath ?_)
    intro name child hchild below target hreach
    exact h _ target
      (.property attrs allowExtra properties child target name below hchild hreach)
termination_by structural node

/-- The same for the positions of a tuple, from position `i` on. -/
theorem positionReports_sameError [PatternLanguage] (positions : List Node) (extras : Extras)
    (trail trail' : Trail) (value? : Option Value) (i : Nat) (hpath : trail.path = trail'.path)
    (h : ∀ child ∈ positions, child.IgnoresPositions) :
    List.Forall₂ SameError (positionReports extras positions trail value? i)
      (positionReports extras positions trail' value? i) := by
  cases positions with
  | nil => exact .nil
  | cons child rest =>
    have hfirst := reports_sameError child extras _ _ (value?.bind (·.item? i))
      (Trail.path_append_congr trail trail' (.position i) hpath) (h child List.mem_cons_self)
    have hrest := positionReports_sameError rest extras trail trail' value? (i + 1) hpath
      fun other hother => h other (List.mem_cons_of_mem child hother)
    unfold positionReports
    exact List.rel_append (child.forall₂_child _ _ _ hfirst) hrest
termination_by structural positions

/-- The same for the properties of an object. -/
theorem propertyReports_sameError [PatternLanguage]
    (properties : List (String × Node)) (extras : Extras)
    (trail trail' : Trail) (value? : Option Value) (hpath : trail.path = trail'.path)
    (h : ∀ name child, (name, child) ∈ properties → child.IgnoresPositions) :
    List.Forall₂ SameError (propertyReports extras properties trail value?)
      (propertyReports extras properties trail' value?) := by
  match properties with
  | [] => exact .nil
  | (name, child) :: rest =>
    have hfirst := reports_sameError child extras _ _ (value?.bind (·.get? name))
      (Trail.path_append_congr trail trail' (.property name) hpath) (h name child List.mem_cons_self)
    have hrest := propertyReports_sameError rest extras trail trail' value? hpath
      fun other node hother => h other node (List.mem_cons_of_mem _ hother)
    unfold propertyReports
    exact List.rel_append (child.forall₂_child _ _ _ hfirst) hrest
termination_by structural properties

end

end Node

/-! ## Arrays -/

/-- The errors of a plan at a value. -/
def Plan.errors (plan : Plan) (extras : Extras) (index? : Option Nat) (v : Value) :
    List ValidationError :=
  (plan.failures extras index? (some v)).map Failure.error

namespace Node

/-- Every path is that of a trail, so a node compiles at it when all nodes below are configured. -/
theorem compile_eq_ok_iff [PatternLanguage] (node : Node) (path : FieldPath) (plan : Plan) :
    node.compile path = .ok plan ↔
      (∀ place ∈ node.nodes [.property path.text], place.2.Configured) ∧ node.plan path = plan := by
  have hcompile : node.compile path = _ := node.compile_eq [.property path.text]
  rw [hcompile, unlessDefect_eq_ok_iff, defectsOf_eq_nil_iff]
  exact Iff.rfl

/-- A run has the errors that are read off the node, along any trail to the same path. -/
theorem errors_plan [PatternLanguage] (node : Node) (steps : List PathStep)
    (hconfigured : ∀ place ∈ node.nodes steps, place.2.Configured) (h : node.IgnoresPositions)
    (extras : Extras) (trail trail' : Trail) (hpath : trail.path = trail'.path) (v : Value) :
    (node.plan trail.path).errors extras trail.index? v =
      (node.reports extras trail' (some v)).map Report.error := by
  have hsent := node.sent_failures steps hconfigured extras trail (some v)
  have herrors := congrArg (List.map fun sent => sent.1.produce sent.2) hsent
  rw [List.map_map, List.map_map] at herrors
  have hsame := node.reports_sameError extras trail trail' (some v) hpath h
  refine herrors.trans (List.forall₂_eq_eq_eq ▸ ?_)
  rw [List.forall₂_map_left_iff, List.forall₂_map_right_iff]
  exact hsame

/-- An array without bounds and without a predicate finds nothing wrong with a list itself. -/
theorem failure?_arrayOf_eq_none [PatternLanguage]
    (attrs : Attributes) (item : Node) (path : FieldPath)
    (hvalidator : attrs.validator? = none) (hconfigured : (arrayOf attrs {} item).Configured)
    (extras : Extras) (index? : Option Nat) (xs : List Value) :
    ((arrayOf attrs {} item).checks path).failure? extras index? (some (.list xs)) = none := by
  rw [failure?_checks_eq_none_iff _ hconfigured]
  refine ⟨⟨xs, rfl, ?_⟩, ?_⟩
  · exact ⟨fun _ h => (nomatch h), fun _ h => (nomatch h)⟩
  · intro p hp
    rw [show (arrayOf attrs {} item).attrs.validator? = none from hvalidator] at hp
    cases hp

/-- The errors of a list are those of its last item with any, wherever the items stand in it. -/
theorem errors_arrayOf [PatternLanguage] (attrs : Attributes) (item : Node) (path : FieldPath)
    (hconfigured : ∀ place ∈ (arrayOf attrs {} item).nodes [.property path.text],
      place.2.Configured)
    (hvalidator : attrs.validator? = none) (extras : Extras) (index? : Option Nat)
    (found : Value → List ValidationError)
    (hfound : ∀ i x, (item.plan (path.child .items)).errors extras (some i) x = found x)
    (xs : List Value) :
    ((arrayOf attrs {} item).plan path).errors extras index? (.list xs) =
      lastNonempty (xs.map found) := by
  have hown := failure?_arrayOf_eq_none attrs item path hvalidator
    (hconfigured _ (self_mem_nodes _ _)) extras index? xs
  have hitems : (fun i x => ((item.plan (path.child .items)).failures extras (some i)
      (some x)).map Failure.error) = fun _ => found := funext fun i => funext fun x => hfound i x
  unfold Plan.errors plan Plan.failures
  rw [hown]
  show (lastFinding _ 0 xs).map Failure.error = _
  rw [map_lastFinding, hitems, lastFinding_eq, List.mapIdx_eq_zipIdx_map]
  congr 1
  rw [← Function.comp_def found Prod.fst, ← List.map_map, List.zipIdx_map_fst]

/-- An array with one node for all items, without bounds on its length and without a predicate of its
own, reports its last invalid item. An item has the same errors wherever it stands. Two lists put
together have the errors of the second or, if it has none, those of the first. So the errors of a
list are all those of the last of its items that has any, what stands in front of a list with errors
changes nothing, and two lists put together have no errors exactly when neither has. All of this is
so whatever errors were collected before. -/
theorem reports_last_item [PatternLanguage]
    (attrs : Attributes) (item : Node) (path : FieldPath) (plan : Plan)
    (hcompile : (arrayOf attrs {} item).compile path = .ok plan)
    (hvalidator : attrs.validator? = none) (hpositions : item.IgnoresPositions) (extras : Extras)
    (index? : Option Nat) :
    let errors (xs : List Value) := plan.errors extras index? (.list xs)
    (∃ each, item.compile (path.child .items) = .ok each ∧
      ∀ i x, each.errors extras (some i) x = errors [x]) ∧
    (∀ xs ys, errors (xs ++ ys) = if errors ys = [] then errors xs else errors ys) ∧
    (∀ xs, errors xs ≠ [] → ∃ front x back, xs = front ++ x :: back ∧ errors [x] ≠ [] ∧
      (∀ y ∈ back, errors [y] = []) ∧ errors xs = errors [x]) ∧
    (∀ xs xs' ys, errors ys ≠ [] → errors (xs ++ ys) = errors (xs' ++ ys)) ∧
    (∀ xs ys, errors (xs ++ ys) = [] ↔ errors xs = [] ∧ errors ys = []) ∧
    ∀ xs collected, plan.collect extras index? (some (.list xs)) collected =
      collected ++ errors xs := by
  obtain ⟨hconfigured, rfl⟩ := (compile_eq_ok_iff _ path plan).1 hcompile
  intro errors
  -- All items stand at one path, so their errors can be read off at the first position.
  let trail (i : Nat) : Trail := [.property path.text, .element i]
  let found (x : Value) := (item.reports extras (trail 0) (some x)).map Report.error
  have hitem : ∀ place ∈ item.nodes [.property path.text, .items], place.2.Configured :=
    fun place hplace => hconfigured place (List.mem_append_left _ hplace)
  have hfound : ∀ i x, (item.plan (path.child .items)).errors extras (some i) x = found x :=
    fun i x => item.errors_plan _ hitem hpositions extras (trail i) (trail 0) rfl x
  have herrors : ∀ xs, errors xs = lastNonempty (xs.map found) :=
    errors_arrayOf attrs item path hconfigured hvalidator extras index? found hfound
  have hsingle : ∀ x, errors [x] = found x := by
    intro x
    rw [herrors, List.map_singleton, lastNonempty_cons]
    rfl
  have happend : ∀ xs ys, errors (xs ++ ys) = if errors ys = [] then errors xs else errors ys := by
    intro xs ys
    rw [herrors, herrors, herrors, List.map_append, lastNonempty_append]
  have hcompiled : item.compile (path.child .items) = .ok (item.plan (path.child .items)) :=
    (item.compile_eq_ok_iff _ _).2
      ⟨(item.forall_configured_iff [.property path.text, .items] _).1 hitem, rfl⟩
  refine ⟨⟨_, hcompiled, fun i x => (hfound i x).trans (hsingle x).symm⟩, happend, ?_, ?_, ?_, ?_⟩
  · intro xs hxs
    rw [herrors] at hxs
    obtain ⟨front, x, back, rfl, hx, hback, hlast⟩ := exists_split_of_lastNonempty found xs hxs
    exact ⟨front, x, back, rfl, hsingle x ▸ hx, fun y hy => (hsingle y).trans (hback y hy),
      (herrors _).trans (hlast.trans (hsingle x).symm)⟩
  · intro xs xs' ys hys
    rw [happend, happend, if_neg hys, if_neg hys]
  · intro xs ys
    rw [happend]
    by_cases hys : errors ys = []
    · rw [if_pos hys]
      exact (and_iff_left hys).symm
    · rw [if_neg hys]
      exact iff_of_false hys fun h => hys h.2
  · exact fun xs collected => Plan.collect_eq _ extras index? (some (.list xs)) collected

end Node

namespace Demo

/-- The title of a task, of at most 5 characters. -/
def title : Node := .ofString [.own (.maxLen 5), .error .maxLen (.literal (.code 7))]

/-- A task, which may be refused as a whole. -/
def task : Node :=
  .ofObject
    [.own (.property "title" title), .own (.property "done" (.ofBool [])),
      .validator { refusal? := fun v _ => (v.get? "refused").map fun _ => .string "refused" }]

/-- The producers of a task are literals. -/
theorem task_ignoresPositions : task.IgnoresPositions := by
  refine Node.ignoresPositions_of_literal task fun trail node hreached c p hp => ?_
  have hnode : node = task ∨ node = title ∨ node = .ofBool [] := by
    cases hreached with
    | here => exact .inl rfl
    | property _ _ _ child _ name rest hmem hbelow =>
      have hmem : (name, child) ∈ [("title", title), ("done", Node.ofBool [])] := hmem
      simp only [List.mem_cons, List.not_mem_nil, or_false, Prod.mk.injEq] at hmem
      rcases hmem with ⟨rfl, rfl⟩ | ⟨rfl, rfl⟩
      · cases hbelow
        exact .inr (.inl rfl)
      · cases hbelow
        exact .inr (.inr rfl)
  rcases hnode with rfl | rfl | rfl
  · cases hp
  · cases c with
    | maxLen =>
      obtain rfl := Option.some.inj hp
      exact ⟨_, rfl⟩
    | type | minLen | pattern | min | max | extra | validator => cases hp
  · cases hp

/-- The node of a list of tasks. -/
def tasks : Node := .ofArray (.each task) []

/-- The path of a list of tasks. -/
def tasksPath : FieldPath := FieldPath.root.child (.property "tasks")

/-- A list of tasks compiles. -/
theorem compile_tasks : tasks.compile tasksPath = .ok (tasks.plan tasksPath) :=
  (tasks.compile_eq_ok_iff _ _).2 ⟨(defectsOf_eq_nil_iff _).1 (by decide +kernel), rfl⟩

/-- A task with two faults. -/
def longTask : Value := .ofEntries [("title", toValue "replan"), ("done", toValue "yes")]

/-- A task without a fault. -/
def plainTask : Value := .ofEntries [("title", toValue "plan"), ("done", .bool true)]

/-- A task that is refused as a whole. -/
def refusedTask : Value := .ofEntries [("refused", .null)]

/-- Of a list of tasks the one with two faults is reported, and not the one in front that is
refused. -/
theorem reports_last_item_tasks :
    tasks.compile tasksPath = .ok (tasks.plan tasksPath) ∧ task.IgnoresPositions ∧
      (tasks.plan tasksPath).errors .none none (.list [longTask, plainTask]) ≠ [] ∧
      (tasks.plan tasksPath).errors .none none (.list ([refusedTask] ++ [longTask, plainTask])) =
        (tasks.plan tasksPath).errors .none none (.list ([] ++ [longTask, plainTask])) := by
  have hreports := Node.reports_last_item {} task tasksPath _ compile_tasks rfl
    task_ignoresPositions .none none
  have hfails : (tasks.plan tasksPath).errors .none none (.list [longTask, plainTask]) ≠ [] := by
    decide +kernel
  exact ⟨compile_tasks, task_ignoresPositions, hfails, hreports.2.2.2.1 _ _ _ hfails⟩

example :
    ((tasks.plan tasksPath).errors .none none
        (.list [refusedTask, longTask, plainTask])).map ValidationError.text =
      ["error code 7", "Property 'tasks/*/done' must be a boolean."] := by
  decide +kernel

end Demo

end DataShape
