import DataShape.Proofs.Schema.Demands

/-!
# Reading a schema against a value

`Node.reports` is what a schema means without a plan: a recursion over the nodes of the schema that
looks at a value and lists what is to be reported. A node reports the first of its constraints that
has a fault, and then nothing below it. A node without a fault puts together what its children
report, in declaration order. An array with one node for all items reports what the last of its
items with anything to report does.

The recursion keeps a `Trail`, the moves that led from the root to the value. The path of a report
and the position of the innermost item both come from it.
-/

namespace DataShape

/-! ## Trails -/

/-- A move from a value to one below it. -/
inductive Move
  | property (name : String)
  /-- To the position of a tuple. -/
  | position (i : Nat)
  /-- To one of the items that share a node. -/
  | element (i : Nat)
deriving DecidableEq

namespace Move

/-- The step of the schema that goes with a move. -/
def step : Move → PathStep
  | property name => .property name
  | position i => .position i
  | element _ => .items

/-- The position of the item that is moved to, if all items share a node. -/
def element? : Move → Option Nat
  | element i => some i
  | _ => none

end Move

/-- The moves from the root to a value. -/
abbrev Trail := List Move

namespace Trail

/-- The path of the node that is reached. -/
def path (trail : Trail) : FieldPath := .ofSteps (trail.map Move.step)

/-- The position of the innermost item that the trail goes through. -/
def index? (trail : Trail) : Option Nat := (trail.filterMap Move.element?).getLast?

end Trail

/-! ## Reports -/

/-- What is to be reported: the constraint that has a fault at the end of a trail, and what is handed
to which producer. -/
structure Report where
  trail : Trail
  constraint : Constraint
  producer : Producer
  context : FailureContext

/-- The error that a report ends up as. -/
def Report.error (r : Report) : ValidationError := r.producer.produce r.context

/-- The last list that is not empty, if there is any. -/
def lastNonempty {α : Type} (lists : List (List α)) : List α :=
  (lists.filter fun list => !list.isEmpty).getLast?.getD []

namespace Node

/-- The report of a fault. The node's producer for the constraint makes the error, or else the
default message does. -/
def report (node : Node) (extras : Extras) (trail : Trail) (value? : Option Value)
    (c : Constraint) (fault : Fault) : Report where
  trail
  constraint := c
  producer := (node.attrs.errors.find? c).getD
    (.literal (.message (trail.path.subject ++ fault.text)))
  context := { value?, param? := fault.param?, path := trail.path, index? := trail.index?, extras }

/-- The report of the node itself: that of the first constraint with a fault. -/
def report? [PatternLanguage]
    (node : Node) (extras : Extras) (trail : Trail) (value? : Option Value) :
    Option Report :=
  Constraint.all.findSome? fun c =>
    (node.fault? extras value? c).map (node.report extras trail value? c)

/-- An absent value is passed over if it may be absent. -/
def passesOver (node : Node) (value? : Option Value) : Bool :=
  value?.isNone && node.attrs.optional

mutual

/-- What a node reports of a value that may be absent. -/
def reports [PatternLanguage] (extras : Extras) : Node → Trail → Option Value → List Report
  | leaf attrs rule, trail, value? => ((leaf attrs rule).report? extras trail value?).toList
  | arrayOf attrs lengths item, trail, value? =>
    match (arrayOf attrs lengths item).report? extras trail value? with
    | some r => [r]
    | none =>
      lastNonempty <| ((value?.bind Value.list?).getD []).mapIdx fun i x =>
        item.reports extras (trail ++ [.element i]) (some x)
  | tuple attrs lengths nodes, trail, value? =>
    match (tuple attrs lengths nodes).report? extras trail value? with
    | some r => [r]
    | none => positionReports extras nodes trail value? 0
  | object attrs allowExtra properties, trail, value? =>
    match (object attrs allowExtra properties).report? extras trail value? with
    | some r => [r]
    | none => propertyReports extras properties trail value?

/-- What the positions of a tuple report, from the given position on. -/
def positionReports [PatternLanguage]
    (extras : Extras) : List Node → Trail → Option Value → Nat → List Report
  | [], _, _, _ => []
  | node :: rest, trail, value?, i =>
    (if node.passesOver (value?.bind (·.item? i)) then []
      else node.reports extras (trail ++ [.position i]) (value?.bind (·.item? i)))
      ++ positionReports extras rest trail value? (i + 1)

/-- What the properties of an object report. -/
def propertyReports [PatternLanguage] (extras : Extras) :
    List (String × Node) → Trail → Option Value → List Report
  | [], _, _ => []
  | (name, node) :: rest, trail, value? =>
    (if node.passesOver (value?.bind (·.get? name)) then []
      else node.reports extras (trail ++ [.property name]) (value?.bind (·.get? name)))
      ++ propertyReports extras rest trail value?

end

end Node

/-- What a schema reports of an input. -/
def Schema.reports [PatternLanguage] (s : Schema) (extras : Extras) (input : Value) : List Report :=
  s.node.reports extras [] (some input)

/-! ## Laws -/

namespace Trail

/-- One more move leads to the path of a child. -/
theorem path_append (trail : Trail) (move : Move) :
    Trail.path (trail ++ [move]) = (Trail.path trail).child move.step := by
  unfold path FieldPath.ofSteps
  rw [List.map_append, List.foldl_append]
  rfl

/-- The same move leads from the same path to the same path. -/
theorem path_append_congr (trail trail' : Trail) (move : Move)
    (h : Trail.path trail = Trail.path trail') :
    Trail.path (trail ++ [move]) = Trail.path (trail' ++ [move]) := by
  rw [path_append, path_append, h]

/-- An item is the innermost one. -/
theorem index?_append_element (trail : Trail) (i : Nat) :
    Trail.index? (trail ++ [.element i]) = some i := by
  unfold index?
  rw [List.filterMap_append]
  exact List.getLast?_concat

/-- A position of a tuple is no item. -/
theorem index?_append_position (trail : Trail) (i : Nat) :
    Trail.index? (trail ++ [.position i]) = Trail.index? trail := by
  unfold index?
  rw [List.filterMap_append]
  exact congrArg List.getLast? (List.append_nil _)

/-- A property is no item. -/
theorem index?_append_property (trail : Trail) (name : String) :
    Trail.index? (trail ++ [.property name]) = Trail.index? trail := by
  unfold index?
  rw [List.filterMap_append]
  exact congrArg List.getLast? (List.append_nil _)

end Trail

/-- The last nonempty list stands behind the first list, unless there is none. -/
theorem lastNonempty_cons {α : Type} (list : List α) (lists : List (List α)) :
    lastNonempty (list :: lists) =
      match lastNonempty lists with
      | [] => list
      | found => found := by
  unfold lastNonempty
  -- A nonempty list among the later ones is the last one with or without the first.
  cases hlast : (lists.filter fun list => !list.isEmpty).getLast? with
  | none =>
    rw [List.getLast?_eq_none_iff] at hlast
    rw [List.filter_cons, hlast]
    cases list <;> rfl
  | some found =>
    have hmem : found ∈ lists.filter fun list => !list.isEmpty := List.mem_of_getLast? hlast
    obtain ⟨a, rest, rfl⟩ : ∃ a rest, found = a :: rest := by
      cases found with
      | nil => simp at hmem
      | cons a rest => exact ⟨a, rest, rfl⟩
    rw [List.filter_cons]
    cases list with
    | nil => exact congrArg (Option.getD · []) hlast
    | cons b bs =>
      show ((b :: bs) :: _).getLast?.getD [] = _
      rw [List.getLast?_cons, hlast]
      rfl

/-- There is no nonempty list when all lists are empty. -/
theorem lastNonempty_eq_nil_iff {α : Type} (lists : List (List α)) :
    lastNonempty lists = [] ↔ ∀ list ∈ lists, list = [] := by
  induction lists with
  | nil => simp [lastNonempty]
  | cons list lists ih =>
    rw [lastNonempty_cons, List.forall_mem_cons, ← ih]
    cases lastNonempty lists with
    | nil => simp
    | cons a rest => simp

/-- A function on the elements keeps the last nonempty list in its place. -/
theorem map_lastNonempty {α β : Type} (g : α → β) (lists : List (List α)) :
    (lastNonempty lists).map g = lastNonempty (lists.map (List.map g)) := by
  induction lists with
  | nil => rfl
  | cons list lists ih =>
    rw [List.map_cons, lastNonempty_cons, lastNonempty_cons, ← ih]
    cases lastNonempty lists <;> rfl

end DataShape
