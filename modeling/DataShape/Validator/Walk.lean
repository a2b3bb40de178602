import DataShape.Validator.Run

/-!
# Walking through a plan

A `Plan` only has parts that fit together. Here the same plan is kept without that promise: each
node says itself how its value is fetched, and anything may stand below anything (`FetchPlan`). A
walk through it makes checks, fetches values and goes through lists, and writes down each of these
actions (`Walk`). Where a plan makes no sense the walk goes on in some way all the same: what has no
length has length 0, what is fetched as a root or as an element is the value of the parent, and what
is no list has no items. The actions tell when this happens.

`Schema.lower` makes the plan of a schema in this form.
-/

namespace DataShape

/-- How the value of a node is fetched. -/
inductive Fetch
  /-- The value is the input. -/
  | root
  | key (name : String)
  | position (index : Nat)
  /-- The value is an item of a list that is gone through. -/
  | element
deriving DecidableEq

/-- The value that is fetched for one of several children, given that of the parent. -/
def Fetch.find? (fetch : Fetch) (v : Value) : Option Value :=
  match fetch with
  | key name => v.get? name
  | position index => v.item? index
  | root => some v
  | element => some v

mutual

/-- A plan whose nodes say how their values are fetched. -/
inductive FetchPlan
  | node (fetch : Fetch) (own : Cascade) (below : FetchChildren)

/-- What stands below a node. -/
inductive FetchChildren
  | none
  | properties (plans : List FetchPlan)
  | positions (plans : List FetchPlan)
  /-- One plan for all items of a list. -/
  | uniform (item : FetchPlan)

end

namespace FetchPlan

/-- How the value of the node is fetched. -/
def fetch : FetchPlan → Fetch
  | node fetch _ _ => fetch

/-- The checks of the node itself. -/
def own : FetchPlan → Cascade
  | node _ own _ => own

end FetchPlan

/-! ## Lowering -/

namespace Node

mutual

/-- The plan of a node whose value is fetched in the given way. -/
def lower [PatternLanguage] : Node → FieldPath → Fetch → Except Defect FetchPlan
  | leaf attrs rule, path, fetch => do
    return .node fetch (← cascade (leaf attrs rule) path) .none
  | arrayOf attrs lengths item, path, fetch => do
    let plan ← item.lower (path.child .items) .element
    return .node fetch (← cascade (arrayOf attrs lengths item) path) (.uniform plan)
  | tuple attrs lengths nodes, path, fetch => do
    if nodes.isEmpty then throw (.emptyTuple path)
    let plans ← lowerPositions nodes path 0
    return .node fetch (← cascade (tuple attrs lengths nodes) path) (.positions plans)
  | object attrs allowExtra nodes, path, fetch => do
    let plans ← lowerProperties nodes path
    return .node fetch (← cascade (object attrs allowExtra nodes) path) (.properties plans)

/-- The plans of the positions of a tuple, from the given position on. -/
def lowerPositions [PatternLanguage] : List Node → FieldPath → Nat → Except Defect (List FetchPlan)
  | [], _, _ => .ok []
  | node :: rest, path, i => do
    let plan ← node.lower (path.child (.position i)) (.position i)
    return plan :: (← lowerPositions rest path (i + 1))

/-- The plans of the properties of an object. -/
def lowerProperties [PatternLanguage] :
    List (String × Node) → FieldPath → Except Defect (List FetchPlan)
  | [], _ => .ok []
  | (name, node) :: rest, path => do
    let plan ← node.lower (path.child (.property name)) (.key name)
    return plan :: (← lowerProperties rest path)

end

end Node

/-- The plan of a schema whose nodes say how their values are fetched. -/
def Schema.lower [PatternLanguage]
    (s : Schema) : Except Defect FetchPlan := s.node.lower .root .root

/-! ## Walking -/

/-- Something that a walk does. -/
inductive Action
  /-- A check is made of a value, or of nothing if the value is absent. -/
  | check (test : Test) (value? : Option Value)
  /-- The value of one of several children is fetched from that of the parent. -/
  | fetch (fetch : Fetch) (parent : Value)
  /-- The items of a value are gone through. -/
  | scan (v : Value)
  /-- A node ends although its value is absent and no check has failed. -/
  | giveUp

/-- How far a walk has come. -/
structure Walk where
  actions : List Action := []
  failures : List Failure := []

namespace Walk

/-- Writes an action down. -/
def act (w : Walk) (action : Action) : Walk := { w with actions := w.actions ++ [action] }

/-- Adds a failure. -/
def fail (w : Walk) (f : Failure) : Walk := { w with failures := w.failures ++ [f] }

/-- Makes checks up to the first one that fails, and says whether all of them have passed. -/
def check (extras : Extras) (path : FieldPath) (index? : Option Nat) (value? : Option Value) :
    List Check → Walk → Walk × Bool
  | [], w => (w, true)
  | c :: rest, w =>
    match c.failure? extras path index? value? with
    | some f => ((w.act (.check c.test value?)).fail f, false)
    | none => check extras path index? value? rest (w.act (.check c.test value?))

/-- Visits items with their positions one after the other, up to the first one behind which there
are more failures than before. -/
def scan (visit : Nat → Value → Walk → Walk) (before : Nat) : List (Value × Nat) → Walk → Walk
  | [], w => w
  | (x, i) :: rest, w =>
    if before < (visit i x w).failures.length then visit i x w
    else scan visit before rest (visit i x w)

end Walk

namespace FetchPlan

mutual

/-- Walks through a plan with a value that may be absent. -/
def walk (extras : Extras) : FetchPlan → Option Nat → Option Value → Walk → Walk
  | .node _ own below, index?, value?, w =>
    match w.check extras own.path index? value? own.checks, value? with
    | (w, false), _ => w
    | (w, true), none => w.act .giveUp
    | (w, true), some v => walkBelow extras below index? v w

/-- Walks through what stands below a node. -/
def walkBelow (extras : Extras) : FetchChildren → Option Nat → Value → Walk → Walk
  | .none, _, _, w => w
  | .properties plans, index?, v, w => walkAll extras plans index? v w
  | .positions plans, index?, v, w => walkAll extras plans index? v w
  | .uniform item, _, v, w =>
    match v.list? with
    | none => w.act (.scan v)
    | some items =>
      (w.act (.scan v)).scan (fun i x => item.walk extras (some i) (some x)) w.failures.length
        items.zipIdx.reverse

/-- Walks through the plans of several children, one after the other. -/
def walkAll (extras : Extras) :
    List FetchPlan → Option Nat → Value → Walk → Walk
  | [], _, _, w => w
  | plan :: rest, index?, v, w =>
    if (plan.fetch.find? v).isNone && plan.own.optional then
      walkAll extras rest index? v (w.act (.fetch plan.fetch v))
    else
      walkAll extras rest index? v
        (plan.walk extras index? (plan.fetch.find? v) (w.act (.fetch plan.fetch v)))

end

end FetchPlan

end DataShape
