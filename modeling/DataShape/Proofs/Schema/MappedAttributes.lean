import DataShape.Proofs.Schema.Defects

/-!
# Trees with other attributes

`Node.mapAttrs` applies a function to the attributes of every node of a tree: to what says whether a
value may be absent, to predicates and to producers. The shape of the tree, the names of properties
and the rules stay as they are, and so do all defects, which come from rules and shapes alone.
-/

namespace DataShape

namespace Node

mutual

/-- The same tree, with a function applied to the attributes of every node. -/
def mapAttrs (f : Attributes → Attributes) : Node → Node
  | leaf attrs rule => leaf (f attrs) rule
  | arrayOf attrs lengths item => arrayOf (f attrs) lengths (item.mapAttrs f)
  | tuple attrs lengths positions => tuple (f attrs) lengths (mapPositions f positions)
  | object attrs allowExtra properties =>
    object (f attrs) allowExtra (mapProperties f properties)

/-- The positions of a tuple, with the function applied below. -/
def mapPositions (f : Attributes → Attributes) : List Node → List Node
  | [] => []
  | node :: rest => node.mapAttrs f :: mapPositions f rest

/-- The properties of an object, with the function applied below. -/
def mapProperties (f : Attributes → Attributes) : List (String × Node) → List (String × Node)
  | [] => []
  | (name, node) :: rest => (name, node.mapAttrs f) :: mapProperties f rest

end

variable (f : Attributes → Attributes)

/-- Each position is mapped. -/
theorem mapPositions_eq_map (positions : List Node) :
    mapPositions f positions = positions.map (mapAttrs f) := by
  induction positions with
  | nil => rfl
  | cons node rest ih => exact congrArg (node.mapAttrs f :: ·) ih

/-- Each property keeps its name, and its node is mapped. -/
theorem mapProperties_eq_map (properties : List (String × Node)) :
    mapProperties f properties = properties.map fun e => (e.1, e.2.mapAttrs f) := by
  induction properties with
  | nil => rfl
  | cons entry rest ih => exact congrArg ((entry.1, entry.2.mapAttrs f) :: ·) ih

/-- The function is applied to the attributes of the node itself. -/
@[simp] theorem attrs_mapAttrs (node : Node) : (node.mapAttrs f).attrs = f node.attrs := by
  cases node <;> rfl

/-- What a node asks of the value itself stays. -/
@[simp] theorem rule_mapAttrs (node : Node) : (node.mapAttrs f).rule = node.rule := by
  cases node with
  | object attrs allowExtra properties =>
    have hkeys : Entries.keys (mapProperties f properties) = Entries.keys properties := by
      rw [mapProperties_eq_map]
      exact List.map_map
    show Rule.object (if allowExtra then none else some (Entries.keys _)) = _
    rw [hkeys]
    rfl
  | _ => rfl

/-- A tuple without positions stays one. -/
theorem isEmptyTuple_mapAttrs (node : Node) : (node.mapAttrs f).isEmptyTuple = node.isEmptyTuple := by
  cases node with
  | tuple attrs lengths positions => cases positions <;> rfl
  | _ => rfl

/-- The defects of a node stay. -/
theorem ownDefects_mapAttrs [PatternLanguage] (node : Node) (path : FieldPath) :
    (node.mapAttrs f).ownDefects path = node.ownDefects path := by
  unfold ownDefects
  rw [isEmptyTuple_mapAttrs, rule_mapAttrs]

mutual

/-- The defects of a tree stay. -/
theorem defectsOf_mapAttrs [PatternLanguage] (node : Node) (steps : List PathStep) :
    defectsOf ((node.mapAttrs f).nodes steps) = defectsOf (node.nodes steps) := by
  have hown := node.ownDefects_mapAttrs f (.ofSteps steps)
  cases node with
  | leaf attrs rule =>
    unfold mapAttrs at hown ⊢
    unfold nodes
    rw [defectsOf_singleton, defectsOf_singleton, hown]
  | arrayOf attrs lengths item =>
    unfold mapAttrs at hown ⊢
    unfold nodes
    rw [defectsOf_append, defectsOf_append, defectsOf_singleton, defectsOf_singleton, hown,
      defectsOf_mapAttrs item]
  | tuple attrs lengths positions =>
    unfold mapAttrs at hown ⊢
    unfold nodes
    rw [defectsOf_append, defectsOf_append, defectsOf_singleton, defectsOf_singleton, hown,
      defectsOf_mapPositions positions]
  | object attrs allowExtra properties =>
    unfold mapAttrs at hown ⊢
    unfold nodes
    rw [defectsOf_append, defectsOf_append, defectsOf_singleton, defectsOf_singleton, hown,
      defectsOf_mapProperties properties]

/-- The same for the positions of a tuple. -/
theorem defectsOf_mapPositions [PatternLanguage]
    (positions : List Node) (steps : List PathStep) (i : Nat) :
    defectsOf (positionNodes (mapPositions f positions) steps i) =
      defectsOf (positionNodes positions steps i) := by
  cases positions with
  | nil => rfl
  | cons node rest =>
    unfold mapPositions positionNodes
    rw [defectsOf_append, defectsOf_append, defectsOf_mapAttrs node, defectsOf_mapPositions rest]

/-- The same for the properties of an object. -/
theorem defectsOf_mapProperties [PatternLanguage]
    (properties : List (String × Node)) (steps : List PathStep) :
    defectsOf (propertyNodes (mapProperties f properties) steps) =
      defectsOf (propertyNodes properties steps) := by
  match properties with
  | [] => rfl
  | (name, node) :: rest =>
    unfold mapProperties propertyNodes
    rw [defectsOf_append, defectsOf_append, defectsOf_mapAttrs node, defectsOf_mapProperties rest]

end

end Node

end DataShape
