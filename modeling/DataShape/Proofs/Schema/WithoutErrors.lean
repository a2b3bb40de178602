import DataShape.Proofs.Schema.MappedAttributes

/-!
# Schemas without their errors

`Schema.withoutErrors` drops all producers of errors and keeps everything else. Two schemas differ in
nothing but their producers exactly when the same is left of both. What a node asks of a value, and
every defect of a schema, is found in what is left.
-/

namespace DataShape

/-- The same attributes, without producers. -/
def Attributes.withoutErrors (attrs : Attributes) : Attributes := { attrs with errors := {} }

namespace Node

mutual

/-- The same tree, without producers at any node. -/
def withoutErrors : Node → Node
  | leaf attrs rule => leaf attrs.withoutErrors rule
  | arrayOf attrs lengths item => arrayOf attrs.withoutErrors lengths item.withoutErrors
  | tuple attrs lengths positions =>
    tuple attrs.withoutErrors lengths (positionsWithoutErrors positions)
  | object attrs allowExtra properties =>
    object attrs.withoutErrors allowExtra (propertiesWithoutErrors properties)

/-- The positions of a tuple, without producers. -/
def positionsWithoutErrors : List Node → List Node
  | [] => []
  | node :: rest => node.withoutErrors :: positionsWithoutErrors rest

/-- The properties of an object, without producers. -/
def propertiesWithoutErrors : List (String × Node) → List (String × Node)
  | [] => []
  | (name, node) :: rest => (name, node.withoutErrors) :: propertiesWithoutErrors rest

end

end Node

/-- The same schema, without producers at the root or at any node. -/
def Schema.withoutErrors (s : Schema) : Schema :=
  { s with properties := Node.propertiesWithoutErrors s.properties, errors := {} }

/-! ## What is left of a node -/

namespace Node

mutual

/-- A tree without producers is the tree with attributes without producers. -/
theorem withoutErrors_eq_mapAttrs (node : Node) :
    node.withoutErrors = node.mapAttrs Attributes.withoutErrors := by
  cases node with
  | leaf attrs rule => rfl
  | arrayOf attrs lengths item =>
    exact congrArg (arrayOf _ lengths) item.withoutErrors_eq_mapAttrs
  | tuple attrs lengths positions =>
    exact congrArg (tuple _ lengths) (positionsWithoutErrors_eq_mapPositions positions)
  | object attrs allowExtra properties =>
    exact congrArg (object _ allowExtra) (propertiesWithoutErrors_eq_mapProperties properties)

/-- The same for the positions of a tuple. -/
theorem positionsWithoutErrors_eq_mapPositions (positions : List Node) :
    positionsWithoutErrors positions = mapPositions Attributes.withoutErrors positions := by
  cases positions with
  | nil => rfl
  | cons node rest =>
    unfold positionsWithoutErrors mapPositions
    rw [node.withoutErrors_eq_mapAttrs, positionsWithoutErrors_eq_mapPositions rest]

/-- The same for the properties of an object. -/
theorem propertiesWithoutErrors_eq_mapProperties (properties : List (String × Node)) :
    propertiesWithoutErrors properties = mapProperties Attributes.withoutErrors properties := by
  match properties with
  | [] => rfl
  | (name, node) :: rest =>
    unfold propertiesWithoutErrors mapProperties
    rw [node.withoutErrors_eq_mapAttrs, propertiesWithoutErrors_eq_mapProperties rest]

end

/-- The attributes that are left. -/
theorem attrs_withoutErrors (node : Node) :
    node.withoutErrors.attrs = node.attrs.withoutErrors := by
  rw [withoutErrors_eq_mapAttrs, attrs_mapAttrs]

/-- What a node asks of the value itself is left. -/
theorem rule_withoutErrors (node : Node) : node.withoutErrors.rule = node.rule := by
  rw [withoutErrors_eq_mapAttrs, rule_mapAttrs]

/-- The defects of a tree are left. -/
theorem defectsOf_withoutErrors [PatternLanguage] (node : Node) (steps : List PathStep) :
    defectsOf (node.withoutErrors.nodes steps) = defectsOf (node.nodes steps) := by
  rw [withoutErrors_eq_mapAttrs, defectsOf_mapAttrs]

end Node

namespace Schema

/-- The root that is left. -/
theorem node_withoutErrors (s : Schema) : s.withoutErrors.node = s.node.withoutErrors := by
  unfold node Node.withoutErrors
  rfl

/-- The defects of a schema are left. -/
theorem defects_withoutErrors [PatternLanguage] (s : Schema) (extraParams : List String) :
    s.withoutErrors.defects extraParams = s.defects extraParams := by
  unfold defects nodes
  rw [node_withoutErrors, Node.defectsOf_withoutErrors]

/-- Schemas that differ in nothing but their producers have the same defects. -/
theorem defects_eq_of_withoutErrors_eq [PatternLanguage]
    (s s' : Schema) (h : s.withoutErrors = s'.withoutErrors)
    (extraParams : List String) : s.defects extraParams = s'.defects extraParams := by
  rw [← defects_withoutErrors, h, defects_withoutErrors]

end Schema

/-! ## Nodes of which the same is left -/

namespace Node

section

variable (node node' : Node) (h : node.withoutErrors = node'.withoutErrors)

include h

/-- They ask the same of the value itself. -/
theorem rule_eq_of_withoutErrors_eq : node.rule = node'.rule := by
  rw [← rule_withoutErrors node, h, rule_withoutErrors]

/-- They have the same attributes, but for the producers. -/
theorem attrs_eq_of_withoutErrors_eq :
    node.attrs.withoutErrors = node'.attrs.withoutErrors := by
  rw [← attrs_withoutErrors, h, attrs_withoutErrors]

/-- Both or neither may be absent. -/
theorem optional_eq_of_withoutErrors_eq : node.attrs.optional = node'.attrs.optional := by
  have hattrs := attrs_eq_of_withoutErrors_eq node node' h
  exact (congrArg Attributes.optional hattrs :)

/-- They have the same predicate. -/
theorem validator?_eq_of_withoutErrors_eq : node.attrs.validator? = node'.attrs.validator? := by
  have hattrs := attrs_eq_of_withoutErrors_eq node node' h
  exact (congrArg Attributes.validator? hattrs :)

end

end Node

end DataShape
