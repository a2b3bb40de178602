import DataShape.Schema.NumberKind
import DataShape.Schema.Producer

/-!
# Schemas

A schema says what an input has to look like: an object with properties, each with a node that says
the same of its value. A node is a leaf, which looks at the value alone, or has children: one node
for all items of an array, one node for each position, or one for each property of an object. All
nodes share some attributes.

`Node.rule` is what a node asks of the value itself, its children left out. The root of a schema is
an object node, `Schema.node`.
-/

namespace DataShape

/-- What every node of a schema has. -/
structure Attributes where
  /-- An absent value is accepted. -/
  optional : Bool := false
  /-- A predicate that runs after all other checks of the node. -/
  validator? : Option Predicate := none
  errors : Producers := {}

/-- Bounds on a length. -/
structure LengthBounds where
  min? : Option UInt64 := none
  max? : Option UInt64 := none
deriving DecidableEq

/-- What a string node asks for. Lengths count characters. -/
structure StringRules where
  lengths : LengthBounds := {}
  /-- A pattern that has to match somewhere in the text. -/
  pattern? : Option String := none
deriving DecidableEq

/-- What a number node asks for. Both bounds are inclusive. -/
structure NumberRules where
  kind : NumberKind := .plain
  min? : Option Binary64 := none
  max? : Option Binary64 := none
deriving DecidableEq

/-- What a leaf asks for. An array leaf does not look at its items. -/
inductive LeafRule
  | string (rules : StringRules)
  | number (rules : NumberRules)
  | bool
  | array (lengths : LengthBounds)

/-- A node of a schema. -/
inductive Node
  | leaf (attrs : Attributes) (rule : LeafRule)
  /-- An array with one node for all items. -/
  | arrayOf (attrs : Attributes) (lengths : LengthBounds) (item : Node)
  /-- An array with one node for each position. Items past the last position are not looked at. -/
  | tuple (attrs : Attributes) (lengths : LengthBounds) (positions : List Node)
  /-- An object with a node for each property, in declaration order. -/
  | object (attrs : Attributes) (allowExtra : Bool) (properties : List (String × Node))

instance : Inhabited Node := ⟨.leaf {} .bool⟩

/-- What a node asks of the value itself. -/
inductive Rule
  | leaf (rule : LeafRule)
  /-- An object, with no keys but those of `only?` if given. -/
  | object (only? : Option (List String))

namespace LeafRule

/-- The tag that names the kind of node in descriptors. -/
def tag : LeafRule → String
  | string _ => "string"
  | number rules => rules.kind.tag
  | bool => "bool"
  | array _ => "array"

/-- The constraints that the node can check, in order of priority. -/
def constraints : LeafRule → List Constraint
  | string _ => [.type, .minLen, .maxLen, .pattern, .validator]
  | number _ => [.type, .min, .max, .validator]
  | bool => [.type, .validator]
  | array _ => [.type, .minLen, .maxLen, .validator]

end LeafRule

namespace Rule

/-- The tag that names the kind of node in descriptors. -/
def tag : Rule → String
  | leaf rule => rule.tag
  | object _ => "object"

/-- The constraints that the node can check, in order of priority. -/
def constraints : Rule → List Constraint
  | leaf rule => rule.constraints
  | object _ => [.type, .extra, .validator]

end Rule

namespace Node

/-- The attributes of a node. -/
def attrs : Node → Attributes
  | leaf attrs _ => attrs
  | arrayOf attrs _ _ => attrs
  | tuple attrs _ _ => attrs
  | object attrs _ _ => attrs

/-- What a node asks of the value itself. -/
def rule : Node → Rule
  | leaf _ rule => .leaf rule
  | arrayOf _ lengths _ => .leaf (.array lengths)
  | tuple _ lengths _ => .leaf (.array lengths)
  | object _ allowExtra properties =>
    .object (if allowExtra then none else some (Entries.keys properties))

end Node

/-- The root of a schema. -/
structure Schema where
  /-- The properties in declaration order. -/
  properties : List (String × Node) := []
  /-- Keys that are not declared are accepted. -/
  allowExtra : Bool := true
  /-- A predicate on the whole input, which runs before the properties are looked at. -/
  validator? : Option Predicate := none
  /-- Producers for the checks of the root itself. -/
  errors : Producers := {}

namespace Schema

/-- The root as a node: an object that has to be there. -/
def node (s : Schema) : Node :=
  .object { validator? := s.validator?, errors := s.errors } s.allowExtra s.properties

/-- Adds a property, or replaces the node of one in its place. -/
def withProperty (s : Schema) (name : String) (node : Node) : Schema :=
  { s with properties := Entries.insert name node s.properties }

/-- Removes a property, the others keeping their order. -/
def withoutProperty (s : Schema) (name : String) : Schema :=
  { s with properties := Entries.erase s.properties name }

/-- Sets the producer of a constraint of the root. -/
def withError (s : Schema) (c : Constraint) (p : Producer) : Schema :=
  { s with errors := s.errors.insert c p }

end Schema

end DataShape
