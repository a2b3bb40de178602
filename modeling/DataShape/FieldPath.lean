/-!
# Field paths

A field path says where a node of a schema stands: the names of properties, the numbers of tuple
positions and `*` for the items of a list, joined by slashes. The root has the empty path. Below an
empty path the next segment stands alone.
-/

namespace DataShape

/-- A step from a node of a schema to one of its children. -/
inductive PathStep
  | property (name : String)
  | position (index : Nat)
  | items
deriving DecidableEq

/-- The text of a step. -/
def PathStep.segment : PathStep → String
  | property name => name
  | position index => toString index
  | items => "*"

/-- The place of a node in a schema. -/
structure FieldPath where
  text : String
deriving DecidableEq

namespace FieldPath

/-- The path of the root. -/
def root : FieldPath := ⟨""⟩

/-- The path has no text. -/
def isRoot (path : FieldPath) : Bool := path.text.isEmpty

/-- The path one step further down. -/
def child (path : FieldPath) (step : PathStep) : FieldPath :=
  if path.isRoot then ⟨step.segment⟩ else ⟨path.text ++ "/" ++ step.segment⟩

/-- The path that the steps lead to from the root. -/
def ofSteps (steps : List PathStep) : FieldPath := steps.foldl child root

end FieldPath

end DataShape
