import DataShape.FieldPath
import DataShape.Json.Basic

/-!
# Defects of schemas

What can be wrong with a schema before any value is looked at. Each defect names its cause and, but
for the names of extra arguments, the path of the node that has it. `Defect.text` is the wording.
-/

namespace DataShape

/-- Why bounds make no sense. -/
inductive BoundsFault
  | lengths (min max : UInt64)
  | notFinite (bound : Binary64)
  | numbers (min max : Binary64)

/-- The wording of a fault of bounds. -/
def BoundsFault.message : BoundsFault → String
  | lengths min max => s!"minLen {min.toNat} exceeds maxLen {max.toNat}"
  | notFinite bound => s!"bound {NumberStyle.plain.text bound} is not finite"
  | numbers min max =>
    s!"min {NumberStyle.plain.text min} exceeds max {NumberStyle.plain.text max}"

/-- Why a name of an extra argument is refused. -/
inductive NameFault
  | notIdentifier
  | repeated

/-- The wording of a fault of a name. -/
def NameFault.message : NameFault → String
  | notIdentifier => "must be an identifier"
  | repeated => "declared more than once"

/-- Why a descriptor is refused. -/
inductive DescriptorFault
  | notObject
  | rootType
  | missingType
  | typeNotString
  | patternNotString
  | itemsShape
  | unexpectedKey (key : String)
  | notLength (key : String)
  | notNumber (key : String)
  | notBool (key : String)
  | noConstraint (name : String)
  | codeNotInteger
  | missingCode
  | errorShape

/-- The wording of a fault of a descriptor. -/
def DescriptorFault.message : DescriptorFault → String
  | notObject => "expected an object"
  | rootType => "root 'type' may only be \"object\""
  | missingType => "missing 'type'"
  | typeNotString => "'type' must be a string"
  | patternNotString => "'pattern' must be a string"
  | itemsShape => "'items' must be an object or an array"
  | unexpectedKey key => s!"unexpected key '{key}'"
  | notLength key => s!"'{key}' must be a non-negative integer"
  | notNumber key => s!"'{key}' must be a number"
  | notBool key => s!"'{key}' must be a boolean"
  | noConstraint name => s!"no '{name}' constraint on this node"
  | codeNotInteger => "error codes must be integers"
  | missingCode => "structured errors need an integer 'code'"
  | errorShape => "error literals must be a string, an integer or an object with 'code'"

/-- What is wrong with a schema. -/
inductive Defect
  | unknownType (path : FieldPath) (tag : String)
  | emptyTuple (path : FieldPath)
  /-- The reason is that of the language of patterns. -/
  | invalidPattern (path : FieldPath) (pattern reason : String)
  | invalidBounds (path : FieldPath) (fault : BoundsFault)
  | invalidExtraParam (name : String) (fault : NameFault)
  | malformedDescriptor (path : FieldPath) (fault : DescriptorFault)

namespace Defect

/-- The wording of a defect, without the reason that a language of patterns gives. -/
def message : Defect → String
  | unknownType path tag => s!"unknown type '{tag}' at '{path.text}'"
  | emptyTuple path => s!"tuple items at '{path.text}' must declare at least one position"
  | invalidPattern path pattern _ => s!"invalid pattern '{pattern}' at '{path.text}'"
  | invalidBounds path fault => s!"invalid bounds at '{path.text}': {fault.message}"
  | invalidExtraParam name fault => s!"invalid extra parameter name '{name}': {fault.message}"
  | malformedDescriptor path fault =>
    s!"malformed schema descriptor at '{path.text}': {fault.message}"

/-- The wording of a defect in full. -/
def text (d : Defect) : String :=
  match d with
  | invalidPattern _ _ reason => s!"{d.message}: {reason}"
  | _ => d.message

end Defect

end DataShape
