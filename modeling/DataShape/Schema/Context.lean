import DataShape.FieldPath
import DataShape.ValidationError

/-!
# What the functions of a caller see

A validation may be given extra arguments, which are bound by position to names fixed beforehand.
The predicates and error producers of a caller read them by name. A producer also sees what failed
and where.
-/

namespace DataShape

/-- Extra arguments with their names. -/
structure Extras where
  names : List String
  args : List Value

namespace Extras

/-- No names and no arguments. -/
def none : Extras := ⟨[], []⟩

/-- The argument bound to a name: the one at the first position of the name. Nothing is bound to an
unknown name or to one without an argument. -/
def find? (extras : Extras) (name : String) : Option Value := do
  extras.args[← extras.names.idxOf? name]?

end Extras

/-- What an error producer sees of a failure. -/
structure FailureContext where
  /-- The value, unless it is absent. -/
  value? : Option Value
  /-- The bound that the value does not meet, the undeclared key, or the detail of a predicate. -/
  param? : Option Value
  path : FieldPath
  /-- The position of the element of the innermost array that is being scanned. -/
  index? : Option Nat
  extras : Extras

end DataShape
