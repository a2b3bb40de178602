import DataShape.Json.Decode

/-!
# Constraints

Each check that a node of a schema can make has a name, and the names are ordered by priority: of
several constraints that fail, the first one in this order is reported.
-/

namespace DataShape

/-- A condition that a node of a schema can ask for. -/
inductive Constraint
  /-- The kind of the value and, for sized numbers, its range. -/
  | type
  /-- The least length of a string or an array. -/
  | minLen
  /-- The greatest length of a string or an array. -/
  | maxLen
  /-- A pattern that a string has to match. -/
  | pattern
  /-- The least number. -/
  | min
  /-- The greatest number. -/
  | max
  /-- No undeclared keys in an object. -/
  | extra
  /-- A predicate of the caller. -/
  | validator
deriving DecidableEq

namespace Constraint

/-- All constraints, in order of priority. -/
def all : List Constraint := [type, minLen, maxLen, pattern, min, max, extra, validator]

/-- The name of a constraint. -/
def name : Constraint → String
  | type => "type"
  | minLen => "minLen"
  | maxLen => "maxLen"
  | pattern => "pattern"
  | min => "min"
  | max => "max"
  | extra => "extra"
  | validator => "validator"

/-- The constraint with a name. -/
def ofName? (name : String) : Option Constraint := all.find? (·.name == name)

/-- The number of constraints with a higher priority. -/
def priority (c : Constraint) : Nat := all.idxOf c

/-- Constraints are ordered by priority. -/
instance : Ord Constraint := ⟨fun c d => compare c.priority d.priority⟩

/-- The constraint for storage. -/
def encode (c : Constraint) : Json := .string c.name

end Constraint

instance : Decode Constraint := ⟨fun j => j.constant?.bind Constraint.ofName?⟩

end DataShape
