import DataShape.Validator.Plan

/-!
# The program of a plan

What a plan does to an input can be told as a small program: chains of conditions of which each
reports one error, guards around what may be absent, and loops that go through a list from its end
and stop once an error has been reported. `Plan.program` is the program of a plan; its text is the
listing.
-/

namespace DataShape

/-- An expression that denotes a part of the input. -/
inductive Access
  | input
  | key (of : Access) (name : String)
  | position (of : Access) (index : Nat)
  /-- The element that the loop with the given number of loops around it is at. -/
  | element (of : Access) (loop : Nat)
deriving DecidableEq

/-- A condition under which a part is present. -/
inductive Presence
  | hasKey (of : Access) (name : String)
  | longerThan (of : Access) (index : Nat)
deriving DecidableEq

/-- A branch of a chain: if the check fails at the part, its error is reported. -/
structure Branch where
  check : Check
  subject : Access
  path : FieldPath

/-- A statement of a program. -/
inductive Statement
  /-- The first branch whose condition holds. -/
  | chain (branches : List Branch)
  /-- The first branch whose condition holds, else the statements. -/
  | chainElse (branches : List Branch) (otherwise : List Statement)
  /-- The statements if a part is present. -/
  | guarded (present : Presence) (body : List Statement)
  /-- Remembers how many errors have been reported. -/
  | remember
  /-- The statements for each element of a list, from the last to the first, up to the one after
  which there are more errors than remembered. The number is that of the loops around this one. -/
  | scan (list : Access) (loop : Nat) (body : List Statement)

namespace Plan

/-- The branches for the checks of a node. -/
def branches (own : Cascade) (subject : Access) : List Branch :=
  own.checks.map fun check => { check, subject, path := own.path }

/-- The statements for a child, guarded if the child may be absent. -/
def guardIf (optional : Bool) (present : Presence) (body : List Statement) : List Statement :=
  if optional then [.guarded present body] else body

mutual

/-- The statements of a plan for a part of the input, with the given number of loops around them. -/
def statements : Plan → Access → Nat → List Statement
  | leaf own, subject, _ => [.chain (branches own subject)]
  | each own item, subject, loops =>
    [.chainElse (branches own subject)
      [.remember, .scan subject loops (item.statements (.element subject loops) (loops + 1))]]
  | positions own plans, subject, loops =>
    [.chainElse (branches own subject) (positionStatements plans subject loops 0)]
  | properties own plans, subject, loops =>
    [.chainElse (branches own subject) (propertyStatements plans subject loops)]

/-- The statements for the positions of a list, from the given position on. -/
def positionStatements : List Plan → Access → Nat → Nat → List Statement
  | [], _, _, _ => []
  | plan :: rest, subject, loops, i =>
    guardIf plan.own.optional (.longerThan subject i) (plan.statements (.position subject i) loops)
      ++ positionStatements rest subject loops (i + 1)

/-- The statements for the properties of a map. -/
def propertyStatements : List (String × Plan) → Access → Nat → List Statement
  | [], _, _ => []
  | (name, plan) :: rest, subject, loops =>
    guardIf plan.own.optional (.hasKey subject name) (plan.statements (.key subject name) loops)
      ++ propertyStatements rest subject loops

end

/-- The program of a plan. -/
def program (plan : Plan) : List Statement := plan.statements .input 0

end Plan

end DataShape
