import DataShape.Schema.Constraint
import DataShape.Schema.Context

/-!
# Predicates and error producers

A caller may give a node a predicate of its own and, for each constraint, a producer of the error
to report. Both are functions that may carry a text. The text is never run; it stands for the
function in listings.
-/

namespace DataShape

/-- A predicate of the caller on values. -/
structure Predicate where
  /-- The detail of a refusal, if the value is refused. -/
  refusal? : Value → Extras → Option Value
  /-- The text of the predicate, for listings. -/
  source? : Option String := none

namespace Predicate

/-- The predicate in full detail. -/
def inspect (p : Predicate) : String :=
  let source := match p.source? with
    | some text => "Some(" ++ Quoted.quote text ++ ")"
    | none => "None"
  "CustomValidator \x7b source: " ++ source ++ ", .. \x7d"

end Predicate

/-- What turns a failure into an error. -/
inductive Producer
  /-- Always the same error. -/
  | literal (e : ValidationError)
  /-- A function of the failure, perhaps with its text. -/
  | closure (run : FailureContext → ValidationError) (source? : Option String)

namespace Producer

/-- The error for a failure. -/
def produce : Producer → FailureContext → ValidationError
  | literal e, _ => e
  | closure run _, context => run context

/-- Sets the text of a function. A literal has none. -/
def withSource (p : Producer) (source : String) : Producer :=
  match p with
  | literal e => literal e
  | closure run _ => closure run (some source)

/-- The text of a function that has one. -/
def source? : Producer → Option String
  | literal _ => none
  | closure _ source? => source?

/-- The producer in full detail. -/
def inspect : Producer → String
  | literal e => "Literal(" ++ e.inspect ++ ")"
  | closure _ (some source) => "Closure \x7b source: Some(" ++ Quoted.quote source ++ "), .. \x7d"
  | closure _ none => "Closure \x7b source: None, .. \x7d"

end Producer

/-- The producers of a node: for each constraint the one to use, if the default is not wanted. -/
structure Producers where
  find? : Constraint → Option Producer := fun _ => none

namespace Producers

/-- Sets the producer of a constraint. -/
def insert (ps : Producers) (c : Constraint) (p : Producer) : Producers :=
  ⟨fun d => if d = c then some p else ps.find? d⟩

/-- The producers that are set, in order of priority. -/
def toList (ps : Producers) : List (Constraint × Producer) :=
  Constraint.all.filterMap fun c => (ps.find? c).map (c, ·)

end Producers

end DataShape
