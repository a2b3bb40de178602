import DataShape.Proofs.Listing.Code
import DataShape.Proofs.Schema.Demands

/-!
# What a program means

A program has a meaning of its own, without a plan. Each branch and each guard has a condition, and
it is this condition, as it is written, that a run reads. A block forgets what was bound in it, and
a loop counts down and stops when there are more errors than it remembered. A run is stuck (`none`)
where the reading of an expression or of a condition is.

The variables of loops inside each other differ (`loopVariable_inj`), so a further loop hides
nothing that an expression from outside uses (`Access.denotes?_cons`).
-/

namespace DataShape

/-! ## What is written of a program -/

/-- The condition under which a test of the kind fails. -/
def KindTest.question : KindTest → Question
  | string => .isNot .string
  | number => .isNot .number
  | integer => .isNot .integer
  | sized min stop => .outside min stop
  | bool => .isNot .bool
  | list => .isNot .list
  | map => .isNot .map

namespace Test

/-- The question whose answer is yes where the test fails. -/
def question : Test → Question
  | kind test => test.question
  | minLen n => .length .less n.toNat
  | maxLen n => .length .greater n.toNat
  | pattern p => .unmatched p.source
  | min x => .number .less x
  | max x => .number .greater x
  | onlyKeys allowed => .otherKey allowed
  | predicate _ => .refused

/-- What `<validator>` stands for where the test is made. -/
def validator? : Test → Option Predicate
  | predicate p => some p
  | _ => none

end Test

/-- The condition of a guard. -/
def Presence.condition : Presence → Condition
  | hasKey of name => .asks of (.containsKey name)
  | longerThan of index => .asks of (.length .greater index)

namespace Branch

/-- The condition of a branch. -/
def condition (b : Branch) : Condition := .asks b.subject b.check.test.question

/-- What a branch pushes. -/
def pushed (b : Branch) : Pushed :=
  match b.check.producer with
  | .literal e => .error e
  | .closure _ _ => .made

end Branch

/-! ## Programs -/

/-- What a producer is given: the key that is not allowed, the detail of the predicate, or else the
bound. -/
def Check.given? (check : Check) (extras : Extras) (part? : Option Value) : Option Value :=
  match check.test with
  | .onlyKeys allowed => part?.bind fun v => (v.undeclaredKey? allowed).map .string
  | .predicate p => part?.bind fun v => p.refusal? v extras
  | _ => check.param?

/-- What a program is run on. -/
structure Call where
  input : Value
  extras : Extras

/-- How far a run of a program has come. -/
structure Progress where
  loops : LoopVariables := []
  /-- The number of errors that was remembered last. -/
  before? : Option Nat := none
  /-- What has been pushed. -/
  errors : List Failure := []

namespace Progress

/-- Pushes errors. -/
def push (st : Progress) (failures : List Failure) : Progress :=
  { st with errors := st.errors ++ failures }

/-- Remembers how many errors there are. -/
def remember (st : Progress) : Progress := { st with before? := some st.errors.length }

/-- Enters the body of a loop at a position. -/
def enter (st : Progress) (loop i : Nat) : Progress :=
  { st with loops := (loopVariable loop, i) :: st.loops }

/-- Leaves a block: the errors stay, what was bound in the block goes out of scope. -/
def leave (st inner : Progress) : Progress := { st with errors := inner.errors }

/-- The position of the innermost loop. -/
def index? (st : Progress) : Option Nat := st.loops.head?.map Prod.snd

end Progress

/-- The number of errors is greater than the one that was remembered. -/
def Progress.grown? (st : Progress) : Option Bool :=
  st.before?.map fun before => decide (before < st.errors.length)

/-- Whether a condition holds. -/
def Condition.holds? [PatternLanguage] (call : Call) (st : Progress)
    (validator? : Option Predicate) : Condition → Option Bool
  | asks of question => do
    question.answer? call.extras validator? (← of.denotes? call.input st.loops)
  | grown => st.grown?

/-- What a branch pushes, if its condition holds. -/
def Branch.failure? [PatternLanguage] (call : Call) (st : Progress) (b : Branch) :
    Option (Option Failure) := do
  let part? ← b.subject.denotes? call.input st.loops
  let holds ← b.condition.holds? call st b.check.test.validator?
  return if holds then
    some { check := b.check, context :=
      { value? := part?, param? := b.check.given? call.extras part?, path := b.path
        index? := st.index?, extras := call.extras } }
  else none

/-- What the first branch pushes whose condition holds. -/
def Branch.firstFailure? [PatternLanguage] (call : Call) (st : Progress) :
    List Branch → Option (Option Failure)
  | [] => some none
  | b :: rest => do
    match ← b.failure? call st with
    | some f => return some f
    | none => firstFailure? call st rest

/-- Runs the body of a loop at the positions below the given one, from the last to the first, up to
the one after which there are more errors than the body has remembered. -/
def Progress.countDown (body : Nat → Progress → Option Progress) : Nat → Progress → Option Progress
  | 0, st => some st
  | i + 1, st => do
    let inner ← body i st
    if ← inner.grown? then return st.leave inner else countDown body i (st.leave inner)

mutual

/-- Runs a statement. -/
def Statement.run? [PatternLanguage] (call : Call) : Statement → Progress → Option Progress
  | chain branches, st => do
    return st.push (← Branch.firstFailure? call st branches).toList
  | chainElse branches otherwise, st => do
    match ← Branch.firstFailure? call st branches with
    | some f => return st.push [f]
    | none => return st.leave (← blockRun? call otherwise st)
  | guarded present body, st => do
    if ← present.condition.holds? call st none then return st.leave (← blockRun? call body st)
    else return st
  | remember, st => some st.remember
  | scan list loop body, st => do
    let items ← (← list.denotes? call.input st.loops).bind Value.list?
    Progress.countDown (fun i inner => blockRun? call body (inner.enter loop i)) items.length st

/-- Runs statements one after the other. -/
def Statement.blockRun? [PatternLanguage] (call : Call) :
    List Statement → Progress → Option Progress
  | [], st => some st
  | s :: rest, st => do blockRun? call rest (← s.run? call st)

end

/-! ## Loop variables -/

/-- The number of the loop that a variable belongs to, from its letters. -/
def loopNumber : List Char → Nat
  | ['i'] => 0
  | ['j'] => 1
  | ['k'] => 2
  | letters => Nat.ofDigitChars 10 letters.tail 0

/-- The letters of a variable give the number of its loop back. -/
theorem loopNumber_loopVariable (n : Nat) : loopNumber (loopVariable n).toList = n := by
  match n with
  | 0 => rfl
  | 1 => rfl
  | 2 => rfl
  | k + 3 =>
    have hletters : (loopVariable (k + 3)).toList = 'i' :: Nat.toDigits 10 (k + 3) := by
      show ("i" ++ (k + 3).repr).toList = _
      rw [String.toList_append, Nat.repr_eq_ofList_toDigits, String.toList_ofList,
        String.toList_ofList]
      rfl
    rw [hletters]
    -- The number is written out, so the variable is none of those with a letter alone.
    cases hdigits : Nat.toDigits 10 (k + 3) with
    | nil => exact absurd hdigits Nat.toDigits_ne_nil
    | cons d ds =>
      show Nat.ofDigitChars 10 (d :: ds) 0 = k + 3
      rw [← hdigits, Nat.ofDigitChars_ten_toDigits]

/-- Loops inside each other have different variables. -/
theorem loopVariable_inj (m n : Nat) (h : loopVariable m = loopVariable n) : m = n := by
  rw [← loopNumber_loopVariable m, h, loopNumber_loopVariable]

/-- The expression uses no variables but those of the outermost `depth` loops. -/
def Access.Within (depth : Nat) : Access → Prop
  | .input => True
  | key of _ => of.Within depth
  | position of _ => of.Within depth
  | element of loop => of.Within depth ∧ loop < depth

namespace Access

/-- More loops do no harm. -/
theorem Within.mono (a : Access) (depth depth' : Nat) (hle : depth ≤ depth')
    (h : a.Within depth) : a.Within depth' := by
  induction a with
  | input => trivial
  | key of name ih => exact ih h
  | position of index ih => exact ih h
  | element of loop ih => exact ⟨ih h.1, Nat.lt_of_lt_of_le h.2 hle⟩

/-- The variable of a further loop hides none that an expression from outside uses. -/
theorem denotes?_cons (a : Access) (input : Value) (loops : LoopVariables) (depth i : Nat)
    (h : a.Within depth) :
    a.denotes? input ((loopVariable depth, i) :: loops) = a.denotes? input loops := by
  induction a with
  | input => rfl
  | key of name ih =>
    unfold denotes?
    rw [ih h]
  | position of index ih =>
    unfold denotes?
    rw [ih h]
  | element of loop ih =>
    have hne : loopVariable loop ≠ loopVariable depth := fun heq =>
      Nat.ne_of_lt h.2 (loopVariable_inj loop depth heq)
    unfold denotes?
    rw [ih h.1, List.lookup_cons, beq_eq_false_iff_ne.2 hne]

/-- Inside a loop over a list the element at the loop's position is denoted. -/
theorem denotes?_element (a : Access) (input : Value) (loops : LoopVariables) (depth i : Nat)
    (part? : Option Value) (hwithin : a.Within depth)
    (h : a.denotes? input loops = some part?) :
    (element a depth).denotes? input ((loopVariable depth, i) :: loops) =
      some (part?.bind (·.item? i)) := by
  show (a.denotes? input _).bind _ = _
  rw [denotes?_cons a input loops depth i hwithin, h, List.lookup_cons, beq_self_eq_true]
  rfl

end Access

end DataShape
