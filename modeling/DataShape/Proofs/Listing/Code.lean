import DataShape.Listing.Text
import DataShape.Validator.Run

/-!
# Code

The lines of a listing as code: what can stand in a line, how it is written, and how it is read
where a run of the program has come to it. An expression denotes a part of the input, a condition
asks something about a part, and what is pushed is an error or the name of a function. Nothing here
knows of plans or checks.

`<validator>` and `<closure>` stand for functions of a caller that carry no text. What these
functions are cannot be read off a listing, so a reading is given them. A reading is stuck (`none`)
where the code would make no sense: at a variable that is not bound, at a comparison of something
absent, at the length of a number.
-/

namespace DataShape

/-! ## Expressions -/

/-- The loop variables in scope with their positions, the innermost first. -/
abbrev LoopVariables := List (String × Nat)

/-- The part of the input that an expression denotes, which is absent if a key or a position on the
way is. Nothing is denoted if a loop variable is not bound. -/
def Access.denotes? (input : Value) (loops : LoopVariables) : Access → Option (Option Value)
  | .input => some (some input)
  | key of name => (of.denotes? input loops).map fun part? => part?.bind (·.get? name)
  | position of index => (of.denotes? input loops).map fun part? => part?.bind (·.item? index)
  | element of loop => (of.denotes? input loops).bind fun part? =>
    (loops.lookup (loopVariable loop)).map fun i => part?.bind (·.item? i)

/-- The length of what has one. -/
def Value.length? : Value → Option Nat
  | string s => some s.length
  | list items => some items.length
  | map entries => some entries.length
  | _ => none

/-! ## Conditions -/

/-- A kind that code asks for by its name. -/
inductive NamedKind
  | string
  | number
  | integer
  | bool
  | list
  | map
deriving DecidableEq

namespace NamedKind

/-- The name of a kind. -/
def name : NamedKind → String
  | string => "string"
  | number => "number"
  | integer => "integer"
  | bool => "bool"
  | list => "list"
  | map => "map"

/-- The value is of the kind. -/
def includes (v : Value) : NamedKind → Bool
  | string => v.kind == .string
  | number => v.kind == .number
  | integer => v.number?.any Binary64.isWhole
  | bool => v.kind == .bool
  | list => v.kind == .list
  | map => v.kind == .map

end NamedKind

/-- A comparison. -/
inductive Comparison
  | less
  | greater
deriving DecidableEq

namespace Comparison

/-- The sign of a comparison. -/
def sign : Comparison → String
  | less => "<"
  | greater => ">"

/-- The comparison holds between `x` and `y`. -/
def between {α : Type} (lt : α → α → Bool) (x y : α) : Comparison → Bool
  | less => lt x y
  | greater => lt y x

end Comparison

/-- What a condition asks about a part. -/
inductive Question
  /-- The part is not of the kind. -/
  | isNot (kind : NamedKind)
  /-- The part is no whole number from `min` up to `stop`, which is left out. -/
  | outside (min stop : Binary64)
  | length (order : Comparison) (n : Nat)
  | number (order : Comparison) (x : Binary64)
  /-- The pattern is not found in the part. -/
  | unmatched (source : String)
  /-- The part has a key that is not among the given ones. -/
  | otherKey (allowed : List String)
  | containsKey (name : String)
  /-- A predicate refuses the part. -/
  | refused

namespace Question

/-- How the question about an expression is written. -/
def text (e : String) : Question → String
  | isNot kind => "!" ++ e ++ ".is_" ++ kind.name ++ "()"
  | outside min stop =>
    "!(" ++ e ++ ".is_integer() && (" ++ NumberStyle.plain.text min ++ ".."
      ++ NumberStyle.plain.text stop ++ ").contains(" ++ e ++ "))"
  | length order n => e ++ ".len() " ++ order.sign ++ " " ++ n.repr
  | number order x => e ++ " " ++ order.sign ++ " " ++ NumberStyle.plain.text x
  | unmatched source => "!Regex::new(" ++ Quoted.quote source ++ ").is_match(" ++ e ++ ")"
  | otherKey allowed =>
    e ++ ".keys().any(|key| ![" ++ ", ".intercalate (allowed.map Quoted.quote)
      ++ "].contains(key))"
  | containsKey name => e ++ ".contains_key(" ++ Quoted.quote name ++ ")"
  | refused => "<validator>(" ++ e ++ ", extras).is_err()"

/-- The answer at a part. An absent part is of no kind. Every other question can only be asked of a
present part of a fitting kind, and a pattern has to be one. -/
def answer? [PatternLanguage] (extras : Extras) (validator? : Option Predicate)
    (part? : Option Value) : Question → Option Bool
  | isNot kind => some !(part?.any kind.includes)
  | outside min stop =>
    some !(part?.any fun v =>
      NamedKind.integer.includes v && v.number?.any fun x => min.le x && x.lt stop)
  | length order n => do
    let length ← (← part?).length?
    return order.between (fun m n => decide (m < n)) length n
  | number order x => do
    let number ← (← part?).number?
    return order.between Binary64.lt number x
  | unmatched source => do
    let isMatch ← (PatternLanguage.read source).toOption
    let text ← (← part?).string?
    return !isMatch text
  | otherKey allowed => do
    let entries ← (← part?).map?
    return (Entries.keys entries).any fun key => !allowed.contains key
  | containsKey name => do
    let entries ← (← part?).map?
    return (Entries.find? entries name).isSome
  | refused => do
    let validator ← validator?
    return (validator.refusal? (← part?) extras).isSome

end Question

/-- A condition. -/
inductive Condition
  | asks (of : Access) (question : Question)
  /-- There are more errors than were remembered. -/
  | grown

/-- How a condition is written. -/
def Condition.text : Condition → String
  | asks of question => question.text of.text
  | grown => "errors.len() > before"

/-! ## Pushes -/

/-- What is pushed. -/
inductive Pushed
  | error (e : ValidationError)
  /-- What a function makes of the context. -/
  | made

namespace Pushed

/-- How it is written what is pushed. -/
def text : Pushed → String
  | error e => e.inspect
  | made => "<closure>(ctx)"

/-- The error that is pushed in a context. -/
def read (closure : FailureContext → ValidationError) (context : FailureContext) :
    Pushed → ValidationError
  | error e => e
  | made => closure context

end Pushed

/-! ## Lines -/

/-- What can stand in a line. -/
inductive Instruction
  | ifHolds (condition : Condition)
  | elseIfHolds (condition : Condition)
  | otherwise
  | push (pushed : Pushed)
  | remember
  | countDown (loop : Nat) (list : Access)
  | leave
  | close

/-- How the line is written. -/
def Instruction.text : Instruction → String
  | ifHolds condition => "if " ++ condition.text ++ " \x7b"
  | elseIfHolds condition => "\x7d else if " ++ condition.text ++ " \x7b"
  | otherwise => "\x7d else \x7b"
  | push pushed => "errors.push(" ++ pushed.text ++ ");"
  | remember => "let before = errors.len();"
  | countDown loop list =>
    "for " ++ loopVariable loop ++ " in (0.." ++ list.text ++ ".len()).rev() \x7b"
  | leave => "break;"
  | close => "\x7d"

/-- A line with the number of blocks around it. -/
structure Line where
  blocks : Nat
  text : String

/-- The line as it stands in a listing. -/
def Line.code (l : Line) : String := codeLine l.blocks l.text

/-- The text of lines. -/
def linesText (lines : List Line) : String := String.join (lines.map Line.code)

/-- The text of no lines. -/
@[simp] theorem linesText_nil : linesText [] = "" := rfl

/-- The text of a line and others. -/
@[simp] theorem linesText_cons (l : Line) (rest : List Line) :
    linesText (l :: rest) = codeLine l.blocks l.text ++ linesText rest :=
  String.join_cons

/-- The text of lines and then others. -/
@[simp] theorem linesText_append (front back : List Line) :
    linesText (front ++ back) = linesText front ++ linesText back := by
  unfold linesText
  rw [List.map_append, String.join_append]

/-- An instruction with the number of blocks around it. -/
structure CodeLine where
  blocks : Nat
  instruction : Instruction

/-- The line that the instruction is written in. -/
def CodeLine.line (l : CodeLine) : Line := ⟨l.blocks, l.instruction.text⟩

@[simp] theorem CodeLine.line_blocks (l : CodeLine) : l.line.blocks = l.blocks := rfl

@[simp] theorem CodeLine.line_text (l : CodeLine) : l.line.text = l.instruction.text := rfl

end DataShape
