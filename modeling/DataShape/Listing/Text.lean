import DataShape.Closure.Inline
import DataShape.Listing.Program
import DataShape.Validator.Run

/-!
# Listings

The listing of a validator is the text of its program, one statement a line and four spaces for
each open block. A predicate or a producer that carries a text is inlined with what it would be
given; one without a text is shown by a name in angle brackets.
-/

namespace DataShape

/-- The name of the variable of a loop, by the number of loops around it. -/
def loopVariable : Nat → String
  | 0 => "i"
  | 1 => "j"
  | 2 => "k"
  | n => s!"i{n}"

/-- The text of an expression. -/
def Access.text : Access → String
  | input => "input"
  | key of name => of.text ++ "[" ++ Quoted.quote name ++ "]"
  | position of index => s!"{of.text}[{index}]"
  | element of loop => s!"{of.text}[{loopVariable loop}]"

/-- The text of a presence condition. -/
def Presence.text : Presence → String
  | hasKey of name => of.text ++ ".contains_key(" ++ Quoted.quote name ++ ")"
  | longerThan of index => s!"{of.text}.len() > {index}"

/-- The text of the condition under which a test of the kind fails. -/
def KindTest.failureText (e : String) : KindTest → String
  | string => s!"!{e}.is_string()"
  | number => s!"!{e}.is_number()"
  | integer => s!"!{e}.is_integer()"
  | sized min stop =>
    s!"!({e}.is_integer() && ({NumberStyle.plain.text min}..{NumberStyle.plain.text stop})"
      ++ s!".contains({e}))"
  | bool => s!"!{e}.is_bool()"
  | list => s!"!{e}.is_list()"
  | map => s!"!{e}.is_map()"

/-- The text of the condition under which a test fails. -/
def Test.failureText (e : String) : Test → String
  | kind test => test.failureText e
  | minLen n => s!"{e}.len() < {n.toNat}"
  | maxLen n => s!"{e}.len() > {n.toNat}"
  | pattern p => "!Regex::new(" ++ Quoted.quote p.source ++ s!").is_match({e})"
  | min x => s!"{e} < {NumberStyle.plain.text x}"
  | max x => s!"{e} > {NumberStyle.plain.text x}"
  | onlyKeys allowed =>
    s!"{e}.keys().any(|key| ![" ++ ", ".intercalate (allowed.map Quoted.quote)
      ++ "].contains(key))"
  | predicate p =>
    match p.source? with
    | some source => "(" ++ ClosureText.inlineText source [e, "extras"] ++ ").is_err()"
    | none => s!"<validator>({e}, extras).is_err()"

namespace Branch

/-- The text of what the producer is given as its parameter. -/
def paramText (b : Branch) : String :=
  match b.check.test with
  | .onlyKeys _ => "key"
  | .predicate _ => "detail"
  | _ => (b.check.param?.map fun v => v.toJson.text).getD "None"

/-- The text of the error that the branch reports. -/
def errorText (b : Branch) : String :=
  match b.check.producer with
  | .literal e => e.inspect
  | .closure _ none => "<closure>(ctx)"
  | .closure _ (some source) =>
    ClosureText.inlineText source [b.subject.text, b.paramText, Quoted.quote b.path.text]

end Branch

/-- The space in front of a line with the given number of blocks around it. -/
def indentation (blocks : Nat) : String := String.ofList (List.replicate (4 * blocks) ' ')

/-- A line with the given number of blocks around it. -/
def codeLine (blocks : Nat) (text : String) : String := indentation blocks ++ text ++ "\n"

namespace Statement

/-- The lines of the branches of a chain, the closing brace of the last one left out. -/
def branchLines (blocks : Nat) (keyword : String) : List Branch → String
  | [] => ""
  | b :: rest =>
    codeLine blocks (keyword ++ " " ++ b.check.test.failureText b.subject.text ++ " \x7b")
      ++ codeLine (blocks + 1) ("errors.push(" ++ b.errorText ++ ");")
      ++ branchLines blocks "\x7d else if" rest

mutual

/-- The lines of a statement. -/
def lines (blocks : Nat) : Statement → String
  | chain branches => branchLines blocks "if" branches ++ codeLine blocks "\x7d"
  | chainElse branches otherwise =>
    branchLines blocks "if" branches ++ codeLine blocks "\x7d else \x7b"
      ++ blockLines (blocks + 1) otherwise ++ codeLine blocks "\x7d"
  | guarded present body =>
    codeLine blocks ("if " ++ present.text ++ " \x7b") ++ blockLines (blocks + 1) body
      ++ codeLine blocks "\x7d"
  | remember => codeLine blocks "let before = errors.len();"
  | scan list loop body =>
    codeLine blocks (s!"for {loopVariable loop} in (0..{list.text}.len()).rev() " ++ "\x7b")
      ++ blockLines (blocks + 1) body
      ++ codeLine (blocks + 1) "if errors.len() > before \x7b"
      ++ codeLine (blocks + 2) "break;"
      ++ codeLine (blocks + 1) "\x7d"
      ++ codeLine blocks "\x7d"

/-- The lines of statements one after the other. -/
def blockLines (blocks : Nat) : List Statement → String
  | [] => ""
  | s :: rest => s.lines blocks ++ blockLines blocks rest

end

end Statement

namespace Validator

/-- The listing of a validator. -/
def listing (v : Validator) : String :=
  let params := "input: &Value" :: v.extraParams.map fun name => s!"{name}: Option<&Value>"
  codeLine 0 ("fn validate(" ++ ", ".intercalate params ++ ") -> Vec<ValidationError> \x7b")
    ++ (if v.extraParams.isEmpty then ""
      else codeLine 1 ("let extras = Extras \x7b " ++ ", ".intercalate v.extraParams ++ " \x7d;"))
    ++ codeLine 1 "let mut errors = Vec::new();"
    ++ Statement.blockLines 1 v.plan.program
    ++ codeLine 1 "errors"
    ++ codeLine 0 "\x7d"

end Validator

end DataShape
