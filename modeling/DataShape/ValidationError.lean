import DataShape.Value.Text

/-!
# Validation errors

One entry of the list that a validation returns: a code, a message, or a code with details. The
forms can be told apart in JSON without a tag, since one is written as an integer, one as a string
and one as an object.
-/

namespace DataShape

/-- One reported violation. -/
inductive ValidationError
  | code (n : Int64)
  | message (text : String)
  | structured (code : Int64) (details : List (String × Value))
deriving Inhabited

namespace ValidationError

/-- A structured error without details. -/
def ofCode (n : Int64) : ValidationError := structured n []

/-- Sets a detail. Errors that are not structured have none and stay as they are. -/
def withDetail (e : ValidationError) (key : String) (value : Value) : ValidationError :=
  match e with
  | structured n details => structured n (Entries.insert key value details)
  | _ => e

/-- The message of a message. -/
def message? : ValidationError → Option String
  | message text => some text
  | _ => none

/-- The code of an error that has one. -/
def code? : ValidationError → Option Int64
  | code n => some n
  | structured n _ => some n
  | message _ => none

/-- The error as a line of text. -/
def text : ValidationError → String
  | code n => "error code " ++ toString n.toInt
  | message text => text
  | structured n [] => "error code " ++ toString n.toInt
  | structured n details =>
    "error code " ++ toString n.toInt ++ " ("
      ++ ", ".intercalate (details.map fun d => d.1 ++ ": " ++ d.2.text) ++ ")"

/-- The error in full detail. -/
def inspect : ValidationError → String
  | code n => "Code(" ++ toString n.toInt ++ ")"
  | message text => "Message(" ++ Quoted.quote text ++ ")"
  | structured n details =>
    "Structured \x7b code: " ++ toString n.toInt ++ ", details: \x7b"
      ++ ", ".intercalate (Value.inspectEntries details) ++ "\x7d \x7d"

/-- The error for storage. Details are left out when there are none. -/
def encode : ValidationError → Json
  | code n => .int n.toInt
  | message text => .string text
  | structured n [] => .object [("code", .int n.toInt)]
  | structured n details =>
    .object [("code", .int n.toInt), ("details", .object (Value.encodeEntries details))]

/-- Reads the details of a structured error, which may be missing. -/
def details? (j : Json) : Option (List (String × Value)) :=
  match Entries.find? (j.entries?.getD []) "details" with
  | none => some []
  | some details => do Value.decodeEntries? (← details.entries?)

/-- Reads an error as the first form that fits: an integer, a string, an object with an integer code
and perhaps an object of details. Other keys are passed over. -/
def decode? (j : Json) : Option ValidationError :=
  (Decode.decode? j).map code <|> j.string?.map message
    <|> (do return structured (← j.field? Int64 "code") (← details? j))

end ValidationError

instance : Decode ValidationError := ⟨ValidationError.decode?⟩

end DataShape
