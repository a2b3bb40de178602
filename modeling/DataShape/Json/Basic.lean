import DataShape.Number.Style

/-!
# JSON documents

A JSON document with the entries of an object in order. Integers and floating-point numbers are kept
apart, since an integer is written without a point and some readers take integers only.

`Json.text` writes a document without blanks.
-/

namespace DataShape

/-- A JSON document. -/
inductive Json
  | null
  | bool (b : Bool)
  | int (n : Int)
  | float (x : FiniteDouble)
  | string (s : String)
  | array (items : List Json)
  | object (entries : List (String × Json))
deriving Inhabited

namespace Json

/-- The text of one character of a JSON string. -/
def escape (c : Char) : List Char :=
  if c = '"' then ['\\', '"']
  else if c = '\\' then ['\\', '\\']
  else if c = '\x08' then ['\\', 'b']
  else if c = '\x0c' then ['\\', 'f']
  else if c = '\n' then ['\\', 'n']
  else if c = '\r' then ['\\', 'r']
  else if c = '\t' then ['\\', 't']
  else if c.toNat < 32 then
    ['\\', 'u', '0', '0', Nat.digitChar (c.toNat / 16), Nat.digitChar (c.toNat % 16)]
  else [c]

/-- A text as a JSON string. -/
def quote (s : String) : String := String.ofList ('"' :: (s.toList.flatMap escape ++ ['"']))

mutual

/-- The text of a document, without blanks. -/
def text : Json → String
  | null => "null"
  | bool b => if b then "true" else "false"
  | int n => toString n
  | float x => NumberStyle.json.ofFinite x
  | string s => quote s
  | array items => "[" ++ ",".intercalate (itemTexts items) ++ "]"
  | object entries => "\x7b" ++ ",".intercalate (entryTexts entries) ++ "\x7d"

/-- The texts of the items of an array. -/
def itemTexts : List Json → List String
  | [] => []
  | item :: rest => item.text :: itemTexts rest

/-- The texts of the entries of an object. -/
def entryTexts : List (String × Json) → List String
  | [] => []
  | (key, value) :: rest => (quote key ++ ":" ++ value.text) :: entryTexts rest

end

/-- The integer of an integer document. -/
def int? : Json → Option Int
  | int n => some n
  | _ => none

/-- The number of a numeric document. -/
def number? : Json → Option Binary64
  | int n => some (.ofInt n)
  | float x => some (.finite x)
  | _ => none

/-- The text of a string document. -/
def string? : Json → Option String
  | string s => some s
  | _ => none

/-- The truth value of a boolean document. -/
def bool? : Json → Option Bool
  | bool b => some b
  | _ => none

/-- The entries of an object. -/
def entries? : Json → Option (List (String × Json))
  | object entries => some entries
  | _ => none

end Json

end DataShape
