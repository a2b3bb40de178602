import DataShape.Text.Quoted
import DataShape.Value.Json

/-!
# Values as text

`Value.text` is how a value stands in a message: a string bare, a list or a map as JSON. The
detailed form, `Value.inspect`, names the kind of each value and quotes every text, so that no two
different values look alike.
-/

namespace DataShape.Value

/-- The value in a message. -/
def text : Value → String
  | null => "null"
  | bool b => if b then "true" else "false"
  | number x => NumberStyle.plain.text x
  | string s => s
  | list items => (list items).toJson.text
  | map entries => (map entries).toJson.text

mutual

/-- The value in full detail. -/
def inspect : Value → String
  | null => "Null"
  | bool b => "Bool(" ++ (if b then "true" else "false") ++ ")"
  | number x => "Number(" ++ NumberStyle.quoted.text x ++ ")"
  | string s => "String(" ++ Quoted.quote s ++ ")"
  | list items => "List([" ++ ", ".intercalate (inspectItems items) ++ "])"
  | map entries => "Map(\x7b" ++ ", ".intercalate (inspectEntries entries) ++ "\x7d)"

/-- The items in full detail. -/
def inspectItems : List Value → List String
  | [] => []
  | x :: xs => x.inspect :: inspectItems xs

/-- The entries in full detail. -/
def inspectEntries : List (String × Value) → List String
  | [] => []
  | (key, x) :: xs => (Quoted.quote key ++ ": " ++ x.inspect) :: inspectEntries xs

end

end DataShape.Value
