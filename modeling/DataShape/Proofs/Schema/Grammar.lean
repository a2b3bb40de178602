import DataShape.Schema.Descriptor

/-!
# The grammar and the meaning of descriptors

`IsDescriptor` says which documents are descriptors, and `Schema.spelled` which schema a descriptor
spells. Neither has to do with the other: the grammar builds no schema, and the meaning looks at no
fault but takes a value of the wrong form for an absent one.

The grammar is a table. A tag has a shape (`shape?`), which gives the keys and the constraints of
the nodes with the tag, and a key has a form (`HasForm`), the same for all nodes that have the key.
The documents under `items` and `properties` are nodes in turn.
-/

namespace DataShape

namespace Json

/-- The items of an array. Other documents have none. -/
def elements : Json → List Json
  | array items => items
  | _ => []

/-- The entries of an object. Other documents have none. -/
def members : Json → List (String × Json)
  | object entries => entries
  | _ => []

end Json

namespace Descriptor

/-- The document under a key, or null. -/
def valueAt (entries : List (String × Json)) (key : String) : Json :=
  (Entries.find? entries key).getD .null

/-! ## Which documents are descriptors -/

/-- What the tag of a node decides: the keys beside those of every node, and the constraints that
may have errors. -/
structure Shape where
  keys : List String
  constraints : List Constraint

/-- The tags of numbers. -/
def numberTags : List String :=
  ["number", "float", "integer", "i8", "i16", "i32", "i64", "u8", "u16", "u32", "u64"]

/-- The shape of the nodes with a tag, if the tag is known. -/
def shape? (tag : String) : Option Shape :=
  if tag = "string" then
    some ⟨["minLen", "maxLen", "pattern"], [.type, .minLen, .maxLen, .pattern, .validator]⟩
  else if tag = "bool" ∨ tag = "boolean" then
    some ⟨[], [.type, .validator]⟩
  else if tag = "array" then
    some ⟨["minLen", "maxLen", "items"], [.type, .minLen, .maxLen, .validator]⟩
  else if tag = "object" then
    some ⟨["properties", "allowExtra"], [.type, .extra, .validator]⟩
  else if tag ∈ numberTags then
    some ⟨["min", "max"], [.type, .min, .max, .validator]⟩
  else none

/-- A string. -/
def IsText (j : Json) : Prop := ∃ text, j = .string text

/-- A boolean. -/
def IsFlag (j : Json) : Prop := ∃ b, j = .bool b

/-- An integer from 0 that fits into 64 bits. -/
def IsLength (j : Json) : Prop := ∃ n : Int, j = .int n ∧ 0 ≤ n ∧ n < (Nat.pow 2 64 : Nat)

/-- A number, whole or not. -/
def IsNumber (j : Json) : Prop := (∃ n, j = .int n) ∨ ∃ x, j = .float x

/-- An integer in the range of 64 bits with a sign. -/
def IsCode (j : Json) : Prop :=
  ∃ n : Int, j = .int n ∧ -(Nat.pow 2 63 : Nat) ≤ n ∧ n < (Nat.pow 2 63 : Nat)

/-- A message, a code, or an object with a code. -/
def IsError (j : Json) : Prop :=
  IsText j ∨ IsCode j ∨
    ∃ entries, j = .object entries ∧ ∃ code, Entries.find? entries "code" = some code ∧ IsCode code

/-- An object with an error for each of some constraints. -/
def IsErrors (constraints : List Constraint) (j : Json) : Prop :=
  ∃ entries, j = .object entries ∧
    ∀ e ∈ entries, (∃ c ∈ constraints, c.name = e.1) ∧ IsError e.2

/-- An object. -/
def IsObject (j : Json) : Prop := ∃ entries, j = .object entries

/-- An object or an array. -/
def IsItems (j : Json) : Prop := IsObject j ∨ ∃ items, j = .array items

/-- A document has the form that belongs to a key. What stands below `items` and `properties` is
left open, and `constraints` are those that may have errors. -/
def HasForm (constraints : List Constraint) (key : String) : Json → Prop :=
  match key with
  | "type" => IsText
  | "optional" => IsFlag
  | "errors" => IsErrors constraints
  | "minLen" => IsLength
  | "maxLen" => IsLength
  | "pattern" => IsText
  | "min" => IsNumber
  | "max" => IsNumber
  | "items" => IsItems
  | "properties" => IsObject
  | "allowExtra" => IsFlag
  | _ => fun _ => False

/-- The documents under `items`: the items of an array, or the document itself. -/
def itemDocuments : Json → List Json
  | .array items => items
  | .object entries => [.object entries]
  | _ => []

/-- The documents below a node that have to be nodes. -/
def children (entries : List (String × Json)) : List Json :=
  itemDocuments (valueAt entries "items") ++ (valueAt entries "properties").members.map Prod.snd

/-- A document spells a node: its tag is known, each of its keys belongs to the tag, each value has
the form of its key, and the documents below spell nodes. -/
inductive IsNode : Json → Prop
  | object (entries : List (String × Json)) (tag : String) (shape : Shape)
      (type : Entries.find? entries "type" = some (.string tag))
      (known : shape? tag = some shape)
      (keys : ∀ key ∈ Entries.keys entries, key ∈ ["type", "optional", "errors"] ++ shape.keys)
      (forms : ∀ key j, Entries.find? entries key = some j → HasForm shape.constraints key j)
      (below : ∀ j ∈ children entries, IsNode j) : IsNode (.object entries)

end Descriptor

open Descriptor

/-- A document spells a schema: its keys belong to the root, each value has the form of its key, a
tag is that of objects, and the documents under `properties` spell nodes. -/
def IsDescriptor (j : Json) : Prop :=
  ∃ entries, j = .object entries ∧
    (∀ key ∈ Entries.keys entries, key ∈ ["type", "properties", "allowExtra", "errors"]) ∧
    (∀ key x, Entries.find? entries key = some x → HasForm [.type, .extra, .validator] key x) ∧
    (∀ x, Entries.find? entries "type" = some x → x = .string "object") ∧
    ∀ e ∈ (valueAt entries "properties").members, IsNode e.2

/-! ## What a descriptor spells -/

namespace Descriptor

/-- The length that an integer spells. -/
def lengthOf : Json → Option UInt64
  | .int n => some (UInt64.ofNat n.toNat)
  | _ => none

/-- The bounds on a length that the entries spell. -/
def lengthsOf (entries : List (String × Json)) : LengthBounds where
  min? := lengthOf (valueAt entries "minLen")
  max? := lengthOf (valueAt entries "maxLen")

/-- The flag under a key. -/
def flagOf (entries : List (String × Json)) (key : String) (default : Bool) : Bool :=
  (valueAt entries key).bool?.getD default

/-- The code that an integer spells. -/
def codeOf : Json → Int64
  | .int n => .ofInt n
  | _ => 0

/-- The error that a document spells. The entries of an object beside the code are its details. -/
def errorOf : Json → ValidationError
  | .string text => .message text
  | .object entries => .structured (codeOf (valueAt entries "code"))
    (Value.entriesOfJson (entries.filter fun e => e.1 != "code"))
  | j => .code (codeOf j)

/-- The producers that a document spells: for a constraint, the error under its name. Of several
entries with the name it is the last. -/
def errorsOf (j : Json) : Producers where
  find? c := (Entries.find? j.members.reverse c.name).map fun error => .literal (errorOf error)

/-- The attributes that the entries spell. -/
def attributesOf (entries : List (String × Json)) : Attributes where
  optional := flagOf entries "optional" false
  errors := errorsOf (valueAt entries "errors")

/-- The node that the entries spell, if the documents under `items` and `properties` spell the given
nodes. -/
def assemble (entries : List (String × Json)) (item : Node) (positions : List Node)
    (properties : List (String × Node)) : Node :=
  let attrs := attributesOf entries
  let lengths := lengthsOf entries
  match (valueAt entries "type").string?.getD "" with
  | "string" => .leaf attrs (.string { lengths, pattern? := (valueAt entries "pattern").string? })
  | "bool" => .leaf attrs .bool
  | "boolean" => .leaf attrs .bool
  | "array" =>
    match valueAt entries "items" with
    | .object _ => .arrayOf attrs lengths item
    | .array _ => .tuple attrs lengths positions
    | _ => .leaf attrs (.array lengths)
  | "object" => .object attrs (flagOf entries "allowExtra" true) properties
  | tag => .leaf attrs <| .number
    { kind := (NumberKind.ofTag? tag).getD .plain
      min? := (valueAt entries "min").number?
      max? := (valueAt entries "max").number? }

/-- The document under a key is smaller than the object. -/
theorem sizeOf_valueAt_lt (entries : List (String × Json)) (key : String) :
    sizeOf (valueAt entries key) < sizeOf (Json.object entries) := by
  unfold valueAt
  rw [Json.object.sizeOf_spec]
  cases h : Entries.find? entries key with
  | none =>
    rw [Option.getD_none, Json.null.sizeOf_spec]
    have hpos : 0 < sizeOf entries := by
      cases entries <;> (simp only [List.nil.sizeOf_spec, List.cons.sizeOf_spec]; omega)
    omega
  | some j =>
    have hlt := Entries.sizeOf_lt_of_find? h
    rw [Option.getD_some]
    omega

/-- An item is smaller than the array. -/
theorem sizeOf_lt_of_mem_elements (j x : Json) (h : x ∈ j.elements) : sizeOf x < sizeOf j := by
  cases j with
  | array items =>
    have hlt : sizeOf x < sizeOf items := List.sizeOf_lt_of_mem h
    rw [Json.array.sizeOf_spec]
    omega
  | _ => cases h

/-- A member is smaller than the object. -/
theorem sizeOf_lt_of_mem_members (j : Json) (e : String × Json) (h : e ∈ j.members) :
    sizeOf e.2 < sizeOf j := by
  cases j with
  | object entries =>
    have hlt : sizeOf e < sizeOf entries := List.sizeOf_lt_of_mem h
    obtain ⟨name, x⟩ := e
    rw [Prod.mk.sizeOf_spec] at hlt
    show sizeOf x < _
    rw [Json.object.sizeOf_spec]
    omega
  | _ => cases h

/-- The node that a document spells. -/
def spelled (j : Json) : Node :=
  match j with
  | .object entries =>
    assemble entries (spelled (valueAt entries "items"))
      ((valueAt entries "items").elements.attach.map fun ⟨item, _⟩ => spelled item)
      ((valueAt entries "properties").members.attach.map fun ⟨e, _⟩ => (e.1, spelled e.2))
  | _ => default
termination_by sizeOf j
decreasing_by
  -- What stands under a key is smaller than the object, and its parts are smaller still.
  · exact sizeOf_valueAt_lt entries "items"
  · exact Nat.lt_trans (sizeOf_lt_of_mem_elements _ _ ‹_›) (sizeOf_valueAt_lt entries "items")
  · exact Nat.lt_trans (sizeOf_lt_of_mem_members _ _ ‹_›) (sizeOf_valueAt_lt entries "properties")

/-- The node that an object spells. -/
theorem spelled_object (entries : List (String × Json)) :
    spelled (.object entries) =
      assemble entries (spelled (valueAt entries "items"))
        ((valueAt entries "items").elements.map spelled)
        ((valueAt entries "properties").members.map fun e => (e.1, spelled e.2)) := by
  rw [spelled]
  simp only [List.map_attach_eq_pmap, List.pmap_eq_map]

end Descriptor

/-- The schema that a document spells. -/
def Schema.spelled (j : Json) : Schema where
  properties := (valueAt j.members "properties").members.map fun e => (e.1, Descriptor.spelled e.2)
  allowExtra := flagOf j.members "allowExtra" true
  errors := errorsOf (valueAt j.members "errors")

end DataShape
