import DataShape.Schema.Basic
import DataShape.Schema.Defect

/-!
# Descriptors

A descriptor is a JSON document that spells a schema. Reading is strict: a tag has to be known,
each key has to belong to the kind of the node, and each value has to have the right form. Of
several faults the first one is reported, in the order in which the parts of a node are read: its
kind, its keys, its rules, its children, its flag and its errors.

The errors of a descriptor are literals, since a document cannot hold functions.
-/

namespace DataShape

/-- An entry that is found is smaller than the list it is found in. -/
theorem Entries.sizeOf_lt_of_find? {entries : List (String × Json)} {key : String} {j : Json}
    (h : Entries.find? entries key = some j) : sizeOf j < sizeOf entries := by
  induction entries with
  | nil => simp [Entries.find?] at h
  | cons e rest ih =>
    obtain ⟨k, v⟩ := e
    simp only [Entries.find?, List.lookup_cons] at h ih
    split at h
    · cases h
      simp only [List.cons.sizeOf_spec, Prod.mk.sizeOf_spec]
      omega
    · have := ih h
      simp only [List.cons.sizeOf_spec]
      omega

namespace Descriptor

/-- The entries of an object. -/
def entries (path : FieldPath) (j : Json) : Except Defect (List (String × Json)) :=
  match j.entries? with
  | some entries => .ok entries
  | none => .error (.malformedDescriptor path .notObject)

/-- Refuses keys that are not allowed. -/
def checkKeys (path : FieldPath) (allowed : List String) (entries : List (String × Json)) :
    Except Defect Unit :=
  match (Entries.keys entries).find? fun key => !allowed.contains key with
  | some key => .error (.malformedDescriptor path (.unexpectedKey key))
  | none => .ok ()

/-- The keys of every node. -/
def commonKeys : List String := ["type", "optional", "errors"]

/-- A value that may be missing, read by `read?`. -/
def optionalField {α : Type} (path : FieldPath) (entries : List (String × Json)) (key : String)
    (fault : DescriptorFault) (read? : Json → Option α) : Except Defect (Option α) :=
  match Entries.find? entries key with
  | none => .ok none
  | some j =>
    match read? j with
    | some x => .ok (some x)
    | none => .error (.malformedDescriptor path fault)

/-- A length that may be missing. -/
def length? (path : FieldPath) (entries : List (String × Json)) (key : String) :
    Except Defect (Option UInt64) :=
  optionalField path entries key (.notLength key) Decode.decode?

/-- Bounds on a length. -/
def lengths (path : FieldPath) (entries : List (String × Json)) : Except Defect LengthBounds := do
  let min? ← length? path entries "minLen"
  let max? ← length? path entries "maxLen"
  return { min?, max? }

/-- A number that may be missing. -/
def number? (path : FieldPath) (entries : List (String × Json)) (key : String) :
    Except Defect (Option Binary64) :=
  optionalField path entries key (.notNumber key) Json.number?

/-- A flag that may be missing. -/
def flag (path : FieldPath) (entries : List (String × Json)) (key : String) (default : Bool) :
    Except Defect Bool := do
  return (← optionalField path entries key (.notBool key) Json.bool?).getD default

/-- The error that a document spells: a message, a code, or an object with a code and details. -/
def literal (path : FieldPath) : Json → Except Defect ValidationError
  | .string text => .ok (.message text)
  | .object entries =>
    match (Entries.find? entries "code").bind (Decode.decode? (α := Int64)) with
    | some code => .ok (.structured code
        (Value.entriesOfJson (entries.filter fun e => e.1 != "code")))
    | none => .error (.malformedDescriptor path .missingCode)
  | .int n =>
    match (Decode.decode? (.int n) : Option Int64) with
    | some code => .ok (.code code)
    | none => .error (.malformedDescriptor path .codeNotInteger)
  | .float _ => .error (.malformedDescriptor path .codeNotInteger)
  | _ => .error (.malformedDescriptor path .errorShape)

/-- Reads producers one by one. -/
def producersOf (path : FieldPath) (allowed : List Constraint) :
    List (String × Json) → Producers → Except Defect Producers
  | [], ps => .ok ps
  | (name, j) :: rest, ps =>
    match (Constraint.ofName? name).filter allowed.contains with
    | none => .error (.malformedDescriptor path (.noConstraint name))
    | some c => do producersOf path allowed rest (ps.insert c (.literal (← literal path j)))

/-- The producers of a node, which may be missing. -/
def producers (path : FieldPath) (allowed : List Constraint) (nodeEntries : List (String × Json)) :
    Except Defect Producers :=
  match Entries.find? nodeEntries "errors" with
  | none => .ok {}
  | some j => do producersOf path allowed (← entries path j) {}

/-- The attributes of a node. -/
def attributes (path : FieldPath) (rule : Rule) (nodeEntries : List (String × Json)) :
    Except Defect Attributes := do
  let optional ← flag path nodeEntries "optional" false
  let errors ← producers path rule.constraints nodeEntries
  return { optional, errors }

/-- The tag of a node. -/
def tag (path : FieldPath) (nodeEntries : List (String × Json)) : Except Defect String :=
  match Entries.find? nodeEntries "type" with
  | none => .error (.malformedDescriptor path .missingType)
  | some (.string tag) => .ok tag
  | some _ => .error (.malformedDescriptor path .typeNotString)

/-- A leaf with the rule that has been read. -/
def leaf (path : FieldPath) (nodeEntries : List (String × Json)) (rule : LeafRule) :
    Except Defect Node := do
  return .leaf (← attributes path (.leaf rule) nodeEntries) rule

/-- A string node. -/
def stringNode (path : FieldPath) (nodeEntries : List (String × Json)) : Except Defect Node := do
  checkKeys path (commonKeys ++ ["minLen", "maxLen", "pattern"]) nodeEntries
  let lengths ← lengths path nodeEntries
  let pattern? ← optionalField path nodeEntries "pattern" .patternNotString Json.string?
  leaf path nodeEntries (.string { lengths, pattern? })

/-- A boolean node. -/
def boolNode (path : FieldPath) (nodeEntries : List (String × Json)) : Except Defect Node := do
  checkKeys path commonKeys nodeEntries
  leaf path nodeEntries .bool

/-- A number node. -/
def numberNode (path : FieldPath) (tag : String) (nodeEntries : List (String × Json)) :
    Except Defect Node := do
  match NumberKind.ofTag? tag with
  | none => .error (.unknownType path tag)
  | some kind =>
    checkKeys path (commonKeys ++ ["min", "max"]) nodeEntries
    let min? ← number? path nodeEntries "min"
    let max? ← number? path nodeEntries "max"
    leaf path nodeEntries (.number { kind, min?, max? })

mutual

/-- The node that a document spells. -/
def node (path : FieldPath) (j : Json) : Except Defect Node := do
  match j with
  | .object nodeEntries =>
    match ← tag path nodeEntries with
    | "string" => stringNode path nodeEntries
    | "bool" => boolNode path nodeEntries
    | "boolean" => boolNode path nodeEntries
    | "array" =>
      checkKeys path (commonKeys ++ ["minLen", "maxLen", "items"]) nodeEntries
      let lengths ← lengths path nodeEntries
      match h : Entries.find? nodeEntries "items" with
      | none => leaf path nodeEntries (.array lengths)
      | some (.array positions) =>
        have := Entries.sizeOf_lt_of_find? h
        let nodes ← nodes path 0 positions
        return .tuple (← attributes path (.leaf (.array lengths)) nodeEntries) lengths nodes
      | some (.object item) =>
        have := Entries.sizeOf_lt_of_find? h
        let item ← node (path.child .items) (.object item)
        return .arrayOf (← attributes path (.leaf (.array lengths)) nodeEntries) lengths item
      | some _ => .error (.malformedDescriptor path .itemsShape)
    | "object" =>
      checkKeys path (commonKeys ++ ["properties", "allowExtra"]) nodeEntries
      let nodes ← match h : Entries.find? nodeEntries "properties" with
        | none => .ok []
        | some (.object members) =>
          have := Entries.sizeOf_lt_of_find? h
          properties path members
        | some _ => .error (.malformedDescriptor path .notObject)
      let allowExtra ← flag path nodeEntries "allowExtra" true
      return .object (← attributes path (.object none) nodeEntries) allowExtra nodes
    | other => numberNode path other nodeEntries
  | _ => .error (.malformedDescriptor path .notObject)
termination_by sizeOf j
decreasing_by all_goals simp_all only [Json.array.sizeOf_spec, Json.object.sizeOf_spec]; omega

/-- The nodes of the positions of a tuple, from the given position on. -/
def nodes (path : FieldPath) (position : Nat) (js : List Json) : Except Defect (List Node) :=
  match js with
  | [] => .ok []
  | j :: rest => do
    let first ← node (path.child (.position position)) j
    return first :: (← nodes path (position + 1) rest)
termination_by sizeOf js

/-- The nodes of properties. -/
def properties (path : FieldPath) (members : List (String × Json)) :
    Except Defect (List (String × Node)) :=
  match members with
  | [] => .ok []
  | (name, j) :: rest => do
    let first ← node (path.child (.property name)) j
    return (name, first) :: (← properties path rest)
termination_by sizeOf members

end

end Descriptor

/-- The schema that a descriptor spells. -/
def Schema.ofDescriptor (j : Json) : Except Defect Schema := do
  let path := FieldPath.root
  let entries ← Descriptor.entries path j
  Descriptor.checkKeys path ["type", "properties", "allowExtra", "errors"] entries
  match Entries.find? entries "type" with
  | none => pure ()
  | some (.string "object") => pure ()
  | some _ => throw (.malformedDescriptor path .rootType)
  let properties ← match Entries.find? entries "properties" with
    | none => pure []
    | some members => Descriptor.properties path (← Descriptor.entries path members)
  let allowExtra ← Descriptor.flag path entries "allowExtra" true
  let errors ← Descriptor.producers path (Rule.object none).constraints entries
  return { properties, allowExtra, errors }

end DataShape
