import DataShape.Proofs.Schema.Describing

/-!
# A described node is read again

A node that can be written is a node of the grammar, and the document spells the node
(`Node.describes`). For a leaf the rule decides which keys are written, and each is read with the
reader that belongs to it. A tree follows by induction, where an array of any sort is read like one
with a given document under its items (`Descriptor.describes_array`).
-/

namespace DataShape

namespace Descriptor

/-! ## Reading a leaf again -/

/-- All kinds of numbers have the same shape. -/
theorem shape?_tag (k : NumberKind) :
    shape? k.tag = some ⟨["min", "max"], [.type, .min, .max, .validator]⟩ := by
  rcases k with _ | _ | _ | w | w <;> first | rfl | (cases w <;> rfl)

/-- The kind of a number is read as it was written. -/
theorem ofTag?_tag (k : NumberKind) : NumberKind.ofTag? k.tag = some k := by
  rcases k with _ | _ | _ | w | w <;> first | decide | (cases w <;> decide)

/-- The tags of numbers are not those of other nodes. -/
theorem tag_ne (k : NumberKind) : k.tag ∉ ["string", "bool", "boolean", "array", "object"] := by
  rcases k with _ | _ | _ | w | w <;> first | decide | (cases w <;> decide)

/-- A length is read as it was written. -/
theorem lengthOf_toNat (n : UInt64) : lengthOf (.int n.toNat) = some n :=
  congrArg some UInt64.ofNat_toNat

/-- A length is an integer of 64 bits without a sign. -/
theorem isLength_toNat (n : UInt64) : IsLength (.int n.toNat) :=
  ⟨n.toNat, rfl, Int.natCast_nonneg _, Int.ofNat_lt.2 n.toNat_lt⟩

/-- What stands under a key, if it is written when there is something to write, has a form if each
written document has. -/
theorem under_of_find?_map {α : Type} (es : List (String × Json)) (key : String) (x? : Option α)
    (write : α → Json) (Form : Json → Prop) (h : Entries.find? es key = x?.map write)
    (hform : ∀ x, x? = some x → Form (write x)) : Under es key Form := by
  intro j hj
  rw [h] at hj
  obtain ⟨x, hx, rfl⟩ := Option.map_eq_some_iff.1 hj
  exact hform x hx

/-- What is written under a key when there is something to write is read again, if each written
document is. -/
theorem read_of_find?_map {α : Type} (es : List (String × Json)) (key : String) (x? : Option α)
    (write : α → Json) (read : Json → Option α) (h : Entries.find? es key = x?.map write)
    (hnull : read .null = none) (hread : ∀ x, x? = some x → read (write x) = some x) :
    read (valueAt es key) = x? := by
  unfold valueAt
  rw [h]
  cases x? with
  | none => exact hnull
  | some x => exact hread x rfl

/-- The key of an entry that may be missing. -/
theorem keys_field (key : String) (j? : Option Json) :
    (Entries.keys (field key j?)).Sublist [key] := by
  cases j? with
  | none => exact List.nil_sublist _
  | some j => exact List.Sublist.refl _

/-- The keys of entries that stand behind others. -/
theorem keys_append {es es' : List (String × Json)} {keys keys' : List String}
    (h : (Entries.keys es).Sublist keys) (h' : (Entries.keys es').Sublist keys') :
    (Entries.keys (es ++ es')).Sublist (keys ++ keys') := by
  unfold Entries.keys at h h' ⊢
  rw [List.map_append]
  exact h.append h'

/-- The keys of bounds on a length. -/
theorem keys_lengths (lengths : LengthBounds) :
    (Entries.keys lengths.describe).Sublist ["minLen", "maxLen"] :=
  keys_append (keys_field _ _) (keys_field _ _)

/-- The keys of a string. -/
theorem keys_string (rules : StringRules) :
    (Entries.keys (LeafRule.string rules).describe).Sublist ["minLen", "maxLen", "pattern"] :=
  keys_append (keys_lengths rules.lengths) (keys_field _ _)

/-- The keys of a number. -/
theorem keys_number (rules : NumberRules) :
    (Entries.keys (LeafRule.number rules).describe).Sublist ["min", "max"] :=
  keys_append (keys_field _ _) (keys_field _ _)

/-- The keys of an array. -/
theorem keys_array (lengths : LengthBounds) (items? : Option Json) :
    (Entries.keys (lengths.describeArray items?)).Sublist ["items", "minLen", "maxLen"] :=
  keys_append (keys_field _ _) (keys_lengths lengths)

/-- Bounds on a length are read as they were written. -/
theorem lengthsOf_eq (es : List (String × Json)) (lengths : LengthBounds)
    (hmin : Entries.find? es "minLen" = lengths.min?.map fun n => .int n.toNat)
    (hmax : Entries.find? es "maxLen" = lengths.max?.map fun n => .int n.toNat) :
    lengthsOf es = lengths := by
  unfold lengthsOf
  rw [read_of_find?_map es _ _ _ lengthOf hmin rfl fun n _ => lengthOf_toNat n,
    read_of_find?_map es _ _ _ lengthOf hmax rfl fun n _ => lengthOf_toNat n]

section

variable (attrs : Attributes)

/-- A string is read as it was written. -/
theorem describes_string (rules : StringRules)
    (h : (Node.leaf attrs (.string rules)).Describable) :
    IsNode (Node.leaf attrs (.string rules)).describe ∧
      spelled (Node.leaf attrs (.string rules)).describe = .leaf attrs (.string rules) := by
  have hmin : Entries.find? (LeafRule.string rules).describe "minLen" =
      rules.lengths.min?.map fun n => .int n.toNat := by
    simp [LeafRule.describe, LengthBounds.describe, find?_append, find?_field]
  have hmax : Entries.find? (LeafRule.string rules).describe "maxLen" =
      rules.lengths.max?.map fun n => .int n.toNat := by
    simp [LeafRule.describe, LengthBounds.describe, find?_append, find?_field]
  have hpattern : Entries.find? (LeafRule.string rules).describe "pattern" =
      rules.pattern?.map .string := by
    simp [LeafRule.describe, LengthBounds.describe, find?_append, find?_field]
  have hkeys := (keys_string rules).subset
  unfold Node.describe
  show IsNode (.object (described "string" attrs _)) ∧
    spelled (.object (described "string" attrs _)) = _
  constructor
  · refine isNode_described _ attrs _ ⟨["minLen", "maxLen", "pattern"], _⟩ rfl h.errors hkeys ?_ ?_
    · simp only [List.forall_mem_cons, HasForm]
      exact ⟨under_of_find?_map _ _ _ _ _ hmin fun n _ => isLength_toNat n,
        under_of_find?_map _ _ _ _ _ hmax fun n _ => isLength_toNat n,
        under_of_find?_map _ _ _ _ _ hpattern fun text _ => ⟨text, rfl⟩, List.forall_mem_nil _⟩
    · rw [children_eq_nil _ _ hkeys (by decide) (by decide)]
      exact List.forall_mem_nil _
  · rw [spelled_string _ (find?_type_described _ attrs _),
      attributesOf_described _ attrs _ _ h.noPredicate h.errors,
      valueAt_described _ attrs _ "pattern" (by decide),
      lengthsOf_eq _ rules.lengths
        ((find?_described _ attrs _ "minLen" (by decide)).trans hmin)
        ((find?_described _ attrs _ "maxLen" (by decide)).trans hmax),
      read_of_find?_map _ _ _ _ Json.string? hpattern rfl fun _ _ => rfl]

/-- A number is read as it was written. -/
theorem describes_number (rules : NumberRules)
    (h : (Node.leaf attrs (.number rules)).Describable) :
    IsNode (Node.leaf attrs (.number rules)).describe ∧
      spelled (Node.leaf attrs (.number rules)).describe = .leaf attrs (.number rules) := by
  have hmin : Entries.find? (LeafRule.number rules).describe "min" =
      rules.min?.map Value.encodeNumber := by
    simp [LeafRule.describe, find?_append, find?_field]
  have hmax : Entries.find? (LeafRule.number rules).describe "max" =
      rules.max?.map Value.encodeNumber := by
    simp [LeafRule.describe, find?_append, find?_field]
  have hkeys := (keys_number rules).subset
  have hnumber (x : Binary64) (hx : x.isFinite = true) : IsNumber (Value.encodeNumber x) := by
    cases x with
    | finite y => exact Or.inr ⟨y, rfl⟩
    | nan => cases hx
    | infinity neg => cases hx
  have htag := tag_ne rules.kind
  simp only [List.mem_cons, List.not_mem_nil, or_false, not_or] at htag
  obtain ⟨hstring, hbool, hboolean, harray, hobject⟩ := htag
  unfold Node.describe
  show IsNode (.object (described rules.kind.tag attrs _)) ∧
    spelled (.object (described rules.kind.tag attrs _)) = _
  constructor
  · refine isNode_described _ attrs _ _ (shape?_tag rules.kind) h.errors hkeys ?_ ?_
    · simp only [List.forall_mem_cons, HasForm]
      exact ⟨under_of_find?_map _ _ _ _ _ hmin fun x hx => hnumber x (h.min x hx),
        under_of_find?_map _ _ _ _ _ hmax fun x hx => hnumber x (h.max x hx),
        List.forall_mem_nil _⟩
    · rw [children_eq_nil _ _ hkeys (by decide) (by decide)]
      exact List.forall_mem_nil _
  · rw [spelled_number _ _ (find?_type_described _ attrs _) hstring hbool hboolean harray hobject,
      attributesOf_described _ attrs _ _ h.noPredicate h.errors, ofTag?_tag,
      valueAt_described _ attrs _ "min" (by decide), valueAt_described _ attrs _ "max" (by decide),
      read_of_find?_map _ _ _ _ Json.number? hmin rfl fun x hx =>
        Value.number?_encodeNumber x (h.min x hx),
      read_of_find?_map _ _ _ _ Json.number? hmax rfl fun x hx =>
        Value.number?_encodeNumber x (h.max x hx)]
    rfl

/-- A boolean is read as it was written. -/
theorem describes_bool (h : (Node.leaf attrs .bool).Describable) :
    IsNode (Node.leaf attrs .bool).describe ∧
      spelled (Node.leaf attrs .bool).describe = .leaf attrs .bool := by
  unfold Node.describe
  show IsNode (.object (described "bool" attrs _)) ∧
    spelled (.object (described "bool" attrs _)) = _
  constructor
  · exact isNode_described _ attrs _ ⟨[], _⟩ rfl h.errors (fun _ hkey => (nomatch hkey))
      (fun _ hkey => (nomatch hkey)) fun _ hj => (nomatch hj)
  · rw [spelled_bool _ "bool" (Or.inl rfl) (find?_type_described _ attrs _),
      attributesOf_described _ attrs _ _ h.noPredicate h.errors]

/-- An array is read as it was written, if this is so for the document under its items. -/
theorem describes_array (lengths : LengthBounds) (items? : Option Json) (node : Node)
    (hvalidator : attrs.validator? = none)
    (herrors : attrs.errors.Describable [.type, .minLen, .maxLen, .validator])
    (hform : ∀ j, items? = some j → IsItems j ∧ ∀ x ∈ itemDocuments j, IsNode x)
    (hnode : (match items?.getD .null with
      | .object entries => .arrayOf attrs lengths (spelled (.object entries))
      | .array items => .tuple attrs lengths (items.map spelled)
      | _ => .leaf attrs (.array lengths)) = node) :
    IsNode (.object (described "array" attrs (lengths.describeArray items?))) ∧
      spelled (.object (described "array" attrs (lengths.describeArray items?))) = node := by
  have hmin : Entries.find? (lengths.describeArray items?) "minLen" =
      lengths.min?.map fun n => .int n.toNat := by
    simp [LengthBounds.describeArray, LengthBounds.describe, find?_append, find?_field]
  have hmax : Entries.find? (lengths.describeArray items?) "maxLen" =
      lengths.max?.map fun n => .int n.toNat := by
    simp [LengthBounds.describeArray, LengthBounds.describe, find?_append, find?_field]
  have hitems : Entries.find? (lengths.describeArray items?) "items" = items? := by
    simp [LengthBounds.describeArray, LengthBounds.describe, find?_append, find?_field]
  have hkeys (key : String) (hkey : key ∈ Entries.keys (lengths.describeArray items?)) :
      key ∈ ["minLen", "maxLen", "items"] := by
    have hall : ∀ key ∈ ["items", "minLen", "maxLen"], key ∈ ["minLen", "maxLen", "items"] := by
      decide
    exact hall key ((keys_array lengths items?).subset hkey)
  have hvalue : valueAt (lengths.describeArray items?) "items" = items?.getD .null := by
    unfold valueAt
    rw [hitems]
  constructor
  · refine isNode_described _ attrs _ ⟨["minLen", "maxLen", "items"], _⟩ rfl herrors hkeys ?_ ?_
    · simp only [List.forall_mem_cons, HasForm]
      exact ⟨under_of_find?_map _ _ _ _ _ hmin fun n _ => isLength_toNat n,
        under_of_find?_map _ _ _ _ _ hmax fun n _ => isLength_toNat n,
        fun j hj => (hform j (hitems.symm.trans hj)).1, List.forall_mem_nil _⟩
    · -- Below an array stand its items alone.
      have hproperties : "properties" ∉ Entries.keys (lengths.describeArray items?) :=
        fun hkey => absurd (hkeys _ hkey) (by decide)
      unfold children
      rw [hvalue, valueAt_of_not_mem _ "properties" hproperties]
      refine List.forall_mem_append.2 ⟨?_, List.forall_mem_nil _⟩
      cases items? with
      | none => exact List.forall_mem_nil _
      | some j => exact (hform j rfl).2
  · rw [spelled_array _ (find?_type_described _ attrs _)]
    unfold arraySpelled
    rw [attributesOf_described _ attrs _ _ hvalidator herrors,
      valueAt_described _ attrs _ "items" (by decide), hvalue,
      lengthsOf_eq _ lengths
        ((find?_described _ attrs _ "minLen" (by decide)).trans hmin)
        ((find?_described _ attrs _ "maxLen" (by decide)).trans hmax)]
    exact hnode

/-- A leaf is read as it was written. -/
theorem describes_leaf (rule : LeafRule) (h : (Node.leaf attrs rule).Describable) :
    IsNode (Node.leaf attrs rule).describe ∧
      spelled (Node.leaf attrs rule).describe = .leaf attrs rule := by
  cases rule with
  | string rules => exact describes_string attrs rules h
  | number rules => exact describes_number attrs rules h
  | bool => exact describes_bool attrs h
  | array lengths =>
    exact describes_array attrs lengths none _ h.noPredicate h.errors (fun _ hj => (nomatch hj)) rfl

end

end Descriptor

/-! ## Reading a tree again -/

open Descriptor

namespace Node

/-- A node is written as an object. -/
theorem exists_describe_eq_object (node : Node) : ∃ entries, node.describe = .object entries := by
  cases node <;> exact ⟨_, rfl⟩

mutual

/-- A tree that can be written is read as it was written. -/
theorem describes (node : Node) (steps : List PathStep)
    (h : ∀ place ∈ node.nodes steps, place.2.Describable) :
    IsNode node.describe ∧ spelled node.describe = node := by
  have hself := h _ (node.self_mem_nodes steps)
  cases node with
  | leaf attrs rule => exact describes_leaf attrs rule hself
  | arrayOf attrs lengths item =>
    unfold nodes at h
    obtain ⟨hisNode, hspelled⟩ := describes item (steps ++ [.items])
      fun place hplace => h place (List.mem_append_left _ hplace)
    obtain ⟨entries, hentries⟩ := item.exists_describe_eq_object
    unfold describe
    rw [hentries] at hisNode hspelled ⊢
    refine describes_array attrs lengths _ _ hself.noPredicate hself.errors ?_ ?_
    · rintro _ ⟨⟩
      exact ⟨Or.inl ⟨entries, rfl⟩, List.forall_mem_singleton.2 hisNode⟩
    · exact congrArg (Node.arrayOf attrs lengths) hspelled
  | tuple attrs lengths positions =>
    unfold nodes at h
    obtain ⟨hnodes, hspelled⟩ := describesPositions positions steps 0
      fun place hplace => h place (List.mem_append_left _ hplace)
    unfold describe
    refine describes_array attrs lengths _ _ hself.noPredicate hself.errors ?_ ?_
    · rintro _ ⟨⟩
      exact ⟨Or.inr ⟨_, rfl⟩, hnodes⟩
    · exact congrArg (Node.tuple attrs lengths) hspelled
  | object attrs allowExtra properties =>
    unfold nodes at h
    obtain ⟨hnodes, hspelled⟩ := describesProperties properties steps
      fun place hplace => h place (List.mem_append_left _ hplace)
    unfold describe
    constructor
    · refine isNode_described _ attrs _ ⟨["properties", "allowExtra"], _⟩ rfl hself.errors ?_ ?_ ?_
      · show ∀ key ∈ ["allowExtra", "properties"], key ∈ ["properties", "allowExtra"]
        decide
      · simp only [List.forall_mem_cons, HasForm]
        exact ⟨(under_iff_of_find? _ _ _ rfl _).2 ⟨_, rfl⟩,
          (under_iff_of_find? _ _ _ rfl _).2 ⟨_, rfl⟩, List.forall_mem_nil _⟩
      · exact List.forall_mem_map.2 hnodes
    · rw [spelled_properties _ (find?_type_described _ attrs _),
        attributesOf_described _ attrs _ _ hself.noPredicate hself.errors]
      exact congrArg (Node.object attrs allowExtra) hspelled

/-- The same for the positions of a tuple. -/
theorem describesPositions (positions : List Node) (steps : List PathStep) (i : Nat)
    (h : ∀ place ∈ positionNodes positions steps i, place.2.Describable) :
    (∀ j ∈ describePositions positions, IsNode j) ∧
      (describePositions positions).map spelled = positions := by
  cases positions with
  | nil => exact ⟨List.forall_mem_nil _, rfl⟩
  | cons node rest =>
    unfold positionNodes at h
    rw [List.forall_mem_append] at h
    obtain ⟨hfirst, hspelled⟩ := describes node _ h.1
    obtain ⟨hrest, hspelledRest⟩ := describesPositions rest steps (i + 1) h.2
    unfold describePositions
    rw [List.map_cons, hspelled, hspelledRest]
    exact ⟨List.forall_mem_cons.2 ⟨hfirst, hrest⟩, rfl⟩

/-- The same for the properties of an object. -/
theorem describesProperties (properties : List (String × Node)) (steps : List PathStep)
    (h : ∀ place ∈ propertyNodes properties steps, place.2.Describable) :
    (∀ e ∈ describeProperties properties, IsNode e.2) ∧
      (describeProperties properties).map (fun e => (e.1, spelled e.2)) = properties := by
  match properties with
  | [] => exact ⟨List.forall_mem_nil _, rfl⟩
  | (name, node) :: rest =>
    unfold propertyNodes at h
    rw [List.forall_mem_append] at h
    obtain ⟨hfirst, hspelled⟩ := describes node _ h.1
    obtain ⟨hrest, hspelledRest⟩ := describesProperties rest steps h.2
    unfold describeProperties
    rw [List.map_cons, hspelled, hspelledRest]
    exact ⟨List.forall_mem_cons.2 ⟨hfirst, hrest⟩, rfl⟩

end

end Node

end DataShape
