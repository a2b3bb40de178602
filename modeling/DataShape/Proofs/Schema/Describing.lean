import DataShape.Proofs.Schema.Defects
import DataShape.Proofs.Schema.Reading
import DataShape.Proofs.Value.Storage

/-!
# Writing a schema as a descriptor

`Schema.describe` writes a schema as a descriptor. A document can hold a schema that has no
predicates, whose producers are literals for constraints that their nodes can check, whose bounds on
numbers are finite, and whose errors have finite details that leave the key `code` free
(`Schema.Describable`).

Each node is written with the same three keys first, its tag, its flag and its errors
(`Descriptor.described`). So what a node with a tag needs to be read is stated once
(`isNode_described`), and what is left for each kind of node is the part of its own.
-/

namespace DataShape

/-! ## Writing a schema -/

/-- An error as a descriptor spells it. The details stand behind the code. -/
def ValidationError.describe : ValidationError → Json
  | message text => .string text
  | code n => .int n.toInt
  | structured n details => .object (("code", .int n.toInt) :: Value.encodeEntries details)

/-- A producer as a descriptor spells it. A function has no spelling. -/
def Producer.describe : Producer → Json
  | literal e => e.describe
  | closure _ _ => .null

/-- Producers as a descriptor spells them, in order of priority. -/
def Producers.describe (ps : Producers) : Json :=
  .object (ps.toList.map fun e => (e.1.name, e.2.describe))

namespace Descriptor

/-- An entry that is written if there is a document for it. -/
def field (key : String) (j? : Option Json) : List (String × Json) :=
  (j?.map fun j => (key, j)).toList

/-- The entries of a node: its tag, its flag, its errors, and what its kind adds. -/
def described (tag : String) (attrs : Attributes) (rest : List (String × Json)) :
    List (String × Json) :=
  ("type", .string tag) :: ("optional", .bool attrs.optional) ::
    ("errors", attrs.errors.describe) :: rest

end Descriptor

open Descriptor

/-- The entries for bounds on a length. -/
def LengthBounds.describe (lengths : LengthBounds) : List (String × Json) :=
  field "minLen" (lengths.min?.map fun n => .int n.toNat) ++
    field "maxLen" (lengths.max?.map fun n => .int n.toNat)

/-- The entries for an array with bounds on its length, and with a document under its items if there
is one. -/
def LengthBounds.describeArray (lengths : LengthBounds) (items? : Option Json) :
    List (String × Json) :=
  field "items" items? ++ lengths.describe

/-- The entries for the rule of a leaf. -/
def LeafRule.describe : LeafRule → List (String × Json)
  | string rules => rules.lengths.describe ++ field "pattern" (rules.pattern?.map .string)
  | number rules =>
    field "min" (rules.min?.map Value.encodeNumber) ++
      field "max" (rules.max?.map Value.encodeNumber)
  | bool => []
  | array lengths => lengths.describeArray none

namespace Node

mutual

/-- A node as a descriptor spells it. -/
def describe : Node → Json
  | leaf attrs rule => .object (described rule.tag attrs rule.describe)
  | arrayOf attrs lengths item =>
    .object (described "array" attrs (lengths.describeArray (some item.describe)))
  | tuple attrs lengths positions =>
    .object (described "array" attrs
      (lengths.describeArray (some (.array (describePositions positions)))))
  | object attrs allowExtra properties =>
    .object (described "object" attrs
      [("allowExtra", .bool allowExtra), ("properties", .object (describeProperties properties))])

/-- The positions of a tuple as a descriptor spells them. -/
def describePositions : List Node → List Json
  | [] => []
  | node :: rest => node.describe :: describePositions rest

/-- The properties of an object as a descriptor spells them. -/
def describeProperties : List (String × Node) → List (String × Json)
  | [] => []
  | (name, node) :: rest => (name, node.describe) :: describeProperties rest

end

end Node

/-- A schema as a descriptor spells it. -/
def Schema.describe (s : Schema) : Json :=
  .object [("properties", .object (Node.describeProperties s.properties)),
    ("allowExtra", .bool s.allowExtra), ("errors", s.errors.describe)]

/-! ## What can be written -/

/-- The details of an error are finite, and none has the key of the code. -/
def ValidationError.Describable : ValidationError → Prop
  | structured _ details => "code" ∉ Entries.keys details ∧ Value.entriesFinite details = true
  | _ => True

/-- A producer is a literal that can be written. -/
def Producer.Describable : Producer → Prop
  | literal e => e.Describable
  | closure _ _ => False

/-- All producers can be written, and each is for one of the given constraints. -/
def Producers.Describable (ps : Producers) (constraints : List Constraint) : Prop :=
  ∀ e ∈ ps.toList, e.1 ∈ constraints ∧ e.2.Describable

/-- A node can be written, its children left out: it has no predicate, its producers are literals
for constraints of the node, and its bounds on numbers are finite. -/
structure Node.Describable (node : Node) : Prop where
  noPredicate : node.attrs.validator? = none
  errors : node.attrs.errors.Describable node.rule.constraints
  min : ∀ min, node.rule.min? = some min → min.isFinite = true
  max : ∀ max, node.rule.max? = some max → max.isFinite = true

/-- A schema can be written when its root and all its nodes can. -/
def Schema.Describable (s : Schema) : Prop := ∀ place ∈ s.nodes, place.2.Describable

instance (e : ValidationError) : Decidable e.Describable :=
  match e with
  | .structured _ _ => inferInstanceAs (Decidable (_ ∧ _))
  | .code _ => isTrue trivial
  | .message _ => isTrue trivial

instance (p : Producer) : Decidable p.Describable :=
  match p with
  | .literal e => inferInstanceAs (Decidable e.Describable)
  | .closure _ _ => isFalse id

instance (ps : Producers) (constraints : List Constraint) : Decidable (ps.Describable constraints) :=
  inferInstanceAs (Decidable (∀ e ∈ ps.toList, _ ∧ _))

instance (node : Node) : Decidable node.Describable :=
  decidable_of_iff
    (node.attrs.validator?.isNone = true ∧ node.attrs.errors.Describable node.rule.constraints ∧
      (∀ min ∈ node.rule.min?, min.isFinite = true) ∧ ∀ max ∈ node.rule.max?, max.isFinite = true)
    ⟨fun ⟨hpredicate, herrors, hmin, hmax⟩ =>
      ⟨Option.isNone_iff_eq_none.1 hpredicate, herrors, hmin, hmax⟩,
    fun h => ⟨Option.isNone_iff_eq_none.2 h.noPredicate, h.errors, h.min, h.max⟩⟩

instance (s : Schema) : Decidable s.Describable :=
  inferInstanceAs (Decidable (∀ place ∈ s.nodes, place.2.Describable))

/-- The producers that are set. -/
theorem Producers.mem_toList_iff (ps : Producers) (c : Constraint) (p : Producer) :
    (c, p) ∈ ps.toList ↔ ps.find? c = some p := by
  have hmem : c ∈ Constraint.all := by cases c <;> decide
  unfold toList
  rw [List.mem_filterMap]
  constructor
  · rintro ⟨d, -, hd⟩
    obtain ⟨p', hp', heq⟩ := Option.map_eq_some_iff.1 hd
    obtain ⟨rfl, rfl⟩ := Prod.mk.inj heq
    exact hp'
  · intro hp
    exact ⟨c, hmem, by rw [hp]; rfl⟩

/-! ## Reading an error again -/

namespace Descriptor

/-- An integer of 64 bits with a sign is a code. -/
theorem isCode_toInt (n : Int64) : IsCode (.int n.toInt) :=
  ⟨n.toInt, rfl, n.le_toInt, n.toInt_lt⟩

/-- A code is read as it was written. -/
theorem codeOf_toInt (n : Int64) : codeOf (.int n.toInt) = n :=
  Int64.ofInt_toInt n

/-- An error that can be written is one that can be read. -/
theorem isError_describe (e : ValidationError) : IsError e.describe := by
  cases e with
  | message text => exact Or.inl ⟨text, rfl⟩
  | code n => exact Or.inr (Or.inl (isCode_toInt n))
  | structured n details => exact Or.inr (Or.inr ⟨_, rfl, _, rfl, isCode_toInt n⟩)

/-- An error is read as it was written. -/
theorem errorOf_describe (e : ValidationError) (h : e.Describable) : errorOf e.describe = e := by
  cases e with
  | message text => rfl
  | code n => exact congrArg ValidationError.code (codeOf_toInt n)
  | structured n details =>
    -- The code is the first entry, and no detail has its key.
    have hkept : (Value.encodeEntries details).filter (fun e => e.1 != "code") =
        Value.encodeEntries details := by
      refine List.filter_eq_self.2 fun e he => ?_
      have hkey : e.1 ∈ Entries.keys details := by
        rw [← Value.keys_encodeEntries]
        exact List.mem_map_of_mem he
      exact bne_iff_ne.2 fun hcode => h.1 (hcode ▸ hkey)
    show ValidationError.structured (codeOf (.int n.toInt))
      (Value.entriesOfJson ((Value.encodeEntries details).filter fun e => e.1 != "code")) = _
    rw [codeOf_toInt, hkept, Value.entriesOfJson_encodeEntries details h.2]

/-- The document under the name of a constraint is that of its producer, if the constraint is among
those that are written. -/
theorem find?_describe_filterMap (ps : Producers) (c : Constraint) (cs : List Constraint) :
    Entries.find? ((cs.filterMap fun c => (ps.find? c).map (c, ·)).map
        fun e => (e.1.name, e.2.describe)) c.name =
      if c ∈ cs then (ps.find? c).map Producer.describe else none := by
  induction cs with
  | nil => rfl
  | cons d cs ih =>
    unfold Entries.find? at ih ⊢
    cases hd : ps.find? d with
    | none =>
      -- Nothing is written for `d`, and there is nothing to be found for it.
      rw [List.filterMap_cons, hd, Option.map_none, ih]
      by_cases hc : c = d
      · subst hc
        simp [hd]
      · simp [hc]
    | some p =>
      rw [List.filterMap_cons, hd, Option.map_some, List.map_cons, List.lookup_cons, ih]
      by_cases hc : c = d
      · subst hc
        simp [hd]
      · have hne : (c.name == d.name) = false := by simp [name_eq_name_iff, hc]
        simp [hne, hc]

/-- Producers that can be written are read as they were written. -/
theorem errorsOf_describe (ps : Producers) (constraints : List Constraint)
    (h : ps.Describable constraints) : errorsOf ps.describe = ps := by
  refine congrArg Producers.mk (funext fun c => ?_)
  show (Entries.find? (ps.toList.map fun e => (e.1.name, e.2.describe)).reverse c.name).map _ = _
  unfold Producers.toList
  rw [← List.map_reverse, ← List.filterMap_reverse, find?_describe_filterMap,
    if_pos (List.mem_reverse.2 (by cases c <;> decide))]
  cases hc : ps.find? c with
  | none => rfl
  | some p =>
    have hp := (h (c, p) ((ps.mem_toList_iff c p).2 hc)).2
    cases p with
    | literal e => exact congrArg (fun e => some (Producer.literal e)) (errorOf_describe e hp)
    | closure run source? => cases hp

/-- Producers that can be written are errors for their constraints. -/
theorem isErrors_describe (ps : Producers) (constraints : List Constraint)
    (h : ps.Describable constraints) : IsErrors constraints ps.describe := by
  refine ⟨_, rfl, fun e he => ?_⟩
  obtain ⟨⟨c, p⟩, hmem, rfl⟩ := List.mem_map.1 he
  obtain ⟨hc, hp⟩ := h (c, p) hmem
  cases p with
  | literal e => exact ⟨⟨c, hc, rfl⟩, isError_describe e⟩
  | closure run source? => cases hp

/-! ## Reading the entries of a node again -/

/-- What is found behind other entries. -/
theorem find?_append (es es' : List (String × Json)) (key : String) :
    Entries.find? (es ++ es') key = (Entries.find? es key).or (Entries.find? es' key) :=
  List.lookup_append

/-- An entry is found under its key. -/
theorem find?_field (key key' : String) (j? : Option Json) :
    Entries.find? (field key j?) key' = if key' = key then j? else none := by
  unfold field Entries.find?
  cases j? with
  | none => simp
  | some j =>
    by_cases h : key' = key
    · simp [h]
    · simp [List.lookup_cons, beq_false_of_ne h, h]

section

variable (tag : String) (attrs : Attributes) (rest : List (String × Json))

/-- The tag of the entries of a node. -/
theorem find?_type_described :
    Entries.find? (described tag attrs rest) "type" = some (.string tag) := rfl

/-- The flag of the entries of a node. -/
theorem find?_optional_described :
    Entries.find? (described tag attrs rest) "optional" = some (.bool attrs.optional) := rfl

/-- The errors of the entries of a node. -/
theorem find?_errors_described :
    Entries.find? (described tag attrs rest) "errors" = some attrs.errors.describe := rfl

/-- The other entries of a node are those of its kind. -/
theorem find?_described (key : String) (h : key ∉ commonKeys) :
    Entries.find? (described tag attrs rest) key = Entries.find? rest key := by
  simp only [commonKeys, List.mem_cons, List.not_mem_nil, or_false, not_or] at h
  obtain ⟨htype, hoptional, herrors⟩ := h
  unfold described Entries.find?
  simp only [List.lookup_cons, beq_false_of_ne htype, beq_false_of_ne hoptional,
    beq_false_of_ne herrors]

/-- The values of the other entries are those of the kind of the node. -/
theorem valueAt_described (key : String) (h : key ∉ commonKeys) :
    valueAt (described tag attrs rest) key = valueAt rest key := by
  unfold valueAt
  rw [find?_described tag attrs rest key h]

/-- The attributes of a node are read as they were written. -/
theorem attributesOf_described (constraints : List Constraint) (hvalidator : attrs.validator? = none)
    (herrors : attrs.errors.Describable constraints) :
    attributesOf (described tag attrs rest) = attrs := by
  obtain ⟨optional, validator?, errors⟩ := attrs
  obtain rfl : validator? = none := hvalidator
  show Attributes.mk optional none (errorsOf errors.describe) = _
  rw [errorsOf_describe errors constraints herrors]

/-- The keys of a node are those of every node, and those of its kind. -/
theorem keys_described :
    Entries.keys (described tag attrs rest) = commonKeys ++ Entries.keys rest := rfl

/-- The keys of no shape are among those of every node. -/
theorem not_mem_commonKeys_of_shape? (shape : Shape) (hshape : shape? tag = some shape)
    (key : String) (hkey : key ∈ shape.keys) : key ∉ commonKeys := by
  suffices hall : ∀ key ∈ shape.keys, key ∉ commonKeys from hall key hkey
  unfold shape? at hshape
  split_ifs at hshape <;> (obtain rfl := Option.some.inj hshape; decide)

/-- The documents below a node are those of its kind. -/
theorem children_described : children (described tag attrs rest) = children rest := by
  unfold children
  rw [valueAt_described tag attrs rest "items" (by decide),
    valueAt_described tag attrs rest "properties" (by decide)]

/-- A node that is written with a known tag is one, if its errors can be written and the entries of
its kind belong to the tag, have their forms, and hold nodes. -/
theorem isNode_described (shape : Shape) (hshape : shape? tag = some shape)
    (herrors : attrs.errors.Describable shape.constraints)
    (hkeys : ∀ key ∈ Entries.keys rest, key ∈ shape.keys)
    (hforms : ∀ key ∈ shape.keys, Under rest key (HasForm shape.constraints key))
    (hbelow : ∀ j ∈ children rest, IsNode j) : IsNode (.object (described tag attrs rest)) := by
  rw [isNode_object_iff _ tag shape (find?_type_described tag attrs rest) hshape,
    children_described]
  refine ⟨?_, ?_, ?_, ?_, hbelow⟩
  · intro key hkey
    rcases List.mem_append.1 (keys_described tag attrs rest ▸ hkey) with hcommon | hrest
    · exact List.mem_append_left _ hcommon
    · exact List.mem_append_right _ (hkeys key hrest)
  · rw [under_iff_of_find? _ _ _ (find?_optional_described tag attrs rest)]
    exact ⟨_, rfl⟩
  · rw [under_iff_of_find? _ _ _ (find?_errors_described tag attrs rest)]
    exact isErrors_describe _ _ herrors
  · intro key hkey
    unfold Under
    rw [find?_described tag attrs rest key (not_mem_commonKeys_of_shape? tag shape hshape key hkey)]
    exact hforms key hkey

end

end Descriptor

end DataShape
