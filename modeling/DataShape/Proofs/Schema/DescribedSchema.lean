import DataShape.Proofs.Schema.DescribedNodes

/-!
# Descriptors express every schema without functions

Reading the descriptor of a schema that can be written gives the schema again
(`Schema.describe_reads_back`). The descriptor is a document that can be stored: where the schema
repeats no key, the descriptor repeats none, and its integers fit into 64 bits.
-/

namespace DataShape

open Descriptor

/-! ## The descriptor as a document -/

/-- An error repeats no key in its details, at any depth. -/
def ValidationError.WellFormed : ValidationError → Prop
  | structured _ details => Entries.Distinct details ∧ Value.EntriesWellFormed details
  | _ => True

/-- A producer that is a literal repeats no key. -/
def Producer.WellFormed : Producer → Prop
  | literal e => e.WellFormed
  | closure _ _ => True

/-- The properties of an object. Other nodes have none. -/
def Node.properties : Node → List (String × Node)
  | object _ _ properties => properties
  | _ => []

/-- A node repeats no key, its children left out: it declares no property twice, and the details of
its errors have no key twice. -/
structure Node.WellFormed (node : Node) : Prop where
  properties : (Entries.keys node.properties).Nodup
  errors : ∀ e ∈ node.attrs.errors.toList, e.2.WellFormed

instance (p : Producer) : Decidable p.WellFormed :=
  match p with
  | .literal (.structured _ details) =>
    inferInstanceAs (Decidable ((Entries.keys details).Nodup ∧ _))
  | .literal (.code _) => isTrue trivial
  | .literal (.message _) => isTrue trivial
  | .closure _ _ => isTrue trivial

instance (node : Node) : Decidable node.WellFormed :=
  decidable_of_iff
    ((Entries.keys node.properties).Nodup ∧ ∀ e ∈ node.attrs.errors.toList, e.2.WellFormed)
    ⟨fun ⟨hproperties, herrors⟩ => ⟨hproperties, herrors⟩, fun h => ⟨h.properties, h.errors⟩⟩

/-- An error that repeats no key is written as a well-formed document. -/
theorem ValidationError.wellFormed_describe (e : ValidationError) (hdescribable : e.Describable)
    (h : e.WellFormed) : e.describe.WellFormed := by
  have hcode (n : Int64) : (Json.int n.toInt).WellFormed := by
    have hlo := n.le_toInt
    have hhi := n.toInt_lt
    have hrange : (signedRange 64).1 = -2 ^ 63 ∧ (2 : Int) ^ 63 ≤ (unsignedRange 64).2 := by decide
    exact ⟨hrange.1 ▸ hlo, by omega⟩
  cases e with
  | message text => trivial
  | code n => exact hcode n
  | structured n details =>
    refine ⟨List.nodup_cons.2 ?_, hcode n, Value.entriesWellFormed_encodeEntries details h.2⟩
    rw [← Entries.keys, Value.keys_encodeEntries]
    exact ⟨hdescribable.1, h.1⟩

/-- Producers are written in the order of their constraints. -/
theorem Producers.names_sublist (ps : Producers) (cs : List Constraint) :
    ((cs.filterMap fun c => (ps.find? c).map (c, ·)).map fun e => e.1.name).Sublist
      (cs.map Constraint.name) := by
  induction cs with
  | nil => exact List.Sublist.refl _
  | cons c cs ih =>
    rw [List.map_cons]
    cases hc : ps.find? c with
    | none =>
      rw [List.filterMap_cons, hc]
      exact ih.cons c.name
    | some p =>
      rw [List.filterMap_cons, hc]
      exact ih.cons_cons c.name

/-- Producers that repeat no key are written as a well-formed document. -/
theorem Producers.wellFormed_describe (ps : Producers) (constraints : List Constraint)
    (hdescribable : ps.Describable constraints) (h : ∀ e ∈ ps.toList, e.2.WellFormed) :
    ps.describe.WellFormed := by
  constructor
  · show ((ps.toList.map fun e => (e.1.name, e.2.describe)).map Prod.fst).Nodup
    rw [List.map_map]
    exact (ps.names_sublist Constraint.all).nodup (by decide)
  · rw [Json.entriesWellFormed_iff, List.forall_mem_map]
    intro e he
    have hwritten := (hdescribable e he).2
    have hwellFormed := h e he
    obtain ⟨c, p⟩ := e
    cases p with
    | literal e => exact e.wellFormed_describe hwritten hwellFormed
    | closure run source? => cases hwritten

namespace Descriptor

/-- An entry that may be missing is well-formed if its document is. -/
theorem wellFormed_field (key : String) (j? : Option Json) (h : ∀ j, j? = some j → j.WellFormed) :
    ∀ e ∈ field key j?, e.2.WellFormed := by
  intro e he
  obtain ⟨j, hj, rfl⟩ := Option.map_eq_some_iff.1 (Option.mem_toList.1 he)
  exact h j hj

/-- A length is a well-formed document. -/
theorem wellFormed_length (n? : Option UInt64) (j : Json)
    (h : (n?.map fun n : UInt64 => Json.int n.toNat) = some j) : j.WellFormed := by
  obtain ⟨n, -, rfl⟩ := Option.map_eq_some_iff.1 h
  have hlt := n.toNat_lt
  have hrange : (signedRange 64).1 ≤ 0 ∧ (2 : Int) ^ 64 - 1 ≤ (unsignedRange 64).2 := by decide
  exact ⟨by omega, by omega⟩

/-- A bound on a number is a well-formed document. -/
theorem wellFormed_number (x? : Option Binary64) (j : Json)
    (h : x?.map Value.encodeNumber = some j) : j.WellFormed := by
  obtain ⟨x, -, rfl⟩ := Option.map_eq_some_iff.1 h
  cases x <;> trivial

/-- Bounds on a length are written as well-formed documents. -/
theorem wellFormed_lengths (lengths : LengthBounds) : ∀ e ∈ lengths.describe, e.2.WellFormed :=
  List.forall_mem_append.2
    ⟨wellFormed_field _ _ (wellFormed_length _), wellFormed_field _ _ (wellFormed_length _)⟩

/-- An array is written as well-formed documents if what stands under its items is one. -/
theorem wellFormed_array (lengths : LengthBounds) (items? : Option Json)
    (h : ∀ j, items? = some j → j.WellFormed) :
    ∀ e ∈ lengths.describeArray items?, e.2.WellFormed :=
  List.forall_mem_append.2 ⟨wellFormed_field _ _ h, wellFormed_lengths lengths⟩

/-- The rule of a leaf is written as well-formed documents. -/
theorem wellFormed_leaf (rule : LeafRule) : ∀ e ∈ rule.describe, e.2.WellFormed := by
  cases rule with
  | string rules =>
    refine List.forall_mem_append.2 ⟨wellFormed_lengths rules.lengths, wellFormed_field _ _ ?_⟩
    intro j hj
    obtain ⟨text, -, rfl⟩ := Option.map_eq_some_iff.1 hj
    trivial
  | number rules =>
    exact List.forall_mem_append.2
      ⟨wellFormed_field _ _ (wellFormed_number _), wellFormed_field _ _ (wellFormed_number _)⟩
  | bool => exact List.forall_mem_nil _
  | array lengths => exact wellFormed_array lengths none fun _ hj => (nomatch hj)

/-- The keys that the rule of a leaf adds are few, and not those of every node. -/
theorem keys_leaf (rule : LeafRule) :
    ∃ allowed, (Entries.keys rule.describe).Sublist allowed ∧ (commonKeys ++ allowed).Nodup := by
  cases rule with
  | string rules => exact ⟨_, keys_string rules, by decide⟩
  | number rules => exact ⟨_, keys_number rules, by decide⟩
  | bool => exact ⟨[], List.Sublist.refl _, by decide⟩
  | array lengths => exact ⟨_, keys_array lengths none, by decide⟩

/-- A node is written as a well-formed document if its errors and the entries of its kind are. -/
theorem wellFormed_described (tag : String) (attrs : Attributes) (rest : List (String × Json))
    (constraints : List Constraint) (allowed : List String)
    (hdescribable : attrs.errors.Describable constraints)
    (herrors : ∀ e ∈ attrs.errors.toList, e.2.WellFormed)
    (hkeys : (Entries.keys rest).Sublist allowed) (hallowed : (commonKeys ++ allowed).Nodup)
    (hrest : ∀ e ∈ rest, e.2.WellFormed) : (Json.object (described tag attrs rest)).WellFormed := by
  constructor
  · unfold Entries.Distinct
    rw [keys_described]
    exact ((List.Sublist.refl commonKeys).append hkeys).nodup hallowed
  · rw [Json.entriesWellFormed_iff]
    unfold described
    simp only [List.forall_mem_cons]
    exact ⟨trivial, trivial,
      attrs.errors.wellFormed_describe constraints hdescribable herrors, hrest⟩

end Descriptor

namespace Node

/-- The names of properties are written as they are. -/
theorem keys_describeProperties (properties : List (String × Node)) :
    Entries.keys (describeProperties properties) = Entries.keys properties := by
  induction properties with
  | nil => rfl
  | cons entry rest ih =>
    unfold describeProperties
    exact congrArg (entry.1 :: ·) ih

mutual

/-- A tree that repeats no key is written as a well-formed document. -/
theorem wellFormed_describe (node : Node) (steps : List PathStep)
    (h : ∀ place ∈ node.nodes steps, place.2.Describable ∧ place.2.WellFormed) :
    node.describe.WellFormed := by
  obtain ⟨hdescribable, hwellFormed⟩ := h _ (node.self_mem_nodes steps)
  cases node with
  | leaf attrs rule =>
    obtain ⟨allowed, hkeys, hallowed⟩ := keys_leaf rule
    exact wellFormed_described _ attrs _ _ allowed hdescribable.errors hwellFormed.errors hkeys
      hallowed (wellFormed_leaf rule)
  | arrayOf attrs lengths item =>
    unfold nodes at h
    have hitem := wellFormed_describe item (steps ++ [.items])
      fun place hplace => h place (List.mem_append_left _ hplace)
    unfold describe
    refine wellFormed_described _ attrs _ _ _ hdescribable.errors hwellFormed.errors
      (keys_array lengths _) (by decide) (wellFormed_array lengths _ ?_)
    rintro _ ⟨⟩
    exact hitem
  | tuple attrs lengths positions =>
    unfold nodes at h
    have hpositions := wellFormed_describePositions positions steps 0
      fun place hplace => h place (List.mem_append_left _ hplace)
    unfold describe
    refine wellFormed_described _ attrs _ _ _ hdescribable.errors hwellFormed.errors
      (keys_array lengths _) (by decide) (wellFormed_array lengths _ ?_)
    rintro _ ⟨⟩
    exact hpositions
  | object attrs allowExtra properties =>
    unfold nodes at h
    have hproperties := wellFormed_describeProperties properties steps
      fun place hplace => h place (List.mem_append_left _ hplace)
    have hdistinct : (Entries.keys properties).Nodup := hwellFormed.properties
    rw [← keys_describeProperties] at hdistinct
    unfold describe
    refine wellFormed_described _ attrs _ _ _ hdescribable.errors hwellFormed.errors
      (List.Sublist.refl ["allowExtra", "properties"]) (by decide) ?_
    simp only [List.forall_mem_cons]
    exact ⟨trivial, ⟨hdistinct, hproperties⟩, List.forall_mem_nil _⟩

/-- The same for the positions of a tuple. -/
theorem wellFormed_describePositions (positions : List Node) (steps : List PathStep) (i : Nat)
    (h : ∀ place ∈ positionNodes positions steps i, place.2.Describable ∧ place.2.WellFormed) :
    Json.ItemsWellFormed (describePositions positions) := by
  cases positions with
  | nil => trivial
  | cons node rest =>
    unfold positionNodes at h
    rw [List.forall_mem_append] at h
    exact ⟨wellFormed_describe node _ h.1, wellFormed_describePositions rest steps (i + 1) h.2⟩

/-- The same for the properties of an object. -/
theorem wellFormed_describeProperties (properties : List (String × Node)) (steps : List PathStep)
    (h : ∀ place ∈ propertyNodes properties steps, place.2.Describable ∧ place.2.WellFormed) :
    Json.EntriesWellFormed (describeProperties properties) := by
  match properties with
  | [] => trivial
  | (name, node) :: rest =>
    unfold propertyNodes at h
    rw [List.forall_mem_append] at h
    exact ⟨wellFormed_describe node _ h.1, wellFormed_describeProperties rest steps h.2⟩

end

end Node

/-! ## The whole schema -/

namespace Schema

/-- The nodes of a schema are those of its properties, and its root. -/
theorem nodes_eq (s : Schema) :
    s.nodes = Node.propertyNodes s.properties [] ++ [([], s.node)] := by
  unfold nodes node Node.nodes
  rfl

/-- A schema that can be written is read from its descriptor as it was written. -/
theorem spelled_describe (s : Schema) (h : s.Describable) :
    IsDescriptor s.describe ∧ Schema.spelled s.describe = s := by
  unfold Describable at h
  rw [nodes_eq, List.forall_mem_append, List.forall_mem_singleton] at h
  obtain ⟨hproperties, hroot⟩ := h
  obtain ⟨hnodes, hspelled⟩ := Node.describesProperties s.properties [] hproperties
  obtain ⟨properties, allowExtra, validator?, errors⟩ := s
  obtain rfl : validator? = none := hroot.noPredicate
  have herrors : errorsOf errors.describe = errors := errorsOf_describe errors _ hroot.errors
  constructor
  · refine ⟨_, rfl, ?_, ?_, fun x hx => (nomatch hx), hnodes⟩
    · show ∀ key ∈ ["properties", "allowExtra", "errors"],
        key ∈ ["type", "properties", "allowExtra", "errors"]
      decide
    · refine (forall_hasForm_iff _ ["properties", "allowExtra", "errors"] _ ?_).2 ?_
      · exact fun _ hkey => hkey
      simp only [List.forall_mem_cons, HasForm]
      exact ⟨(under_iff_of_find? _ _ _ rfl _).2 ⟨_, rfl⟩,
        (under_iff_of_find? _ _ _ rfl _).2 ⟨_, rfl⟩,
        (under_iff_of_find? _ _ _ rfl _).2 (isErrors_describe _ _ hroot.errors),
        List.forall_mem_nil _⟩
  · show Schema.mk ((Node.describeProperties properties).map fun e => (e.1, Descriptor.spelled e.2))
      allowExtra none (errorsOf errors.describe) = _
    rw [hspelled, herrors]

/-- A schema without functions, whose producers belong to constraints of their nodes, whose bounds
are finite and whose errors can be written, is spelled by a descriptor: reading the descriptor gives
the schema, with the same properties in the same order and the same rules, flags and errors. If the
schema repeats no key, neither does the descriptor, and all its integers fit into 64 bits. -/
theorem describe_reads_back (s : Schema) (h : s.Describable) :
    Schema.ofDescriptor s.describe = .ok s ∧
      ((∀ place ∈ s.nodes, place.2.WellFormed) → s.describe.WellFormed) := by
  refine ⟨(ofDescriptor_eq_ok_iff _ s).2 (s.spelled_describe h), fun hwellFormed => ?_⟩
  have hboth (place : List PathStep × Node) (hplace : place ∈ s.nodes) :
      place.2.Describable ∧ place.2.WellFormed := ⟨h place hplace, hwellFormed place hplace⟩
  rw [nodes_eq] at hboth
  obtain ⟨hproperties, hroot⟩ := List.forall_mem_append.1 hboth
  obtain ⟨hdescribable, hnode⟩ := List.forall_mem_singleton.1 hroot
  have hdistinct : (Entries.keys s.properties).Nodup := hnode.properties
  rw [← Node.keys_describeProperties] at hdistinct
  refine ⟨(by decide : ["properties", "allowExtra", "errors"].Nodup), ⟨hdistinct, ?_⟩, trivial, ?_,
    trivial⟩
  · exact Node.wellFormed_describeProperties s.properties [] hproperties
  · exact s.errors.wellFormed_describe _ hdescribable.errors hnode.errors

end Schema

namespace Demo

/-- An error with a list and a map among its details. -/
def seatError : ValidationError :=
  .structured (-7)
    [("zone", .list [.number (.ofRatio true 0 1), .null]), ("hint", .map [("code", .bool true)])]

/-- A seat that may be booked: a row and perhaps a letter, and who has booked it. -/
def seating : Schema where
  properties :=
    [("seat", .tuple {} { max? := some 18446744073709551615 }
        [.leaf {} (.number { kind := .unsigned .w64, min? := some (.ofRatio true 0 1) }),
          .leaf { optional := true } (.string { pattern? := some "^[A-K]$" })]),
      ("guest", .object { errors := .insert {} .extra (.literal seatError) } false
        [("member", .leaf {} .bool)])]
  allowExtra := false
  errors := .insert {} .type (.literal (.message "no booking"))

/-- The schema of a seat is read from its descriptor. -/
theorem describe_reads_back_seating :
    seating.Describable ∧ Schema.ofDescriptor seating.describe = .ok seating ∧
      seating.describe.WellFormed := by
  have hdescribable : seating.Describable := by decide +kernel
  have hreads := seating.describe_reads_back hdescribable
  exact ⟨hdescribable, hreads.1, hreads.2 (by decide +kernel)⟩

example :
    seatError.describe.text =
      "\x7b\"code\":-7,\"zone\":[-0.0,null],\"hint\":\x7b\"code\":true\x7d\x7d" := by
  decide +kernel

end Demo

end DataShape
