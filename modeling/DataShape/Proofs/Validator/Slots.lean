import DataShape.Proofs.Validator.Nesting
import Mathlib.Data.List.Forall2

/-!
# The slots below a node

When a node finds nothing wrong with a value itself, a reading goes on to the slots below it
(`Node.slots`): each child of the node with the value that stands in its slot, if any does. Slots
that are passed over are left out, and the others are read in order (`Node.readSlots`). What they
report is put together. Only when they share their node, as the items of an array do, the last slot
with a report is the one that counts (`Node.reports_of_holds`).

So there is one equation for the reports of all nodes, and an induction over the children of a node
(`Node.inductionOnChildren`) needs no case for each kind of node.
-/

namespace DataShape

/-! ## The children of a node -/

namespace Node

/-- The nodes right below a node, in declaration order. -/
def children : Node → List Node
  | leaf _ _ => []
  | arrayOf _ _ item => [item]
  | tuple _ _ positions => positions
  | object _ _ properties => properties.map Prod.snd

/-- A child is smaller than its node. -/
theorem sizeOf_lt_of_mem_children (node child : Node) (h : child ∈ node.children) :
    sizeOf child < sizeOf node := by
  cases node with
  | leaf attrs rule => cases h
  | arrayOf attrs lengths item =>
    obtain rfl := List.mem_singleton.1 h
    simp only [arrayOf.sizeOf_spec]
    omega
  | tuple attrs lengths positions =>
    have hlt := List.sizeOf_lt_of_mem (show child ∈ positions from h)
    simp only [tuple.sizeOf_spec]
    omega
  | object attrs allowExtra properties =>
    obtain ⟨entry, hentry, rfl⟩ := List.mem_map.1 h
    have hlt := List.sizeOf_lt_of_mem hentry
    have hsnd : sizeOf entry.2 < sizeOf entry := by
      obtain ⟨name, child⟩ := entry
      simp only [Prod.mk.sizeOf_spec]
      omega
    simp only [object.sizeOf_spec]
    omega

/-- What holds of a node whenever it holds of its children holds of all nodes. -/
@[elab_as_elim]
theorem inductionOnChildren {motive : Node → Prop} (node : Node)
    (step : ∀ node, (∀ child ∈ node.children, motive child) → motive node) : motive node :=
  step node fun child _hchild => inductionOnChildren child step
termination_by sizeOf node
decreasing_by exact sizeOf_lt_of_mem_children node child _hchild

/-- A node with the rule of a configured node is configured, unless it is a tuple without
positions. -/
theorem Configured.of_rule_eq [PatternLanguage] {node node' : Node} (h : node.Configured)
    (hrule : node'.rule = node.rule)
    (hpositions : ∀ attrs lengths, node' ≠ tuple attrs lengths []) : node'.Configured where
  positions := hpositions
  lengths := hrule ▸ h.lengths
  pattern := hrule ▸ h.pattern
  minFinite := hrule ▸ h.minFinite
  maxFinite := hrule ▸ h.maxFinite
  numbers := hrule ▸ h.numbers

/-- All nodes of a tree are configured. -/
def AllConfigured [PatternLanguage]
    (node : Node) : Prop := ∀ place ∈ node.nodes [], place.2.Configured

/-- All nodes below a tuple are configured when those of each position are. -/
theorem forall_positionNodes_iff [PatternLanguage] (positions : List Node) : ∀ i,
    (∀ place ∈ positionNodes positions [] i, place.2.Configured) ↔
      ∀ child ∈ positions, child.AllConfigured := by
  induction positions with
  | nil => simp [positionNodes]
  | cons child rest ih =>
    intro i
    unfold positionNodes
    rw [List.forall_mem_append, List.forall_mem_cons, ih (i + 1)]
    exact and_congr_left' (child.forall_configured_iff _ _)

/-- All nodes below an object are configured when those of each property are. -/
theorem forall_propertyNodes_iff [PatternLanguage] (properties : List (String × Node)) :
    (∀ place ∈ propertyNodes properties [], place.2.Configured) ↔
      ∀ child ∈ properties.map Prod.snd, child.AllConfigured := by
  induction properties with
  | nil => simp [propertyNodes]
  | cons entry rest ih =>
    unfold propertyNodes
    rw [List.forall_mem_append, List.map_cons, List.forall_mem_cons, ih]
    exact and_congr_left' (entry.2.forall_configured_iff _ _)

/-- All nodes of a tree are configured when its root is and those of each child are. -/
theorem allConfigured_iff [PatternLanguage] (node : Node) :
    node.AllConfigured ↔ node.Configured ∧ ∀ child ∈ node.children, child.AllConfigured := by
  cases node with
  | leaf attrs rule => simp [AllConfigured, nodes, children]
  | arrayOf attrs lengths item =>
    conv_lhs => unfold AllConfigured nodes
    rw [List.forall_mem_append, List.forall_mem_singleton, item.forall_configured_iff _ [],
      and_comm]
    exact and_congr_right' (List.forall_mem_singleton (p := AllConfigured)).symm
  | tuple attrs lengths positions =>
    conv_lhs => unfold AllConfigured nodes
    rw [List.forall_mem_append, List.forall_mem_singleton, forall_positionNodes_iff, and_comm]
    rfl
  | object attrs allowExtra properties =>
    conv_lhs => unfold AllConfigured nodes
    rw [List.forall_mem_append, List.forall_mem_singleton, forall_propertyNodes_iff, and_comm]
    rfl

/-- The same holds of all elements of two lists if it does of those that go together. -/
theorem forall_mem_iff_of_forall₂ {α : Type} {R : α → α → Prop} {P : α → Prop} {l l' : List α}
    (h : List.Forall₂ R l l') (hP : ∀ a ∈ l, ∀ a', R a a' → (P a ↔ P a')) :
    (∀ a ∈ l, P a) ↔ ∀ a ∈ l', P a := by
  induction h with
  | nil => exact Iff.rfl
  | cons hfirst _ ih =>
    rw [List.forall_mem_cons] at hP
    rw [List.forall_mem_cons, List.forall_mem_cons]
    exact and_congr (hP.1 _ hfirst) (ih hP.2)

/-- A property of nodes holds of a node and of all nodes below it. -/
def Throughout (P : Node → Prop) (node : Node) : Prop :=
  ∀ trail target, node.Reaches trail target → P target

/-- What holds throughout a tree holds of its root. -/
theorem Throughout.own {P : Node → Prop} {node : Node} (h : node.Throughout P) : P node :=
  h [] node (.here node)

/-- What holds throughout a tree is what holds of its root and throughout the trees of its
children. -/
theorem throughout_iff (P : Node → Prop) (node : Node) :
    node.Throughout P ↔ P node ∧ ∀ child ∈ node.children, child.Throughout P := by
  constructor
  · intro h
    refine ⟨h.own, fun child hchild trail target hbelow => ?_⟩
    cases node with
    | leaf attrs rule => cases hchild
    | arrayOf attrs lengths item =>
      obtain rfl := List.mem_singleton.1 hchild
      exact h _ target (.element attrs lengths child target 0 trail hbelow)
    | tuple attrs lengths positions =>
      obtain ⟨i, hi⟩ := List.mem_iff_getElem?.1 hchild
      exact h _ target (.position attrs lengths positions child target i trail hi hbelow)
    | object attrs allowExtra properties =>
      obtain ⟨⟨name, child⟩, hentry, rfl⟩ := List.mem_map.1 hchild
      exact h _ target (.property attrs allowExtra properties child target name trail hentry hbelow)
  · rintro ⟨hnode, hchildren⟩ trail target hreaches
    cases hreaches with
    | here => exact hnode
    | element _ _ item _ _ rest hbelow =>
      exact hchildren item (List.mem_singleton_self item) rest target hbelow
    | position _ _ _ child _ _ rest hdeclared hbelow =>
      exact hchildren child (List.mem_of_getElem? hdeclared) rest target hbelow
    | property _ _ _ child _ _ rest hdeclared hbelow =>
      exact hchildren child (List.mem_map_of_mem hdeclared) rest target hbelow

/-- What holds of all nodes of a tree holds throughout it. -/
theorem throughout_of_nodes (node : Node) (P : Node → Prop) (h : ∀ place ∈ node.nodes [], P place.2) :
    node.Throughout P :=
  fun trail target hreach => h _ (node.mem_nodes_of_reaches target trail hreach [])

/-- What holds of a leaf holds throughout it. -/
theorem throughout_leaf (P : Node → Prop) (attrs : Attributes) (rule : LeafRule)
    (h : P (leaf attrs rule)) : (leaf attrs rule).Throughout P :=
  (throughout_iff P _).2 ⟨h, fun _ hchild => nomatch hchild⟩

end Node

/-- A schema compiles when the names for extra arguments are in order and all nodes are
configured. -/
theorem Schema.compiles_iff [PatternLanguage] (s : Schema) (extraParams : List String) :
    (∃ v, s.compile extraParams = .ok v) ↔
      (∀ name ∈ extraParams, IsIdentifier name) ∧ extraParams.Nodup ∧ s.node.AllConfigured := by
  simp only [compile_eq_ok_iff, exists_and_left, exists_eq', and_true]
  exact s.defects_eq_nil_iff extraParams

/-! ## Slots -/

/-- Lists that go together one by one still do so when each element is made into another one with the
help of its position. -/
theorem forall₂_mapIdx_of_forall₂ {α β γ δ : Type} {R : α → β → Prop} {S : γ → δ → Prop}
    {f : Nat → α → γ} {g : Nat → β → δ} {xs : List α} {ys : List β} (h : List.Forall₂ R xs ys)
    (hS : ∀ i x y, R x y → S (f i x) (g i y)) : List.Forall₂ S (xs.mapIdx f) (ys.mapIdx g) := by
  obtain ⟨hlength, helements⟩ := List.forall₂_iff_get.1 h
  refine List.forall₂_iff_get.2 ⟨by simpa using hlength, fun i hi hi' => ?_⟩
  rw [List.length_mapIdx] at hi hi'
  simpa using hS i _ _ (helements i hi hi')

/-- A slot below a node at a value: the move that leads to it, the child that it belongs to, and the
value that stands in it, if any does. -/
structure Slot where
  move : Move
  node : Node
  value? : Option Value

/-- The slot is passed over. -/
def Slot.isPassedOver (p : Slot) : Bool := p.node.passesOver p.value?

/-- Slots that are both optional or both required, and both empty or both filled, are passed over
alike. -/
theorem Slot.isPassedOver_congr (p p' : Slot)
    (hoptional : p.node.attrs.optional = p'.node.attrs.optional)
    (habsent : p.value?.isNone = p'.value?.isNone) : p.isPassedOver = p'.isPassedOver := by
  unfold isPassedOver Node.passesOver
  rw [hoptional, habsent]

/-- What is reported of a slot that is read. -/
def Slot.reports [PatternLanguage] (extras : Extras) (trail : Trail) (p : Slot) : List Report :=
  p.node.reports extras (trail ++ [p.move]) p.value?

namespace Node

/-- The slots below a node at a value, in the order of the items, positions or properties. -/
def slots : Node → Value → List Slot
  | leaf _ _, _ => []
  | arrayOf _ _ item, v => (v.list?.getD []).mapIdx fun i x => ⟨.element i, item, some x⟩
  | tuple _ _ positions, v => positions.mapIdx fun i child => ⟨.position i, child, v.item? i⟩
  | object _ _ properties, v => properties.map fun e => ⟨.property e.1, e.2, v.get? e.1⟩

/-- All slots below the node belong to one child. -/
def sharesItem : Node → Bool
  | arrayOf _ _ _ => true
  | _ => false

/-- The slots that are not passed over. -/
def readSlots (node : Node) (v : Value) : List Slot :=
  (node.slots v).filter fun p => !p.isPassedOver

end Node

/-- Lists put together, or the last nonempty one if they come from slots that share a node. -/
def gather {α : Type} (shared : Bool) (lists : List (List α)) : List α :=
  if shared then lastNonempty lists else lists.flatten

/-- A function on the elements can be applied before or after. -/
theorem map_gather {α β : Type} (g : α → β) (shared : Bool) (lists : List (List α)) :
    (gather shared lists).map g = gather shared (lists.map (List.map g)) := by
  cases shared with
  | false => exact List.map_flatten
  | true => exact map_lastNonempty g lists

/-- A slot belongs to a child. -/
theorem Node.mem_children_of_mem_slots (node : Node) (v : Value) (p : Slot)
    (h : p ∈ node.slots v) : p.node ∈ node.children := by
  cases node with
  | leaf attrs rule => cases h
  | arrayOf attrs lengths item =>
    obtain ⟨i, hi, rfl⟩ := List.mem_mapIdx.1 h
    exact List.mem_singleton_self item
  | tuple attrs lengths positions =>
    obtain ⟨i, hi, rfl⟩ := List.mem_mapIdx.1 h
    exact List.getElem_mem hi
  | object attrs allowExtra properties =>
    obtain ⟨entry, hentry, rfl⟩ := List.mem_map.1 h
    exact List.mem_map_of_mem hentry

/-- The move to a slot finds what stands in it. -/
theorem Node.value?_of_mem_slots (node : Node) (v : Value) (p : Slot) (h : p ∈ node.slots v) :
    p.value? = p.move.find? v := by
  cases node with
  | leaf attrs rule => cases h
  | arrayOf attrs lengths item =>
    obtain ⟨i, hi, rfl⟩ := List.mem_mapIdx.1 h
    cases v with
    | list items => exact (List.getElem?_eq_getElem hi).symm
    | _ => exact absurd hi (Nat.not_lt_zero i)
  | tuple attrs lengths positions =>
    obtain ⟨i, hi, rfl⟩ := List.mem_mapIdx.1 h
    rfl
  | object attrs allowExtra properties =>
    obtain ⟨entry, hentry, rfl⟩ := List.mem_map.1 h
    rfl

/-- What is below the child of a slot is below the node, one move further down. -/
theorem Node.reaches_of_mem_slots (node : Node) (v : Value) (p : Slot) (h : p ∈ node.slots v)
    (trail : Trail) (target : Node) (hbelow : p.node.Reaches trail target) :
    node.Reaches (p.move :: trail) target := by
  cases node with
  | leaf attrs rule => cases h
  | arrayOf attrs lengths item =>
    obtain ⟨i, hi, rfl⟩ := List.mem_mapIdx.1 h
    exact .element attrs lengths item target i trail hbelow
  | tuple attrs lengths positions =>
    obtain ⟨i, hi, rfl⟩ := List.mem_mapIdx.1 h
    exact .position attrs lengths positions _ target i trail (List.getElem?_eq_getElem hi) hbelow
  | object attrs allowExtra properties =>
    obtain ⟨entry, hentry, rfl⟩ := List.mem_map.1 h
    exact .property attrs allowExtra properties entry.2 target entry.1 trail hentry hbelow

/-- What holds throughout a tree holds throughout the child of a slot. -/
theorem Node.Throughout.of_mem_slots {P : Node → Prop} {node : Node} (h : node.Throughout P)
    (v : Value) (p : Slot) (hp : p ∈ node.slots v) : p.node.Throughout P :=
  fun trail target hbelow => h _ target (node.reaches_of_mem_slots v p hp trail target hbelow)

/-- The slots that are read are those that are not passed over. -/
theorem Node.mem_readSlots_iff (node : Node) (v : Value) (p : Slot) :
    p ∈ node.readSlots v ↔ p ∈ node.slots v ∧ p.isPassedOver = false := by
  unfold readSlots
  rw [List.mem_filter, Bool.not_eq_true']

/-- Slots that are read are slots. -/
theorem Node.mem_slots_of_mem_readSlots (node : Node) (v : Value) (p : Slot)
    (h : p ∈ node.readSlots v) : p ∈ node.slots v :=
  ((node.mem_readSlots_iff v p).1 h).1

/-- No item of an array is passed over. -/
theorem Node.readSlots_arrayOf (attrs : Attributes) (lengths : LengthBounds) (item : Node)
    (v : Value) :
    (arrayOf attrs lengths item).readSlots v = (arrayOf attrs lengths item).slots v := by
  unfold readSlots
  refine List.filter_eq_self.2 fun p hp => ?_
  obtain ⟨i, hi, rfl⟩ := List.mem_mapIdx.1 hp
  rfl

/-- Nothing is reported of a slot that is read exactly when what stands in it fits. -/
theorem Slot.reports_eq_nil_iff [PatternLanguage] (p : Slot) (extras : Extras) (trail : Trail)
    (h : p.isPassedOver = false) : p.reports extras trail = [] ↔ p.node.Fits extras p.value? := by
  have hplace := p.node.place_eq_nil_iff extras (trail ++ [p.move]) p.value? fun v =>
    p.node.reports_eq_nil_iff extras _ v
  have hread : p.node.passesOver p.value? = false := h
  rw [hread] at hplace
  exact hplace

/-- A slot in front reports what is in it, unless it is passed over. -/
theorem Slot.flatten_read_cons [PatternLanguage]
    (p : Slot) (rest : List Slot) (extras : Extras) (trail : Trail) :
    (((p :: rest).filter fun p => !p.isPassedOver).map (Slot.reports extras trail)).flatten =
      (if p.node.passesOver p.value? then [] else p.reports extras trail) ++
        ((rest.filter fun p => !p.isPassedOver).map (Slot.reports extras trail)).flatten := by
  have hpassed : p.node.passesOver p.value? = p.isPassedOver := rfl
  rw [hpassed, List.filter_cons]
  cases p.isPassedOver <;> rfl

/-! ## The reports of a node -/

namespace Node

/-- A node that reports itself reports nothing else. -/
theorem reports_of_report? [PatternLanguage]
    (node : Node) (extras : Extras) (trail : Trail) (value? : Option Value)
    (r : Report) (h : node.report? extras trail value? = some r) :
    node.reports extras trail value? = [r] := by
  cases node <;> (unfold reports; rw [h])
  rfl

/-- A node reports something of an absent value, so a value of which it reports nothing is there. -/
theorem exists_of_report?_eq_none [PatternLanguage] (node : Node) (extras : Extras) (trail : Trail)
    (value? : Option Value) (h : node.report? extras trail value? = none) :
    ∃ v, value? = some v := by
  cases value? with
  | none => cases h
  | some v => exact ⟨v, rfl⟩

/-- The positions of a tuple report what the slots that are read do. -/
theorem positionReports_eq_flatten [PatternLanguage] (extras : Extras) (trail : Trail) (v : Value)
    (positions : List Node) : ∀ i,
    positionReports extras positions trail (some v) i =
      (((positions.mapIdx fun j child => Slot.mk (.position (i + j)) child (v.item? (i + j))).filter
        fun p => !p.isPassedOver).map (Slot.reports extras trail)).flatten := by
  induction positions with
  | nil => exact fun _ => rfl
  | cons child rest ih =>
    intro i
    have hrest := ih (i + 1)
    simp only [Nat.add_right_comm i 1, Nat.add_assoc i] at hrest
    unfold positionReports
    rw [List.mapIdx_cons, Slot.flatten_read_cons, hrest]
    rfl

/-- The properties of an object report what the slots that are read do. -/
theorem propertyReports_eq_flatten [PatternLanguage] (extras : Extras) (trail : Trail) (v : Value)
    (properties : List (String × Node)) :
    propertyReports extras properties trail (some v) =
      (((properties.map fun e => Slot.mk (.property e.1) e.2 (v.get? e.1)).filter
        fun p => !p.isPassedOver).map (Slot.reports extras trail)).flatten := by
  induction properties with
  | nil => rfl
  | cons entry rest ih =>
    unfold propertyReports
    rw [List.map_cons, Slot.flatten_read_cons, ih]
    rfl

/-- A node that finds nothing wrong with a value itself reports what the slots below do. -/
theorem reports_of_holds [PatternLanguage]
    (node : Node) (extras : Extras) (trail : Trail) (v : Value)
    (h : node.Holds extras v) :
    node.reports extras trail (some v) =
      gather node.sharesItem ((node.readSlots v).map (Slot.reports extras trail)) := by
  have hown := (node.report?_eq_none_iff extras trail v).2 h
  cases node with
  | leaf attrs rule =>
    unfold reports
    rw [hown]
    rfl
  | arrayOf attrs lengths item =>
    unfold reports
    rw [hown, readSlots_arrayOf]
    show lastNonempty _ = lastNonempty (List.map _ (List.mapIdx _ _))
    rw [List.mapIdx_eq_zipIdx_map, List.mapIdx_eq_zipIdx_map, List.map_map]
    rfl
  | tuple attrs lengths positions =>
    have hpositions := positionReports_eq_flatten extras trail v positions 0
    simp only [Nat.zero_add] at hpositions
    unfold reports
    rw [hown]
    exact hpositions
  | object attrs allowExtra properties =>
    unfold reports
    rw [hown]
    exact propertyReports_eq_flatten extras trail v properties

end Node

end DataShape
