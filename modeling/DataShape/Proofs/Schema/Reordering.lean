import DataShape.Proofs.Entries
import DataShape.Proofs.Validator.Slots

/-!
# Schemas that differ in the order of their properties

An object declares its properties in an order, and so does each object further down. `Node.Reordered`
relates two trees that differ in nothing else. The children of an object are first related one by one,
under the same names, and then put into another order.

Each node has the same defects in both trees, though not in the same place of the order in which
defects are listed. So both schemas compile or neither does (`Node.Reordered.allConfigured_iff`).
-/

namespace DataShape

namespace Node

/-- Two trees that differ only in the order in which objects declare their properties. -/
inductive Reordered : Node → Node → Prop
  | leaf (attrs : Attributes) (rule : LeafRule) : Reordered (.leaf attrs rule) (.leaf attrs rule)
  | arrayOf (attrs : Attributes) (lengths : LengthBounds) (item item' : Node)
      (below : Reordered item item') :
      Reordered (.arrayOf attrs lengths item) (.arrayOf attrs lengths item')
  | tuple (attrs : Attributes) (lengths : LengthBounds) (positions positions' : List Node)
      (below : List.Forall₂ Reordered positions positions') :
      Reordered (.tuple attrs lengths positions) (.tuple attrs lengths positions')
  | object (attrs : Attributes) (allowExtra : Bool)
      (properties between properties' : List (String × Node))
      (names : Entries.keys properties = Entries.keys between)
      (below : List.Forall₂ Reordered (properties.map Prod.snd) (between.map Prod.snd))
      (order : between.Perm properties') :
      Reordered (.object attrs allowExtra properties) (.object attrs allowExtra properties')

/-- The names of the properties of an object, in the order in which they are declared. -/
def propertyNames : Node → List String
  | object _ _ properties => Entries.keys properties
  | _ => []

namespace Reordered

variable {node node' : Node} (h : Reordered node node')

include h

/-- The attributes are the same. -/
theorem attrs_eq : node.attrs = node'.attrs := by
  cases h <;> rfl

/-- Slots are shared in both trees or in neither. -/
theorem sharesItem_eq : node.sharesItem = node'.sharesItem := by
  cases h <;> rfl

/-- Objects declare the same names. -/
theorem propertyNames_perm : node.propertyNames.Perm node'.propertyNames := by
  cases h with
  | object attrs allowExtra properties between properties' names below order =>
    show (Entries.keys properties).Perm (Entries.keys properties')
    rw [names]
    exact order.map Prod.fst
  | _ => exact .refl _

/-- The rules are the same, but for the order of the keys that an object may have. -/
theorem rule_eq_or : node.rule = node'.rule ∨
    ∃ allowed allowed', node.rule = .object (some allowed) ∧
      node'.rule = .object (some allowed') ∧ allowed.Perm allowed' := by
  have hnames := h.propertyNames_perm
  cases h with
  | object attrs allowExtra properties between properties' =>
    cases allowExtra with
    | true => exact .inl rfl
    | false => exact .inr ⟨_, _, rfl, rfl, hnames⟩
  | _ => exact .inl rfl

/-- The children go together one by one, and are then put into another order. -/
theorem children_reordered :
    ∃ between, List.Forall₂ Reordered node.children between ∧ between.Perm node'.children := by
  cases h with
  | leaf => exact ⟨[], .nil, .nil⟩
  | arrayOf _ _ item item' below => exact ⟨[item'], .cons below .nil, .refl _⟩
  | tuple _ _ positions positions' below => exact ⟨positions', below, .refl _⟩
  | object _ _ properties between properties' _ below order =>
    exact ⟨between.map Prod.snd, below, order.map Prod.snd⟩

/-- Both nodes are tuples without positions or neither is. -/
theorem isEmptyTuple_eq : node.isEmptyTuple = node'.isEmptyTuple := by
  cases h with
  | tuple _ _ positions positions' below => cases below <;> rfl
  | _ => rfl

/-- Both nodes have the same defects of their own. -/
theorem ownDefects_eq [PatternLanguage]
    (path : FieldPath) : node.ownDefects path = node'.ownDefects path := by
  have hdefects : node.rule.defects path = node'.rule.defects path := by
    rcases h.rule_eq_or with hrule | ⟨allowed, allowed', hrule, hrule', -⟩
    · rw [hrule]
    · -- The rule of an object has no defects, whatever keys are allowed.
      rw [hrule, hrule']
      rfl
  unfold ownDefects
  rw [h.isEmptyTuple_eq, hdefects]

/-- Both nodes are configured or neither is. -/
theorem configured_iff [PatternLanguage] : node.Configured ↔ node'.Configured := by
  rw [← node.ownDefects_eq_nil_iff .root, ← node'.ownDefects_eq_nil_iff .root, h.ownDefects_eq]

end Reordered

/-- All nodes are configured in both trees or in neither. -/
theorem Reordered.allConfigured_iff [PatternLanguage]
    (node : Node) : ∀ node', Reordered node node' →
    (node.AllConfigured ↔ node'.AllConfigured) := by
  induction node using Node.inductionOnChildren with
  | step node ih =>
    intro node' h
    obtain ⟨between, hbelow, horder⟩ := h.children_reordered
    have hchildren : (∀ child ∈ node.children, child.AllConfigured) ↔
        ∀ child ∈ between, child.AllConfigured := forall_mem_iff_of_forall₂ hbelow ih
    rw [node.allConfigured_iff, node'.allConfigured_iff, h.configured_iff, hchildren]
    exact and_congr_right' (forall_congr' fun child => by rw [horder.mem_iff])

end Node

end DataShape
