import DataShape.Proofs.Entries
import DataShape.Proofs.Schema.FaultPaths
import DataShape.Proofs.Validator.Slots

/-!
# Removing a property from a schema

`Schema.withoutPropertyAt` removes a property from the object that steps from the root lead to. All
nodes on the way there get another child in the place of the old one (`Node.replaceChild`) and are
otherwise what they were: their attributes and their rules are the same, and so are the values that
stand in the slots below them (`Node.forall₂_slots_replaceChild`). No defect can come in that way,
so the schema still compiles (`Schema.compiles_withoutPropertyAt`).
-/

namespace DataShape

/-! ## The edited tree -/

/-- A slot of the child that a step leads to is now one of another child, or it stays as it is. -/
def Slot.Replaced (step : PathStep) (child child' : Node) (p p' : Slot) : Prop :=
  p' = p ∨ p.move.step = step ∧ p.node = child ∧ p' = { p with node := child' }

namespace Node

/-- The node with another child in the place that a step leads to. -/
def replaceChild : Node → PathStep → Node → Node
  | object attrs allowExtra properties, .property name, child =>
    object attrs allowExtra (Entries.insert name child properties)
  | tuple attrs lengths positions, .position i, child => tuple attrs lengths (positions.set i child)
  | arrayOf attrs lengths _, .items, child => arrayOf attrs lengths child
  | node, _, _ => node

/-- The object without a property, the others keeping their order. -/
def withoutProperty : Node → String → Node
  | object attrs allowExtra properties, name =>
    object attrs allowExtra (Entries.erase properties name)
  | node, _ => node

/-- The tree without a property of the object that steps lead to. -/
def withoutPropertyAt (name : String) : Node → List PathStep → Node
  | node, [] => node.withoutProperty name
  | node, step :: rest =>
    match node.child? step with
    | some child => node.replaceChild step (child.withoutPropertyAt name rest)
    | none => node

/-- Further down, the property is removed from the child that the first step leads to. -/
theorem withoutPropertyAt_cons (name : String) (node child : Node) (step : PathStep)
    (rest : List PathStep) (h : node.child? step = some child) :
    node.withoutPropertyAt name (step :: rest) =
      node.replaceChild step (child.withoutPropertyAt name rest) := by
  conv_lhs => unfold withoutPropertyAt
  rw [h]

section

variable (node child : Node) (step : PathStep) (child' : Node)

/-- A node with another child has the attributes of the node. -/
@[simp]
theorem attrs_replaceChild : (node.replaceChild step child').attrs = node.attrs := by
  cases node <;> cases step <;> rfl

/-- A node with another child shares its slots if the node does. -/
@[simp]
theorem sharesItem_replaceChild : (node.replaceChild step child').sharesItem = node.sharesItem := by
  cases node <;> cases step <;> rfl

/-- A node with another child in the place of one that it has asks the same of the value itself. -/
theorem rule_replaceChild (h : node.child? step = some child) :
    (node.replaceChild step child').rule = node.rule := by
  cases node with
  | object attrs allowExtra properties =>
    cases step with
    | property name =>
      have hkeys := Entries.keys_insert_of_find? properties name child' child h
      show Rule.object (if allowExtra then none else some (Entries.keys _)) = _
      rw [hkeys]
      rfl
    | _ => rfl
  | _ => cases step <;> rfl

/-- The slots below an edited node are those below the node, with the new child in the place of the
old one. -/
theorem forall₂_slots_replaceChild (h : node.child? step = some child) (v : Value) :
    List.Forall₂ (Slot.Replaced step child child') (node.slots v)
      ((node.replaceChild step child').slots v) := by
  cases node with
  | leaf attrs rule => cases step <;> cases h
  | arrayOf attrs lengths item =>
    cases step with
    | items =>
      obtain rfl := Option.some.inj h
      exact forall₂_mapIdx _ _ (v.list?.getD []) fun _ _ _ => Or.inr ⟨rfl, rfl, rfl⟩
    | property name => cases h
    | position i => cases h
  | tuple attrs lengths positions =>
    cases step with
    | position i =>
      obtain ⟨hi, rfl⟩ := List.getElem?_eq_some_iff.1 (show positions[i]? = some child from h)
      show List.Forall₂ _ (List.mapIdx _ _) (List.mapIdx _ (List.set _ _ _))
      refine List.forall₂_iff_get.2 ⟨by simp, fun j hj hj' => ?_⟩
      simp only [List.get_eq_getElem, List.getElem_mapIdx, List.getElem_set]
      by_cases hij : i = j
      · subst hij
        exact Or.inr ⟨rfl, rfl, by rw [if_pos rfl]⟩
      · exact Or.inl (by rw [if_neg hij])
    | property name => cases h
    | items => cases h
  | object attrs allowExtra properties =>
    cases step with
    | property name =>
      obtain ⟨front, back, rfl, hfront⟩ := Entries.exists_split_of_find? properties name child h
      show List.Forall₂ _ (List.map _ _) (List.map _ (Entries.insert _ _ _))
      rw [Entries.insert_append_cons front back name child hfront, List.forall₂_map_left_iff,
        List.forall₂_map_right_iff]
      refine List.rel_append ?_ (.cons (Or.inr ⟨rfl, rfl, rfl⟩) ?_)
      · exact List.forall₂_same.2 fun _ _ => Or.inl rfl
      · exact List.forall₂_same.2 fun _ _ => Or.inl rfl
    | position i => cases h
    | items => cases h

/-- The child that a step leads to is a child. -/
theorem mem_children_of_child? (h : node.child? step = some child) : child ∈ node.children := by
  cases node with
  | leaf attrs rule => cases step <;> cases h
  | arrayOf attrs lengths item =>
    cases step with
    | items => exact List.mem_singleton.2 (Option.some.inj h).symm
    | property name => cases h
    | position i => cases h
  | tuple attrs lengths positions =>
    cases step with
    | position i => exact List.mem_of_getElem? h
    | property name => cases h
    | items => cases h
  | object attrs allowExtra properties =>
    cases step with
    | property name => exact List.mem_map_of_mem (Entries.mem_of_find? properties name child h)
    | position i => cases h
    | items => cases h

/-- A child of an edited node is the new child or one of the node. -/
theorem mem_children_replaceChild (h : node.child? step = some child) (other : Node)
    (hother : other ∈ (node.replaceChild step child').children) :
    other = child' ∨ other ∈ node.children := by
  cases node with
  | leaf attrs rule => cases step <;> cases h
  | arrayOf attrs lengths item =>
    cases step with
    | items => exact Or.inl (List.mem_singleton.1 hother)
    | property name => cases h
    | position i => cases h
  | tuple attrs lengths positions =>
    cases step with
    | position i => exact (List.mem_or_eq_of_mem_set hother).symm
    | property name => cases h
    | items => cases h
  | object attrs allowExtra properties =>
    cases step with
    | property name =>
      obtain ⟨front, back, rfl, hfront⟩ := Entries.exists_split_of_find? properties name child h
      obtain ⟨entry, hentry, rfl⟩ := List.mem_map.1 hother
      have hmem : entry ∈ front ++ (name, child') :: back :=
        Entries.insert_append_cons front back name child hfront child' ▸ hentry
      rcases List.mem_append.1 hmem with hmem | hmem
      · exact Or.inr (List.mem_map_of_mem (List.mem_append_left _ hmem))
      · rcases List.mem_cons.1 hmem with rfl | hmem
        · exact Or.inl rfl
        · exact Or.inr (List.mem_map_of_mem (List.mem_append_right _ (List.mem_cons_of_mem _ hmem)))
    | position i => cases h
    | items => cases h

/-- A node with another child in the place of one that it has is configured if the node is. -/
theorem configured_replaceChild [PatternLanguage]
    (h : node.child? step = some child) (hnode : node.Configured) :
    (node.replaceChild step child').Configured := by
  have hrule := node.rule_replaceChild child step child' h
  refine hnode.of_rule_eq hrule fun attrs lengths hempty => ?_
  -- A tuple with a child has a position.
  cases node with
  | tuple attrs' lengths' positions =>
    cases step with
    | position i =>
      obtain ⟨-, -, hset⟩ := Node.tuple.inj hempty
      obtain rfl := (List.set_eq_nil_iff i child').1 hset
      cases h
    | property name => cases h
    | items => cases h
  | leaf attrs' rule => cases step <;> cases h
  | arrayOf attrs' lengths' item => cases step <;> cases hempty
  | object attrs' allowExtra properties => cases step <;> cases hempty

end

/-- Removing a property leaves the attributes as they are. -/
@[simp]
theorem attrs_withoutPropertyAt (name : String) (node : Node) (steps : List PathStep) :
    (node.withoutPropertyAt name steps).attrs = node.attrs := by
  cases steps with
  | nil => cases node <;> rfl
  | cons step rest =>
    unfold withoutPropertyAt
    cases node.child? step with
    | none => rfl
    | some child => exact node.attrs_replaceChild step _

/-- Removing a property leaves no node unconfigured. -/
theorem allConfigured_withoutPropertyAt [PatternLanguage]
    (name : String) (steps : List PathStep) : ∀ node : Node,
    node.AllConfigured → (node.withoutPropertyAt name steps).AllConfigured := by
  induction steps with
  | nil =>
    intro node hnode
    cases node with
    | object attrs allowExtra properties =>
      rw [allConfigured_iff] at hnode ⊢
      refine ⟨configured_object _ _ _, fun child hchild => hnode.2 child ?_⟩
      obtain ⟨entry, hentry, rfl⟩ := List.mem_map.1 hchild
      exact List.mem_map_of_mem (List.mem_of_mem_eraseP hentry)
    | _ => exact hnode
  | cons step rest ih =>
    intro node hnode
    unfold withoutPropertyAt
    cases hchild : node.child? step with
    | none => exact hnode
    | some child =>
      rw [allConfigured_iff] at hnode ⊢
      refine ⟨node.configured_replaceChild child step _ hchild hnode.1, fun other hother => ?_⟩
      rcases node.mem_children_replaceChild child step _ hchild other hother with rfl | hother
      · exact ih child (hnode.2 child (node.mem_children_of_child? child step hchild))
      · exact hnode.2 other hother

end Node

/-! ## The edited schema -/

namespace Schema

/-- The schema without a property of the object that steps from the root lead to. -/
def withoutPropertyAt (s : Schema) (steps : List PathStep) (name : String) : Schema :=
  match steps with
  | [] => s.withoutProperty name
  | .property first :: rest =>
    match Entries.find? s.properties first with
    | some child => s.withProperty first (child.withoutPropertyAt name rest)
    | none => s
  | _ => s

/-- The root of the edited schema. -/
theorem node_withoutPropertyAt (s : Schema) (steps : List PathStep) (name : String) :
    (s.withoutPropertyAt steps name).node = s.node.withoutPropertyAt name steps := by
  match steps with
  | [] => rfl
  | .property first :: rest =>
    have hschema : s.withoutPropertyAt (.property first :: rest) name =
        match Entries.find? s.properties first with
        | some child => s.withProperty first (child.withoutPropertyAt name rest)
        | none => s := rfl
    have hnode : s.node.withoutPropertyAt name (.property first :: rest) =
        match Entries.find? s.properties first with
        | some child => s.node.replaceChild (.property first) (child.withoutPropertyAt name rest)
        | none => s.node := rfl
    rw [hschema, hnode]
    cases Entries.find? s.properties first <;> rfl
  | .position i :: rest => rfl
  | .items :: rest => rfl

/-- A schema that compiles still does without a property. -/
theorem compiles_withoutPropertyAt [PatternLanguage]
    (s : Schema) (extraParams : List String) (steps : List PathStep)
    (name : String) (h : ∃ v, s.compile extraParams = .ok v) :
    ∃ v, (s.withoutPropertyAt steps name).compile extraParams = .ok v := by
  rw [compiles_iff] at h ⊢
  rw [node_withoutPropertyAt]
  exact ⟨h.1, h.2.1, s.node.allConfigured_withoutPropertyAt name steps h.2.2⟩

end Schema

end DataShape
