import DataShape.Proofs.Schema.Reading
import DataShape.Proofs.Validator.Lowering

/-!
# Steps in a document, its schema and its plan

The same steps lead to a node in three trees: the document (`Descriptor.documentAt?`), the schema that
it spells (`Node.at?`) and the plan of the schema (`Plan.at?`). One step in the document is one step in
the schema (`child?_spelled`), and one step in the schema is one step in the plan, under a path that is
one step longer (`Node.child?_plan`). The theorems about `at?` follow by induction on the steps.

Steps find the first of several properties with one name.
-/

namespace DataShape

/-! ## Steps in a schema and in its plan -/

namespace Node

/-- The child that a step leads to. -/
def child? : Node → PathStep → Option Node
  | object _ _ properties, .property name => Entries.find? properties name
  | tuple _ _ positions, .position i => positions[i]?
  | arrayOf _ _ item, .items => some item
  | _, _ => none

/-- The node that steps lead to. -/
def at? : Node → List PathStep → Option Node
  | node, [] => some node
  | node, step :: rest => (node.child? step).bind (·.at? rest)

end Node

namespace Plan

/-- The plan of the child that a step leads to. -/
def child? : Plan → PathStep → Option Plan
  | properties _ plans, .property name => Entries.find? plans name
  | positions _ plans, .position i => plans[i]?
  | each _ item, .items => some item
  | _, _ => none

/-- The plan that steps lead to. -/
def at? : Plan → List PathStep → Option Plan
  | plan, [] => some plan
  | plan, step :: rest => (plan.child? step).bind (·.at? rest)

end Plan

namespace Node

/-- The plan under a name is that of the property. -/
theorem find?_propertyPlans [PatternLanguage]
    (properties : List (String × Node)) (path : FieldPath) (name : String) :
    Entries.find? (propertyPlans properties path) name =
      (Entries.find? properties name).map fun child => child.plan (path.child (.property name)) := by
  induction properties with
  | nil => rfl
  | cons entry rest ih =>
    unfold Entries.find? at ih ⊢
    unfold propertyPlans
    rw [List.lookup_cons, List.lookup_cons, ih]
    cases hname : name == entry.1 with
    | true => rw [eq_of_beq hname]; rfl
    | false => rfl

/-- The plan at a position is that of the node there. -/
theorem getElem?_positionPlans [PatternLanguage]
    (positions : List Node) (path : FieldPath) : ∀ j i : Nat,
    (positionPlans positions path j)[i]? =
      positions[i]?.map fun child => child.plan (path.child (.position (j + i))) := by
  induction positions with
  | nil =>
    intro j i
    rfl
  | cons node rest ih =>
    intro j i
    unfold positionPlans
    cases i with
    | zero => rfl
    | succ i =>
      rw [List.getElem?_cons_succ, List.getElem?_cons_succ, ih, Nat.add_right_comm, Nat.add_assoc]

/-- A step in a schema is a step in its plan, where the path is one step longer. -/
theorem child?_plan [PatternLanguage]
    (node child : Node) (step : PathStep) (h : node.child? step = some child)
    (path : FieldPath) : (node.plan path).child? step = some (child.plan (path.child step)) := by
  cases node with
  | leaf attrs rule => cases step <;> cases h
  | arrayOf attrs lengths item =>
    cases step with
    | items =>
      obtain rfl := Option.some.inj h
      rfl
    | property name => cases h
    | position i => cases h
  | tuple attrs lengths positions =>
    cases step with
    | position i =>
      have hfind : positions[i]? = some child := h
      show (positionPlans positions path 0)[i]? = _
      rw [getElem?_positionPlans, hfind, Nat.zero_add]
      rfl
    | property name => cases h
    | items => cases h
  | object attrs allowExtra properties =>
    cases step with
    | property name =>
      have hfind : Entries.find? properties name = some child := h
      show Entries.find? (propertyPlans properties path) name = _
      rw [find?_propertyPlans, hfind]
      rfl
    | position i => cases h
    | items => cases h

/-- Steps in a schema are steps in its plan, where they make the path longer. -/
theorem at?_plan [PatternLanguage]
    (steps : List PathStep) : ∀ (node target : Node) (path : FieldPath),
    node.at? steps = some target →
      (node.plan path).at? steps = some (target.plan (steps.foldl FieldPath.child path)) := by
  -- The plan of a child has the path of the child, so the statement is about any path.
  induction steps with
  | nil =>
    intro node target path h
    obtain rfl := Option.some.inj h
    rfl
  | cons step rest ih =>
    intro node target path h
    obtain ⟨child, hchild, htarget⟩ := Option.bind_eq_some_iff.1 h
    unfold Plan.at?
    rw [child?_plan node child step hchild path]
    exact ih child target (path.child step) htarget

/-- The nodes of a child are nodes of the tree. -/
theorem mem_nodes_of_child? (node child : Node) (step : PathStep) (h : node.child? step = some child)
    (steps : List PathStep) (place : List PathStep × Node)
    (hplace : place ∈ child.nodes (steps ++ [step])) : place ∈ node.nodes steps := by
  cases node with
  | leaf attrs rule => cases step <;> cases h
  | arrayOf attrs lengths item =>
    cases step with
    | items =>
      obtain rfl := Option.some.inj h
      unfold nodes
      exact List.mem_append_left _ hplace
    | property name => cases h
    | position i => cases h
  | tuple attrs lengths positions =>
    cases step with
    | position i =>
      unfold nodes
      refine List.mem_append_left _ (mem_positionNodes positions steps child place 0 i h ?_)
      rwa [Nat.zero_add]
    | property name => cases h
    | items => cases h
  | object attrs allowExtra properties =>
    cases step with
    | property name =>
      have hmem := Entries.mem_of_find? properties name child h
      unfold nodes
      exact List.mem_append_left _ (mem_propertyNodes properties steps name child place hmem hplace)
    | position i => cases h
    | items => cases h

/-- The nodes below the end of steps are nodes of the tree. -/
theorem mem_nodes_of_at? (below : List PathStep) : ∀ (node target : Node) (steps : List PathStep),
    node.at? below = some target → ∀ place ∈ target.nodes (steps ++ below),
      place ∈ node.nodes steps := by
  induction below with
  | nil =>
    intro node target steps h place hplace
    obtain rfl := Option.some.inj h
    rwa [List.append_nil] at hplace
  | cons step rest ih =>
    intro node target steps h place hplace
    obtain ⟨child, hchild, htarget⟩ := Option.bind_eq_some_iff.1 h
    rw [← List.singleton_append, ← List.append_assoc] at hplace
    exact mem_nodes_of_child? node child step hchild steps place
      (ih child target (steps ++ [step]) htarget place hplace)

end Node

/-! ## Steps in a document -/

namespace Descriptor

/-- The document of the child that a step leads to: a member under `properties`, an item under
`items`, or the object under `items`. -/
def child? (j : Json) : PathStep → Option Json
  | .property name => Entries.find? (valueAt j.members "properties").members name
  | .position i => (valueAt j.members "items").elements[i]?
  | .items =>
    match valueAt j.members "items" with
    | .object entries => some (.object entries)
    | _ => none

/-- The document that steps lead to. -/
def documentAt? : Json → List PathStep → Option Json
  | j, [] => some j
  | j, step :: rest => (child? j step).bind (documentAt? · rest)

/-! ## The children of a node -/

/-- The documents that stand below the entries of a node, with the steps that lead to them. -/
inductive HasChild (es : List (String × Json)) : PathStep → Json → Prop
  | property (name : String) (members : List (String × Json)) (x : Json)
      (tag : Entries.find? es "type" = some (.string "object"))
      (under : Entries.find? es "properties" = some (.object members))
      (found : Entries.find? members name = some x) : HasChild es (.property name) x
  | position (i : Nat) (items : List Json) (x : Json)
      (tag : Entries.find? es "type" = some (.string "array"))
      (under : Entries.find? es "items" = some (.array items))
      (found : items[i]? = some x) : HasChild es (.position i) x
  | items (entries : List (String × Json))
      (tag : Entries.find? es "type" = some (.string "array"))
      (under : Entries.find? es "items" = some (.object entries)) :
      HasChild es .items (.object entries)

/-- Only objects have properties. -/
theorem eq_object_of_shape? (tag : String) (shape : Shape) (hshape : shape? tag = some shape)
    (h : "properties" ∈ ["type", "optional", "errors"] ++ shape.keys) : tag = "object" := by
  unfold shape? at hshape
  split_ifs at hshape with hstring hbool harray hobject
  · obtain rfl := Option.some.inj hshape
    exact absurd h (by decide)
  · obtain rfl := Option.some.inj hshape
    exact absurd h (by decide)
  · obtain rfl := Option.some.inj hshape
    exact absurd h (by decide)
  · exact hobject
  · obtain rfl := Option.some.inj hshape
    exact absurd h (by decide)

/-- Only arrays have items. -/
theorem eq_array_of_shape? (tag : String) (shape : Shape) (hshape : shape? tag = some shape)
    (h : "items" ∈ ["type", "optional", "errors"] ++ shape.keys) : tag = "array" := by
  unfold shape? at hshape
  split_ifs at hshape with hstring hbool harray
  · obtain rfl := Option.some.inj hshape
    exact absurd h (by decide)
  · obtain rfl := Option.some.inj hshape
    exact absurd h (by decide)
  · exact harray
  · obtain rfl := Option.some.inj hshape
    exact absurd h (by decide)
  · obtain rfl := Option.some.inj hshape
    exact absurd h (by decide)

/-- A property is a member of the object under `properties`. -/
theorem exists_members_of_child? (es : List (String × Json)) (name : String) (x : Json)
    (hx : child? (.object es) (.property name) = some x) :
    ∃ members, Entries.find? es "properties" = some (.object members) ∧
      Entries.find? members name = some x := by
  have hfound : Entries.find? (valueAt es "properties").members name = some x := hx
  cases hunder : Entries.find? es "properties" with
  | none =>
    rw [valueAt_of_find?_none es "properties" hunder] at hfound
    cases hfound
  | some j =>
    rw [valueAt_of_find? es "properties" j hunder] at hfound
    cases j with
    | object members => exact ⟨members, rfl, hfound⟩
    | _ => cases hfound

/-- A position is an item of the array under `items`. -/
theorem exists_items_of_child? (es : List (String × Json)) (i : Nat) (x : Json)
    (hx : child? (.object es) (.position i) = some x) :
    ∃ items, Entries.find? es "items" = some (.array items) ∧ items[i]? = some x := by
  have hfound : (valueAt es "items").elements[i]? = some x := hx
  cases hunder : Entries.find? es "items" with
  | none =>
    rw [valueAt_of_find?_none es "items" hunder] at hfound
    cases hfound
  | some j =>
    rw [valueAt_of_find? es "items" j hunder] at hfound
    cases j with
    | array items => exact ⟨items, rfl, hfound⟩
    | _ => cases hfound

/-- All items are the object under `items`. -/
theorem exists_entries_of_child? (es : List (String × Json)) (x : Json)
    (hx : child? (.object es) .items = some x) :
    ∃ entries, Entries.find? es "items" = some (.object entries) ∧ x = .object entries := by
  unfold child? at hx
  simp only [Json.members] at hx
  cases hunder : Entries.find? es "items" with
  | none =>
    rw [valueAt_of_find?_none es "items" hunder] at hx
    cases hx
  | some j =>
    rw [valueAt_of_find? es "items" j hunder] at hx
    cases j with
    | object entries => exact ⟨entries, rfl, (Option.some.inj hx).symm⟩
    | _ => cases hx

/-- Nodes are objects. -/
theorem isObject_of_isNode (j : Json) (h : IsNode j) : IsObject j := by
  cases h with
  | object es => exact ⟨es, rfl⟩

/-- The children of a node are those that its tag allows. -/
theorem hasChild_of_child? (es : List (String × Json)) (h : IsNode (.object es)) (step : PathStep)
    (x : Json) (hx : child? (.object es) step = some x) : HasChild es step x := by
  cases h with
  | object _ tag shape type known keys _ _ =>
    cases step with
    | property name =>
      obtain ⟨members, under, found⟩ := exists_members_of_child? es name x hx
      have hkey := keys "properties" (mem_keys_of_find? es "properties" _ under)
      rw [eq_object_of_shape? tag shape known hkey] at type
      exact .property name members x type under found
    | position i =>
      obtain ⟨items, under, found⟩ := exists_items_of_child? es i x hx
      have hkey := keys "items" (mem_keys_of_find? es "items" _ under)
      rw [eq_array_of_shape? tag shape known hkey] at type
      exact .position i items x type under found
    | items =>
      obtain ⟨entries, under, rfl⟩ := exists_entries_of_child? es x hx
      have hkey := keys "items" (mem_keys_of_find? es "items" _ under)
      rw [eq_array_of_shape? tag shape known hkey] at type
      exact .items entries type under

/-- The children of a node are nodes. -/
theorem isNode_of_hasChild (es : List (String × Json)) (h : IsNode (.object es)) (step : PathStep)
    (x : Json) (hx : HasChild es step x) : IsNode x := by
  have hbelow : ∀ j ∈ children es, IsNode j := by
    cases h
    assumption
  refine hbelow x ?_
  unfold children
  cases hx with
  | property name members x tag under found =>
    rw [valueAt_of_find? es "properties" _ under]
    exact List.mem_append_right _
      (List.mem_map.2 ⟨(name, x), Entries.mem_of_find? members name x found, rfl⟩)
  | position i items x tag under found =>
    rw [valueAt_of_find? es "items" _ under]
    exact List.mem_append_left _ (List.mem_of_getElem? found)
  | items entries tag under =>
    rw [valueAt_of_find? es "items" _ under]
    exact List.mem_append_left _ (List.mem_singleton_self _)

/-- The property under a name is spelled by the member under the name. -/
theorem find?_map_spelled (members : List (String × Json)) (name : String) :
    Entries.find? (members.map fun e => (e.1, spelled e.2)) name =
      (Entries.find? members name).map spelled := by
  induction members with
  | nil => rfl
  | cons e rest ih =>
    unfold Entries.find? at ih ⊢
    rw [List.map_cons, List.lookup_cons, List.lookup_cons, ih]
    cases name == e.1 <;> rfl

/-- A step in a document is a step in the schema that it spells. -/
theorem child?_spelled (es : List (String × Json)) (step : PathStep) (x : Json)
    (hx : HasChild es step x) : (spelled (.object es)).child? step = some (spelled x) := by
  cases hx with
  | property name members x tag under found =>
    rw [spelled_properties es tag, valueAt_of_find? es "properties" _ under]
    show Entries.find? (members.map fun e => (e.1, spelled e.2)) name = _
    rw [find?_map_spelled, found]
    rfl
  | position i items x tag under found =>
    rw [spelled_array es tag]
    unfold arraySpelled
    rw [valueAt_of_find? es "items" _ under]
    show (items.map spelled)[i]? = _
    rw [List.getElem?_map, found]
    rfl
  | items entries tag under =>
    rw [spelled_array es tag]
    unfold arraySpelled
    rw [valueAt_of_find? es "items" _ under]
    rfl

/-- The documents that steps lead to from a node are nodes. -/
theorem isNode_of_documentAt? (steps : List PathStep) : ∀ j x : Json, IsNode j →
    documentAt? j steps = some x → IsNode x := by
  induction steps with
  | nil =>
    intro j x h hx
    obtain rfl := Option.some.inj hx
    exact h
  | cons step rest ih =>
    intro j x h hx
    obtain ⟨child, hchild, hrest⟩ := Option.bind_eq_some_iff.1 hx
    obtain ⟨es, rfl⟩ := isObject_of_isNode j h
    exact ih child x (isNode_of_hasChild es h step child (hasChild_of_child? es h step child hchild))
      hrest

/-- Steps in a document are steps in the schema that it spells. -/
theorem at?_spelled (steps : List PathStep) : ∀ j x : Json, IsNode j →
    documentAt? j steps = some x → (spelled j).at? steps = some (spelled x) := by
  induction steps with
  | nil =>
    intro j x _ hx
    obtain rfl := Option.some.inj hx
    rfl
  | cons step rest ih =>
    intro j x h hx
    obtain ⟨child, hchild, hrest⟩ := Option.bind_eq_some_iff.1 hx
    obtain ⟨es, rfl⟩ := isObject_of_isNode j h
    have hhas := hasChild_of_child? es h step child hchild
    unfold Node.at?
    rw [child?_spelled es step child hhas]
    exact ih child x (isNode_of_hasChild es h step child hhas) hrest

/-! ## The root -/

/-- The children of the root are its properties. -/
theorem hasProperty_of_child? (es : List (String × Json)) (h : IsDescriptor (.object es))
    (step : PathStep) (x : Json) (hx : child? (.object es) step = some x) :
    ∃ name members, step = .property name ∧
      Entries.find? es "properties" = some (.object members) ∧
      Entries.find? members name = some x ∧ IsNode x ∧ ∀ e ∈ members, IsNode e.2 := by
  obtain ⟨es', hes, hkeys, -, -, hbelow⟩ := h
  obtain rfl := Json.object.inj hes
  -- The root has no items.
  have hitems (j : Json) : Entries.find? es "items" ≠ some j := fun hj =>
    absurd (hkeys _ (mem_keys_of_find? es "items" j hj)) (by decide)
  cases step with
  | property name =>
    obtain ⟨members, under, found⟩ := exists_members_of_child? es name x hx
    rw [valueAt_of_find? es "properties" _ under] at hbelow
    exact ⟨name, members, rfl, under, found,
      hbelow (name, x) (Entries.mem_of_find? members name x found), hbelow⟩
  | position i =>
    obtain ⟨items, under, -⟩ := exists_items_of_child? es i x hx
    exact absurd under (hitems _)
  | items =>
    obtain ⟨entries, under, -⟩ := exists_entries_of_child? es x hx
    exact absurd under (hitems _)

/-- Only objects spell a schema. -/
theorem isObject_of_isDescriptor (d : Json) (h : IsDescriptor d) : IsObject d := by
  obtain ⟨es, rfl, -⟩ := h
  exact ⟨es, rfl⟩

end Descriptor

namespace Schema

open Descriptor

/-- The documents below the root of a descriptor are nodes, and the steps that lead to them lead to
the nodes that they spell. -/
theorem at?_node_spelled (d : Json) (step : PathStep) (rest : List PathStep) (x : Json)
    (h : IsDescriptor d) (hx : documentAt? d (step :: rest) = some x) :
    IsNode x ∧ (Schema.spelled d).node.at? (step :: rest) = some (Descriptor.spelled x) := by
  obtain ⟨es, rfl⟩ := isObject_of_isDescriptor d h
  obtain ⟨child, hchild, hrest⟩ := Option.bind_eq_some_iff.1 hx
  obtain ⟨name, members, rfl, under, found, hnode, -⟩ :=
    hasProperty_of_child? es h step child hchild
  have hspelled : (Schema.spelled (.object es)).node.child? (.property name) =
      some (Descriptor.spelled child) := by
    show Entries.find? ((valueAt es "properties").members.map fun e => (e.1, _)) name = _
    rw [valueAt_of_find? es "properties" _ under]
    show Entries.find? (members.map fun e => (e.1, Descriptor.spelled e.2)) name = _
    rw [find?_map_spelled, found]
    rfl
  refine ⟨isNode_of_documentAt? rest child x hnode hrest, ?_⟩
  unfold Node.at?
  rw [hspelled]
  exact at?_spelled rest child x hnode hrest

end Schema

end DataShape
