import DataShape.Proofs.Validator.EqualInputs

/-!
# What is not declared is not observed

A schema declares properties, positions and items, and whatever else an input holds is its own. If a
schema lets other keys through, has no predicates and makes its errors from literals, then nothing
of that shows. Two inputs that agree on the declared part (`Node.Agree`) have the same errors
(`Schema.declared_part_determines_errors`).

Agreement is by recursion on the schema and says what a reading can tell apart. At a leaf it is the
value, at an object whether it is a map and what stands under the declared keys, at an array whether
it is a list, its length and the items that have a node.
-/

namespace DataShape

/-- Both values are lists of one length, or neither is a list. -/
def Value.SameSize (v w : Value) : Prop := v.list?.map List.length = w.list?.map List.length

namespace Node

mutual

/-- Two values agree on the part that a node declares. -/
def Agree : Node → Value → Value → Prop
  | leaf _ (.array _), v, w => v.SameSize w
  | leaf _ _, v, w => v = w ∨ v.equals w = true
  | arrayOf _ _ item, v, w =>
    v.SameSize w ∧ ∀ i, Option.Rel item.Agree (v.item? i) (w.item? i)
  | tuple _ _ positions, v, w => v.SameSize w ∧ PositionsAgree positions v w 0
  | object _ _ properties, v, w => v.map?.isSome = w.map?.isSome ∧ PropertiesAgree properties v w

/-- Two values agree at the positions of a tuple, from the given position on: the items are absent
in both, or present in both and agree. -/
def PositionsAgree : List Node → Value → Value → Nat → Prop
  | [], _, _, _ => True
  | child :: rest, v, w, i =>
    Option.Rel child.Agree (v.item? i) (w.item? i) ∧ PositionsAgree rest v w (i + 1)

/-- Two values agree under the names of properties: what stands there is absent in both, or present
in both and agrees. -/
def PropertiesAgree : List (String × Node) → Value → Value → Prop
  | [], _, _ => True
  | (name, child) :: rest, v, w =>
    Option.Rel child.Agree (v.get? name) (w.get? name) ∧ PropertiesAgree rest v w

end

/-- The node lets other keys through, has no predicate, and makes its errors from literals. -/
structure IsPlain (node : Node) : Prop where
  literals : node.OnlyLiterals
  predicate : node.attrs.validator? = none
  extra : ∀ attrs allowExtra properties, node = .object attrs allowExtra properties →
    allowExtra = true

/-! ## Below a node -/

/-- Values that agree from a position on agree at each position behind it. -/
theorem PositionsAgree.item? (positions : List Node) (v w : Value) : ∀ i j child,
    PositionsAgree positions v w i → positions[j]? = some child →
      Option.Rel child.Agree (v.item? (i + j)) (w.item? (i + j)) := by
  induction positions with
  | nil =>
    intro i j child _ hchild
    cases hchild
  | cons first rest ih =>
    rintro i j child ⟨hfirst, hrest⟩ hchild
    cases j with
    | zero =>
      obtain rfl := Option.some.inj hchild
      exact hfirst
    | succ j =>
      rw [← Nat.add_assoc, Nat.add_right_comm]
      exact ih (i + 1) j child hrest hchild

/-- Values that agree under the names of properties agree under each. -/
theorem PropertiesAgree.get? (properties : List (String × Node)) (v w : Value)
    (h : PropertiesAgree properties v w) : ∀ e ∈ properties,
      Option.Rel e.2.Agree (v.get? e.1) (w.get? e.1) := by
  induction properties with
  | nil => exact fun _ he => nomatch he
  | cons first rest ih =>
    obtain ⟨hfirst, hrest⟩ := h
    exact List.forall_mem_cons.2 ⟨hfirst, ih hrest⟩

/-- Below values that agree, what stands in the slots agrees. -/
theorem Agree.find? (node : Node) (v w : Value) (h : node.Agree v w) (p : Slot)
    (hp : p ∈ node.slots v) : Option.Rel p.node.Agree (p.move.find? v) (p.move.find? w) := by
  cases node with
  | leaf attrs rule => cases hp
  | arrayOf attrs lengths item =>
    obtain ⟨i, hi, rfl⟩ := List.mem_mapIdx.1 hp
    exact h.2 i
  | tuple attrs lengths positions =>
    obtain ⟨i, hi, rfl⟩ := List.mem_mapIdx.1 hp
    have hitem := PositionsAgree.item? positions v w 0 i _ h.2 (List.getElem?_eq_getElem hi)
    rw [Nat.zero_add] at hitem
    exact hitem
  | object attrs allowExtra properties =>
    obtain ⟨entry, hentry, rfl⟩ := List.mem_map.1 hp
    exact PropertiesAgree.get? properties v w h.2 entry hentry

/-- Values that agree at an array with a node for all items have as many items. -/
theorem Agree.length_list? (node : Node) (v w : Value) (h : node.Agree v w)
    (hshared : node.sharesItem = true) : (v.list?.getD []).length = (w.list?.getD []).length := by
  have hsize (v : Value) : (v.list?.getD []).length = (v.list?.map List.length).getD 0 := by
    cases v <;> rfl
  cases node with
  | arrayOf attrs lengths item => rw [hsize v, hsize w, h.1]
  | leaf | tuple | object => cases hshared

/-! ## One node -/

/-- Lists are the values that an array node asks for. -/
theorem hasKind_array (lengths : LengthBounds) (v : Value) :
    (Rule.leaf (.array lengths)).hasKind v = (v.list?.map List.length).isSome := by
  cases v <;> rfl

/-- The length of a list is the number of its items. -/
theorem length_of_hasKind_array (lengths : LengthBounds) (v : Value)
    (h : (Rule.leaf (.array lengths)).hasKind v = true) :
    some v.length = v.list?.map List.length := by
  cases v with
  | list items => rfl
  | _ => cases h

/-- Values of one size are looked at alike by an array node. -/
theorem text_fault?_of_sameSize [PatternLanguage]
    (lengths : LengthBounds) (v w : Value) (h : v.SameSize w)
    (hkind : (Rule.leaf (.array lengths)).hasKind v = true) (c : Constraint) :
    ((Rule.leaf (.array lengths)).fault? v c).map Fault.text =
      ((Rule.leaf (.array lengths)).fault? w c).map Fault.text := by
  have hkind' : (Rule.leaf (.array lengths)).hasKind w = true := by
    rw [hasKind_array, ← h, ← hasKind_array, hkind]
  have hlength : v.length = w.length := by
    refine Option.some.inj ?_
    rw [length_of_hasKind_array lengths v hkind, length_of_hasKind_array lengths w hkind', h]
  cases c with
  | type =>
    unfold Rule.fault?
    rw [hkind, hkind']
  | minLen | maxLen =>
    unfold Rule.fault?
    rw [hlength]
  | pattern | min | max | extra | validator => rfl

/-- An object that lets other keys through looks at maps alike. -/
theorem text_fault?_of_isMap [PatternLanguage]
    (v w : Value) (h : v.map?.isSome = w.map?.isSome) (c : Constraint) :
    ((Rule.object none).fault? v c).map Fault.text =
      ((Rule.object none).fault? w c).map Fault.text := by
  have hkind (v : Value) : (Rule.object none).hasKind v = v.map?.isSome := by
    cases v <;> rfl
  cases c with
  | type =>
    unfold Rule.fault?
    rw [hkind, hkind, h]
  | minLen | maxLen | pattern | min | max | extra | validator => rfl

/-- A plain node makes the same error for two values, if both are of its kind or neither is, and if
its rule finds the same wrong with those of its kind. -/
theorem IsPlain.error_report?_congr [PatternLanguage]
    (node : Node) (hplain : node.IsPlain) (extras : Extras)
    (trail : Trail) (v w : Value) (hkind : node.rule.hasKind v = node.rule.hasKind w)
    (hrule : node.rule.hasKind v = true → ∀ c,
      (node.rule.fault? v c).map Fault.text = (node.rule.fault? w c).map Fault.text) :
    (node.report? extras trail (some v)).map Report.error =
      (node.report? extras trail (some w)).map Report.error := by
  cases hv : node.rule.hasKind v with
  | false =>
    -- The kind is the first to be looked at, so nothing else is.
    rw [node.report?_of_not_hasKind extras trail v hv,
      node.report?_of_not_hasKind extras trail w (hkind ▸ hv), Option.map_some, Option.map_some,
      node.error_report_of_onlyLiterals hplain.literals,
      node.error_report_of_onlyLiterals hplain.literals]
  | true =>
    refine node.map_error_report?_congr hplain.literals extras trail (some v) (some w) fun c => ?_
    by_cases hc : c = .validator
    · rw [hc, fault?_validator, fault?_validator]
      unfold Attributes.refusal?
      rw [hplain.predicate]
      rfl
    · rw [node.fault?_of_ne_validator extras v c hc, node.fault?_of_ne_validator extras w c hc]
      exact hrule hv c

/-- A plain node makes the same error for values that agree. -/
theorem Agree.error_report? [PatternLanguage] (node : Node) (v w : Value) (h : node.Agree v w)
    (hplain : node.IsPlain) (extras : Extras) (trail : Trail) :
    (node.report? extras trail (some v)).map Report.error =
      (node.report? extras trail (some w)).map Report.error := by
  have harray (lengths : LengthBounds) (hrule : node.rule = .leaf (.array lengths))
      (hsize : v.SameSize w) : (node.report? extras trail (some v)).map Report.error =
        (node.report? extras trail (some w)).map Report.error := by
    refine hplain.error_report?_congr node extras trail v w ?_ ?_
    · rw [hrule, hasKind_array, hasKind_array, hsize]
    · rw [hrule]
      exact text_fault?_of_sameSize lengths v w hsize
  have hleaf (rule : LeafRule) (hrule : node.rule = .leaf rule)
      (hequal : v = w ∨ v.equals w = true) : (node.report? extras trail (some v)).map Report.error =
        (node.report? extras trail (some w)).map Report.error := by
    rcases hequal with rfl | hequal
    · rfl
    · refine hplain.error_report?_congr node extras trail v w
        (node.rule.hasKind_eq_of_equals v w hequal) fun _ => ?_
      refine node.rule.text_fault?_of_equals v w hequal fun allowed honly => ?_
      rw [hrule] at honly
      cases honly
  cases node with
  | leaf attrs rule =>
    cases rule with
    | array lengths => exact harray lengths rfl h
    | string rules => exact hleaf _ rfl h
    | number rules => exact hleaf _ rfl h
    | bool => exact hleaf _ rfl h
  | arrayOf attrs lengths item => exact harray lengths rfl h.1
  | tuple attrs lengths positions => exact harray lengths rfl h.1
  | object attrs allowExtra properties =>
    obtain rfl := hplain.extra attrs allowExtra properties rfl
    have hmaps := text_fault?_of_isMap v w h.1
    refine hplain.error_report?_congr _ extras trail v w ?_ fun _ => hmaps
    cases v <;> cases w <;> first | rfl | cases h.1

/-! ## Whole trees -/

/-- Readings of values that agree on what is declared go down in lockstep. -/
theorem lockstep_agree [PatternLanguage] (extras : Extras) :
    Lockstep extras Report.error fun node value? node' value?' => node' = node ∧
      Option.Rel (fun v w => node.Throughout IsPlain ∧ node.Agree v w) value? value?' := by
  refine .of_values (fun node v w => node.Throughout IsPlain ∧ node.Agree v w) ?_ ?_ ?_
  · intro node v w trail h
    exact h.2.error_report? node v w h.1.own extras trail
  · intro node v w h _ hshared
    exact h.2.length_list? node v w hshared
  · intro node v w h _ p hp
    exact rel_imp (fun _ _ hagree => ⟨h.1.of_mem_slots v p hp, hagree⟩) (h.2.find? node v w p hp)

end Node

/-- What is not declared is not observed. If all objects of a schema let other keys through, if
there are no predicates, and if all producers are literals or defaults, then inputs that agree on
the declared part have the same errors. -/
theorem Schema.declared_part_determines_errors [PatternLanguage]
    (s : Schema) (extraParams : List String)
    (v : Validator) (h : s.compile extraParams = .ok v) (hplain : s.node.Throughout Node.IsPlain)
    (input input' : Value) (hagree : s.node.Agree input input') (args : List Value) :
    v.validate input args = v.validate input' args := by
  have hlockstep := Node.lockstep_agree { names := extraParams, args }
  rw [s.validate_eq extraParams v h, s.validate_eq extraParams v h]
  exact hlockstep.reports_eq s.node s.node (some input) (some input') []
    ⟨rfl, .some ⟨hplain, hagree⟩⟩

namespace Demo

/-- A cell with a number and perhaps a note. -/
def cell : Node :=
  .ofObject
    [.own (.property "n" (.ofNumber .integer [.error .type (.literal (.code 7))])),
      .own (.property "note" (.ofString [.optional]))]

/-- The schema of grids: cells, a tuple of one position, and tags that are not looked at. -/
def grid : Schema :=
  .ofSettings
    [.property "cells" (.ofArray (.each cell) []),
      .property "flags" (.ofArray (.positions [.ofBool []]) []),
      .property "tags" (.ofArray .unchecked [])]

/-- A grid whose first cell has no number. -/
def gridSample : Value :=
  .map
    [("cells", .list [.map [("n", toValue "one")]]), ("flags", .list [toValue true, .null]),
      ("tags", .list [toValue "a"])]

/-- The same in what is declared, and in nothing else. -/
def gridSample' : Value :=
  .map
    [("owner", toValue "Ann"), ("tags", .list [toValue 3]),
      ("flags", .list [toValue true, toValue "later"]),
      ("cells", .list [.map [("color", toValue "red"), ("n", toValue "one")]])]

/-- The two grids agree. -/
theorem grid_agree : grid.node.Agree gridSample gridSample' := by
  refine ⟨rfl, .some ⟨rfl, fun i => ?_⟩, .some ⟨rfl, .some (Or.inl rfl), trivial⟩, .some rfl,
    trivial⟩
  match i with
  | 0 => exact .some ⟨rfl, .some (Or.inl rfl), .none, trivial⟩
  | i + 1 => exact .none

/-- A tree is plain if those of its children are, and if its root has neither producers nor a
predicate and lets other keys through. -/
theorem throughout_isPlain (node : Node) (herrors : ∀ c, node.attrs.errors.find? c = none)
    (hpredicate : node.attrs.validator? = none) (hextra : node.rule.only? = none)
    (hbelow : ∀ child ∈ node.children, child.Throughout Node.IsPlain) :
    node.Throughout Node.IsPlain := by
  refine (Node.throughout_iff _ _).2 ⟨⟨fun c p hfind => ?_, hpredicate, ?_⟩, hbelow⟩
  · cases (herrors c).symm.trans hfind
  · rintro attrs (_ | _) properties rfl
    · cases hextra
    · rfl

/-- All nodes of the schema of grids are plain. -/
theorem isPlain_grid : grid.node.Throughout Node.IsPlain := by
  have hnumber : (Node.ofNumber .integer [.error .type (.literal (.code 7))]).Throughout
      Node.IsPlain := by
    refine Node.throughout_leaf _ _ _ ⟨fun c p hfind => ?_, rfl, fun _ _ _ h => nomatch h⟩
    cases c with
    | type => exact ⟨_, (Option.some.inj hfind).symm⟩
    | _ => cases hfind
  have hleaf (attrs : Attributes) (rule : LeafRule) (herrors : ∀ c, attrs.errors.find? c = none)
      (hpredicate : attrs.validator? = none) : (Node.leaf attrs rule).Throughout Node.IsPlain :=
    throughout_isPlain _ herrors hpredicate (by cases rule <;> rfl) fun _ h => nomatch h
  have hcell : cell.Throughout Node.IsPlain := by
    refine throughout_isPlain cell (fun _ => rfl) rfl rfl ?_
    rintro child (_ | ⟨_, _ | ⟨_, ⟨⟩⟩⟩)
    · exact hnumber
    · exact hleaf _ _ (fun _ => rfl) rfl
  refine throughout_isPlain _ (fun _ => rfl) rfl rfl ?_
  rintro child (_ | ⟨_, _ | ⟨_, _ | ⟨_, ⟨⟩⟩⟩⟩)
  · exact throughout_isPlain _ (fun _ => rfl) rfl rfl (List.forall_mem_singleton.2 hcell)
  · exact throughout_isPlain _ (fun _ => rfl) rfl rfl
      (List.forall_mem_singleton.2 (hleaf _ _ (fun _ => rfl) rfl))
  · exact hleaf _ _ (fun _ => rfl) rfl

/-- The two grids have the same errors. -/
theorem declared_part_determines_errors_grid :
    grid.compile [] = .ok { plan := grid.node.plan .root, extraParams := [] } ∧
      grid.node.Agree gridSample gridSample' ∧
      Validator.validate { plan := grid.node.plan .root, extraParams := [] } gridSample [] =
        Validator.validate { plan := grid.node.plan .root, extraParams := [] } gridSample' [] := by
  have hcompile : grid.compile [] = .ok { plan := grid.node.plan .root, extraParams := [] } :=
    (grid.compile_eq_ok_iff _ _).2 ⟨by decide +kernel, rfl⟩
  exact ⟨hcompile, grid_agree, grid.declared_part_determines_errors [] _ hcompile isPlain_grid
    gridSample gridSample' grid_agree []⟩

example :
    (Validator.validate { plan := grid.node.plan .root, extraParams := [] } gridSample' []).map
        ValidationError.text = ["error code 7"] := by
  decide +kernel

end Demo

end DataShape
