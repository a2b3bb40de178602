import DataShape.Pattern.Regex
import DataShape.Proofs.Entries
import DataShape.Proofs.Schema.Steps

/-!
# Faults of a descriptor name the paths of a plan

Reading a descriptor and compiling the schema work out paths separately, one along the document and
the other along the schema. `Schema.fault_paths` says that the paths agree. Take any node in a
descriptor that is read and compiled. If its tag is replaced by an unknown one, or a key is added
that does not belong to the tag, then reading fails with that fault, and the path of the fault is
the path in the plan that is made from the node.

A node reports the fault of its first faulty child, since all that is read before is as it was. One
step of this is `node_replaceChild`, and `node_replaceAt` goes along the steps.
-/

namespace DataShape

namespace Descriptor

/-! ## Replacing a document inside another one -/

/-- The document with another one in the place of a child. -/
def replaceChild (j : Json) (step : PathStep) (x : Json) : Json :=
  match step with
  | .property name =>
    .object (Entries.insert "properties"
      (.object (Entries.insert name x (valueAt j.members "properties").members)) j.members)
  | .position i =>
    .object (Entries.insert "items" (.array ((valueAt j.members "items").elements.set i x)) j.members)
  | .items => .object (Entries.insert "items" x j.members)

/-- The document with another one in the place where steps lead to. -/
def replaceAt : Json → List PathStep → Json → Json
  | _, [], x => x
  | j, step :: rest, x =>
    match child? j step with
    | some child => replaceChild j step (replaceAt child rest x)
    | none => j

/-- Replacing a property replaces a member. -/
theorem replaceChild_property (es members : List (String × Json)) (name : String) (x : Json)
    (h : Entries.find? es "properties" = some (.object members)) :
    replaceChild (.object es) (.property name) x =
      .object (Entries.insert "properties" (.object (Entries.insert name x members)) es) := by
  have hvalue := valueAt_of_find? es "properties" _ h
  show Json.object (Entries.insert "properties"
    (.object (Entries.insert name x (valueAt es "properties").members)) es) = _
  rw [hvalue]
  rfl

/-- Replacing a position replaces an item. -/
theorem replaceChild_position (es : List (String × Json)) (items : List Json) (i : Nat) (x : Json)
    (h : Entries.find? es "items" = some (.array items)) :
    replaceChild (.object es) (.position i) x =
      .object (Entries.insert "items" (.array (items.set i x)) es) := by
  have hvalue := valueAt_of_find? es "items" _ h
  show Json.object (Entries.insert "items" (.array ((valueAt es "items").elements.set i x)) es) = _
  rw [hvalue]
  rfl

/-! ## The first fault -/

/-- Properties with a faulty one among them have its fault, if the others are nodes. -/
theorem properties_insert (path : FieldPath) (name : String) (new : Json) (d : Defect)
    (hnew : node (path.child (.property name)) new = .error d) (members : List (String × Json))
    (hmembers : ∀ e ∈ members, IsNode e.2) (x : Json) (hx : Entries.find? members name = some x) :
    properties path (Entries.insert name new members) = .error d := by
  induction members with
  | nil => cases hx
  | cons e rest ih =>
    rw [List.forall_mem_cons] at hmembers
    unfold Entries.insert
    split_ifs with heq
    · rw [properties, hnew]
      rfl
    · -- The member stands before the faulty one, and is read without a fault.
      have hne : (name == e.1) = false := by simp [Ne.symm heq]
      unfold Entries.find? at hx ih
      rw [List.lookup_cons, hne] at hx
      rw [properties, (readsRight e.2 _ _).2 ⟨hmembers.1, rfl⟩]
      show (properties path _ >>= _) = _
      rw [ih hmembers.2 hx]
      rfl

/-- Positions with a faulty one among them have its fault, if the others are nodes. -/
theorem nodes_set (path : FieldPath) (new : Json) (d : Defect) (items : List Json)
    (hitems : ∀ j ∈ items, IsNode j) : ∀ (first i : Nat),
      node (path.child (.position (first + i))) new = .error d → i < items.length →
        nodes path first (items.set i new) = .error d := by
  -- The positions are counted on, so the statement is about any first one.
  induction items with
  | nil =>
    intro first i _ hi
    exact absurd hi (Nat.not_lt_zero i)
  | cons j rest ih =>
    intro first i hnew hi
    rw [List.forall_mem_cons] at hitems
    cases i with
    | zero =>
      rw [Nat.add_zero] at hnew
      rw [List.set_cons_zero, nodes, hnew]
      rfl
    | succ i =>
      rw [Nat.add_comm i, ← Nat.add_assoc] at hnew
      rw [List.set_cons_succ, nodes, (readsRight j _ _).2 ⟨hitems.1, rfl⟩]
      show (nodes path (first + 1) _ >>= _) = _
      rw [ih hitems.2 (first + 1) i hnew (Nat.lt_of_succ_lt_succ hi)]
      rfl

/-- The test of keys looks at no values. -/
theorem checkKeys_insert (path : FieldPath) (allowed : List String) (es : List (String × Json))
    (key : String) (old new : Json) (hold : Entries.find? es key = some old)
    (hkeys : ∀ key ∈ Entries.keys es, key ∈ allowed) :
    checkKeys path allowed (Entries.insert key new es) = .ok () := by
  rw [checkKeys_eq_ok_iff, Entries.keys_insert_of_find? es key new old hold]
  exact hkeys

/-- The properties of an object with a faulty one among them have its fault. -/
theorem objectMembers_insert (path : FieldPath) (es members : List (String × Json))
    (hmembers : ∀ e ∈ members, IsNode e.2) (name : String) (x new : Json) (d : Defect)
    (hx : Entries.find? members name = some x)
    (hnew : node (path.child (.property name)) new = .error d) :
    objectMembers path
      (Entries.insert "properties" (.object (Entries.insert name new members)) es) = .error d := by
  unfold objectMembers
  rw [Entries.find?_insert_self]
  exact properties_insert path name new d hnew members hmembers x hx

/-- An array with other items has their fault, if it was a node. -/
theorem node_insert_items (path : FieldPath) (es : List (String × Json)) (h : IsNode (.object es))
    (tag : Entries.find? es "type" = some (.string "array")) (old new : Json) (d : Defect)
    (hold : Entries.find? es "items" = some old)
    (hnew : ∀ bounds, arrayNode path (Entries.insert "items" new es) bounds = .error d) :
    node path (.object (Entries.insert "items" new es)) = .error d := by
  obtain ⟨hkeys, -, -, hforms, -⟩ := (isNode_object_iff es "array" _ tag rfl).1 h
  have hother (key : String) (hne : key ≠ "items") :
      Entries.find? (Entries.insert "items" new es) key = Entries.find? es key :=
    Entries.find?_insert_of_ne es "items" new key hne
  -- The bounds on the length are read before the items, and they are sound.
  have hlengths : lengths path (Entries.insert "items" new es) =
      .ok (lengthsOf (Entries.insert "items" new es)) := by
    refine (lengths_eq_ok_iff path _ _).2 ⟨?_, ?_, rfl⟩
    · unfold Under
      rw [hother "minLen" (by decide)]
      exact hforms "minLen" (by simp)
    · unfold Under
      rw [hother "maxLen" (by decide)]
      exact hforms "maxLen" (by simp)
  rw [node_array_eq path _ ((hother "type" (by decide)).trans tag), hlengths]
  have hcheck := checkKeys_insert path _ es "items" old new hold hkeys
  unfold commonKeys
  rw [hcheck]
  exact hnew _

/-- A node with a faulty child in the place of one of its children has the fault of the child. -/
theorem node_replaceChild (path : FieldPath) (es : List (String × Json)) (h : IsNode (.object es))
    (step : PathStep) (x : Json) (hx : HasChild es step x) (new : List (String × Json)) (d : Defect)
    (hnew : node (path.child step) (.object new) = .error d) :
    node path (replaceChild (.object es) step (.object new)) = .error d := by
  cases hx with
  | property name members x tag under found =>
    obtain ⟨hkeys, -, -, -, hbelow⟩ := (isNode_object_iff es "object" _ tag rfl).1 h
    unfold children at hbelow
    rw [valueAt_of_find? es "properties" _ under] at hbelow
    have hmembers : ∀ e ∈ members, IsNode e.2 :=
      List.forall_mem_map.1 (List.forall_mem_append.1 hbelow).2
    have hread := objectMembers_insert path es members hmembers name x _ d found hnew
    have hcheck := checkKeys_insert path _ es "properties" _
      (.object (Entries.insert name (.object new) members)) under hkeys
    have htag := Entries.find?_insert_of_ne es "properties"
      (.object (Entries.insert name (.object new) members)) "type" (by decide)
    rw [replaceChild_property es members name _ under, node_object_eq path _ (htag.trans tag),
      hread]
    unfold commonKeys
    rw [hcheck]
    rfl
  | position i items x tag under found =>
    obtain ⟨-, -, -, -, hbelow⟩ := (isNode_object_iff es "array" _ tag rfl).1 h
    unfold children at hbelow
    rw [valueAt_of_find? es "items" _ under] at hbelow
    have hitems : ∀ j ∈ items, IsNode j := (List.forall_mem_append.1 hbelow).1
    obtain ⟨hi, -⟩ := List.getElem?_eq_some_iff.1 found
    rw [replaceChild_position es items i _ under]
    refine node_insert_items path es h tag _ _ d under fun bounds => ?_
    unfold arrayNode
    rw [Entries.find?_insert_self]
    show (nodes path 0 _ >>= _) = _
    rw [nodes_set path (.object new) d items hitems 0 i (by rwa [Nat.zero_add]) hi]
    rfl
  | items entries tag under =>
    refine node_insert_items path es h tag _ _ d under fun bounds => ?_
    unfold arrayNode
    rw [Entries.find?_insert_self]
    show (node (path.child .items) _ >>= _) = _
    rw [hnew]
    rfl

/-- What replaces an object in a document leaves the document an object. -/
theorem isObject_replaceAt (steps : List PathStep) (j x new : Json)
    (hx : documentAt? j steps = some x) (hnew : IsObject new) :
    IsObject (replaceAt j steps new) := by
  cases steps with
  | nil => exact hnew
  | cons step rest =>
    obtain ⟨child, hchild, -⟩ := Option.bind_eq_some_iff.1 hx
    unfold replaceAt
    rw [hchild]
    cases step <;> exact ⟨_, rfl⟩

/-- A node with a faulty node in the place where steps lead to has its fault. -/
theorem node_replaceAt (new : List (String × Json)) (d : Defect) (steps : List PathStep) :
    ∀ (path : FieldPath) (j x : Json), IsNode j → documentAt? j steps = some x →
      node (steps.foldl FieldPath.child path) (.object new) = .error d →
        node path (replaceAt j steps (.object new)) = .error d := by
  -- Each step makes the path longer, so the statement is about any path.
  induction steps with
  | nil =>
    intro path j x _ _ hnew
    exact hnew
  | cons step rest ih =>
    intro path j x h hx hnew
    obtain ⟨child, hchild, hrest⟩ := Option.bind_eq_some_iff.1 hx
    obtain ⟨es, rfl⟩ := isObject_of_isNode j h
    have hhas := hasChild_of_child? es h step child hchild
    have hread := ih (path.child step) child x (isNode_of_hasChild es h step child hhas) hrest hnew
    obtain ⟨entries, hentries⟩ := isObject_replaceAt rest child x (.object new) hrest ⟨new, rfl⟩
    unfold replaceAt
    rw [hchild]
    rw [hentries] at hread
    simp only [hentries]
    exact node_replaceChild path es h step child hhas entries d hread

/-! ## Faults at the end of the steps -/

/-- A node whose tag is replaced by an unknown one has an unknown type. -/
theorem node_insert_type (path : FieldPath) (es : List (String × Json)) (tag : String)
    (hunknown : shape? tag = none) :
    node path (.object (Entries.insert "type" (.string tag) es)) =
      .error (.unknownType path tag) := by
  have htag := Entries.find?_insert_self es "type" (.string tag)
  unfold shape? at hunknown
  split_ifs at hunknown with hstring hbool harray hobject hnumber
  obtain ⟨hbool, hboolean⟩ := not_or.1 hbool
  -- The reader of numbers is the last one, and finds no kind.
  have hkind : NumberKind.ofTag? tag = none := by
    rwa [← isSome_ofTag?_iff, Bool.not_eq_true, Option.isSome_eq_false_iff,
      Option.isNone_iff_eq_none] at hnumber
  rw [node_number_eq path _ tag htag hstring hbool hboolean harray hobject]
  unfold numberNode
  rw [hkind]

/-- The keys of a node are tested before its rules and its children. -/
theorem node_of_checkKeys_eq_error (path : FieldPath) (es : List (String × Json)) (tag : String)
    (shape : Shape) (htag : Entries.find? es "type" = some (.string tag))
    (hshape : shape? tag = some shape) (d : Defect)
    (hkeys : checkKeys path (["type", "optional", "errors"] ++ shape.keys) es = .error d) :
    node path (.object es) = .error d := by
  unfold shape? at hshape
  split_ifs at hshape with hstring hbool harray hobject hnumber
  · obtain rfl := Option.some.inj hshape
    obtain rfl := hstring
    rw [node_string_eq path es htag]
    unfold stringNode commonKeys
    rw [hkeys]
    rfl
  · obtain rfl := Option.some.inj hshape
    rw [node_bool_eq path es tag hbool htag]
    unfold boolNode commonKeys
    rw [List.append_nil] at hkeys
    rw [hkeys]
    rfl
  · obtain rfl := Option.some.inj hshape
    obtain rfl := harray
    rw [node_array_eq path es htag]
    unfold commonKeys
    rw [hkeys]
    rfl
  · obtain rfl := Option.some.inj hshape
    obtain rfl := hobject
    rw [node_object_eq path es htag]
    unfold commonKeys
    rw [hkeys]
    rfl
  · obtain rfl := Option.some.inj hshape
    obtain ⟨hbool, hboolean⟩ := not_or.1 hbool
    obtain ⟨kind, hkind⟩ := Option.isSome_iff_exists.1 ((isSome_ofTag?_iff tag).2 hnumber)
    rw [node_number_eq path es tag htag hstring hbool hboolean harray hobject]
    unfold numberNode commonKeys
    rw [hkind]
    show (checkKeys path _ es >>= _) = _
    rw [hkeys]
    rfl

/-- The test of keys finds the one that has been added. -/
theorem checkKeys_append_cons (path : FieldPath) (allowed : List String)
    (front back : List (String × Json)) (key : String) (x : Json)
    (hkeys : ∀ key ∈ Entries.keys (front ++ back), key ∈ allowed) (hkey : key ∉ allowed) :
    checkKeys path allowed (front ++ (key, x) :: back) =
      .error (.malformedDescriptor path (.unexpectedKey key)) := by
  unfold Entries.keys at hkeys
  rw [List.map_append, List.forall_mem_append] at hkeys
  have hfront : ((Entries.keys front).find? fun key => !allowed.contains key) = none := by
    rw [List.find?_eq_none]
    intro k hk
    simp [hkeys.1 k hk]
  have hfound : ((Entries.keys (front ++ (key, x) :: back)).find? fun key =>
      !allowed.contains key) = some key := by
    unfold Entries.keys at hfront ⊢
    rw [List.map_append, List.find?_append, hfront, Option.none_or, List.map_cons,
      List.find?_cons_of_pos (by simp [hkey])]
  unfold checkKeys
  rw [hfound]

/-- A node with a key added that does not belong to its tag has an unexpected key. -/
theorem node_append_cons (path : FieldPath) (front back : List (String × Json)) (tag : String)
    (shape : Shape) (htag : Entries.find? (front ++ back) "type" = some (.string tag))
    (hshape : shape? tag = some shape) (h : IsNode (.object (front ++ back))) (key : String)
    (x : Json) (hkey : key ∉ ["type", "optional", "errors"] ++ shape.keys) :
    node path (.object (front ++ (key, x) :: back)) =
      .error (.malformedDescriptor path (.unexpectedKey key)) := by
  obtain ⟨hkeys, -⟩ := (isNode_object_iff _ tag shape htag hshape).1 h
  have hne : ("type" == key) = false := by
    rw [beq_eq_false_iff_ne]
    rintro rfl
    exact hkey (by simp)
  refine node_of_checkKeys_eq_error path _ tag shape ?_ hshape _
    (checkKeys_append_cons path _ front back key x hkeys hkey)
  unfold Entries.find? at htag ⊢
  rw [List.lookup_append] at htag ⊢
  rw [List.lookup_cons, hne]
  exact htag

end Descriptor

namespace Schema

open Descriptor

variable (d : Json) (step : PathStep) (rest : List PathStep) (x : Json)

/-- A descriptor with a faulty node in the place where steps lead to has its fault. -/
theorem ofDescriptor_replaceAt (h : IsDescriptor d) (hx : documentAt? d (step :: rest) = some x)
    (new : List (String × Json)) (fault : Defect)
    (hnew : Descriptor.node (.ofSteps (step :: rest)) (.object new) = .error fault) :
    Schema.ofDescriptor (replaceAt d (step :: rest) (.object new)) = .error fault := by
  obtain ⟨es, rfl⟩ := isObject_of_isDescriptor d h
  obtain ⟨child, hchild, hrest⟩ := Option.bind_eq_some_iff.1 hx
  obtain ⟨name, members, rfl, under, found, hnode, hbelow⟩ :=
    hasProperty_of_child? es h step child hchild
  have hread := node_replaceAt new fault rest (FieldPath.root.child (.property name)) child x hnode
    hrest hnew
  have hproperties := objectMembers_insert .root es members hbelow name child _ fault found hread
  obtain ⟨es', hes, hkeys, -, htag, -⟩ := h
  obtain rfl := Json.object.inj hes
  -- The keys and the tag of the root are read before its properties, and they are as they were.
  have hcheck := checkKeys_insert .root _ es "properties" _
    (.object (Entries.insert name (replaceAt child rest (.object new)) members)) under hkeys
  have hroot : rootTag (Entries.insert "properties"
      (.object (Entries.insert name (replaceAt child rest (.object new)) members)) es) = .ok () := by
    rw [rootTag_eq_ok_iff]
    unfold Under
    rw [Entries.find?_insert_of_ne es "properties" _ "type" (by decide)]
    exact htag
  unfold replaceAt
  rw [hchild]
  simp only [replaceChild_property es members name _ under]
  rw [ofDescriptor_eq]
  show (checkKeys .root _ _ >>= _) = _
  rw [hcheck]
  show (rootTag _ >>= _) = _
  rw [hroot]
  show (objectMembers .root _ >>= _) = _
  rw [hproperties]
  rfl

/-- Faults of a descriptor name the paths of the plan. Let a descriptor be read and its schema be
compiled, and let steps lead from the root to a document in the descriptor. The document is an object
with a known tag, and the same steps lead to a node of the schema and to a plan of the validator. The
path of that plan is the one under which the document is read as the node and the node is compiled
to the plan.

If the tag of the document is replaced by an unknown one, reading the descriptor fails with this tag
and this path. If a key that does not belong to the tag is added anywhere among the keys of the
document, reading fails with this key and this path. -/
theorem fault_paths [PatternLanguage] (s : Schema) (extraParams : List String) (v : Validator)
    (hread : Schema.ofDescriptor d = .ok s) (hcompile : s.compile extraParams = .ok v)
    (hx : documentAt? d (step :: rest) = some x) :
    ∃ es tag shape node plan,
      x = .object es ∧ Entries.find? es "type" = some (.string tag) ∧ shape? tag = some shape ∧
      s.node.at? (step :: rest) = some node ∧ v.plan.at? (step :: rest) = some plan ∧
      plan.own.path = .ofSteps (step :: rest) ∧
      Descriptor.node plan.own.path x = .ok node ∧ node.compile plan.own.path = .ok plan ∧
      (∀ unknown, shape? unknown = none →
        Schema.ofDescriptor (replaceAt d (step :: rest)
            (.object (Entries.insert "type" (.string unknown) es))) =
          .error (.unknownType plan.own.path unknown)) ∧
      ∀ front back key value, es = front ++ back →
        key ∉ ["type", "optional", "errors"] ++ shape.keys →
        Schema.ofDescriptor (replaceAt d (step :: rest) (.object (front ++ (key, value) :: back))) =
          .error (.malformedDescriptor plan.own.path (.unexpectedKey key)) := by
  obtain ⟨hd, rfl⟩ := (ofDescriptor_eq_ok_iff d s).1 hread
  obtain ⟨hdefects, rfl⟩ := ((Schema.spelled d).compile_eq_ok_iff extraParams v).1 hcompile
  obtain ⟨hnode, hat⟩ := at?_node_spelled d step rest x hd hx
  obtain ⟨es, rfl⟩ := isObject_of_isNode x hnode
  have hplan : ((Schema.spelled d).node.plan .root).at? (step :: rest) =
      some ((Descriptor.spelled (.object es)).plan (.ofSteps (step :: rest))) :=
    Node.at?_plan (step :: rest) _ _ .root hat
  have hpath : ((Descriptor.spelled (.object es)).plan (.ofSteps (step :: rest))).own.path =
      .ofSteps (step :: rest) := by
    rw [Node.own_plan]
    rfl
  -- The schema compiles, so there is no defect below the node.
  have hnone : defectsOf ((Descriptor.spelled (.object es)).nodes (step :: rest)) = [] := by
    rw [defectsOf_eq_nil_iff]
    intro place hplace
    exact ((Schema.spelled d).defects_eq_nil_iff extraParams).1 hdefects |>.2.2 place
      (Node.mem_nodes_of_at? (step :: rest) _ _ [] hat place hplace)
  cases id hnode with
  | object _ tag shape type known keys forms below =>
    refine ⟨es, tag, shape, _, _, rfl, type, known, hat, hplan, ?_⟩
    rw [hpath]
    refine ⟨rfl, (readsRight _ _ _).2 ⟨hnode, rfl⟩, ?_, ?_, ?_⟩
    · rw [Node.compile_eq, hnone]
      rfl
    · intro unknown hunknown
      exact ofDescriptor_replaceAt d step rest _ hd hx _ _ (node_insert_type _ es unknown hunknown)
    · rintro front back key value rfl hkey
      exact ofDescriptor_replaceAt d step rest _ hd hx _ _
        (node_append_cons _ front back tag shape type known hnode key value hkey)

end Schema

namespace Demo

/-- The second cell of each row of a table. -/
def nameCell : List (String × Json) := [("type", .string "string"), ("maxLen", .int 3)]

/-- A table: a list of rows, which are a number and a name. -/
def table : Json :=
  .object [("properties", .object [("rows", .object [("type", .string "array"),
    ("items", .object [("type", .string "array"),
      ("items", .array [.object [("type", .string "u8")], .object nameCell])])])])]

/-- The cell is at the path `rows/*/1` in the plan of the table, and its faults name this path. -/
theorem fault_paths_nameCell :
    ∃ s v plan, Schema.ofDescriptor table = .ok s ∧ s.compile [] = .ok v ∧
      v.plan.at? [.property "rows", .items, .position 1] = some plan ∧
      plan.own.path = ⟨"rows/*/1"⟩ ∧
      Schema.ofDescriptor (Descriptor.replaceAt table [.property "rows", .items, .position 1]
          (.object [("type", .string "text"), ("maxLen", .int 3)])) =
        .error (.unknownType plan.own.path "text") ∧
      Schema.ofDescriptor (Descriptor.replaceAt table [.property "rows", .items, .position 1]
          (.object [("type", .string "string"), ("min", .int 0), ("maxLen", .int 3)])) =
        .error (.malformedDescriptor plan.own.path (.unexpectedKey "min")) := by
  have hcompiles : (Schema.ofDescriptor table >>= (·.compile [])).isOk = true := by decide +kernel
  cases hread : Schema.ofDescriptor table with
  | error d =>
    rw [hread] at hcompiles
    cases hcompiles
  | ok s =>
    rw [hread] at hcompiles
    cases hcompile : s.compile [] with
    | error d =>
      have herror : (s.compile []).isOk = true := hcompiles
      rw [hcompile] at herror
      cases herror
    | ok v =>
      have hcell : Descriptor.documentAt? table [.property "rows", .items, .position 1] =
          some (.object nameCell) := by rfl
      obtain ⟨es, tag, shape, node, plan, hes, htag, hshape, -, hplan, hpath, -, -, htype, hkey⟩ :=
        Schema.fault_paths table _ _ _ s [] v hread hcompile hcell
      obtain rfl := Json.object.inj hes
      obtain rfl := Json.string.inj (Option.some.inj htag)
      obtain rfl := Option.some.inj hshape
      refine ⟨s, v, plan, rfl, hcompile, hplan, hpath.trans (by decide), ?_, ?_⟩
      · exact htype "text" (by decide)
      · exact hkey [("type", .string "string")] [("maxLen", .int 3)] "min" (.int 0) rfl (by decide)

end Demo

end DataShape
