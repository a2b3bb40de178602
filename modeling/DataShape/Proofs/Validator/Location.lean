import DataShape.Proofs.Validator.Refinement

/-!
# Every failure tells where it is

A producer of errors is called with a value, a path, the position of an item and a parameter.
`Schema.failure_located` says that these belong together. There is a trail from the root that leads to
a node of the schema (`Node.Reaches`) and, move by move, to the value in the input (`Value.Leads`); the
path and the position are those of the trail, and the parameter is the one that the failing constraint
of that node hands over (`Node.Hands`).

A run sends what a reading of the schema sends, and each report of a reading carries its trail. So it
is enough to follow the reports of a node down the tree (`Node.madeBelow_of_mem_reports`).
-/

namespace DataShape

/-! ## Where a trail leads -/

/-- A trail leads from a node down to another: to a property that is declared, to a position of a
tuple, or to the node that all items share, whichever item is chosen. -/
inductive Node.Reaches : Node → Trail → Node → Prop
  | here (node : Node) : Reaches node [] node
  | element (attrs : Attributes) (lengths : LengthBounds) (item target : Node) (i : Nat)
      (trail : Trail) (below : Reaches item trail target) :
      Reaches (.arrayOf attrs lengths item) (.element i :: trail) target
  | position (attrs : Attributes) (lengths : LengthBounds) (positions : List Node)
      (child target : Node) (i : Nat) (trail : Trail) (declared : positions[i]? = some child)
      (below : Reaches child trail target) :
      Reaches (.tuple attrs lengths positions) (.position i :: trail) target
  | property (attrs : Attributes) (allowExtra : Bool) (properties : List (String × Node))
      (child target : Node) (name : String) (trail : Trail)
      (declared : (name, child) ∈ properties) (below : Reaches child trail target) :
      Reaches (.object attrs allowExtra properties) (.property name :: trail) target

/-- A node that is reached is one of the nodes of the tree, under the steps of the trail. -/
theorem Node.mem_nodes_of_reaches (node target : Node) (trail : Trail)
    (h : node.Reaches trail target) : ∀ steps : List PathStep,
      (steps ++ trail.map Move.step, target) ∈ node.nodes steps := by
  -- Each move of the trail appends its step to those that lead to the tree.
  induction h with
  | here node =>
    intro steps
    rw [List.map_nil, List.append_nil]
    exact node.self_mem_nodes steps
  | element attrs lengths item target i trail _ ih =>
    intro steps
    have hitem := ih (steps ++ [.items])
    rw [List.append_assoc] at hitem
    unfold nodes
    exact List.mem_append_left _ hitem
  | position attrs lengths positions child target i trail declared _ ih =>
    intro steps
    have hchild := ih (steps ++ [.position (0 + i)])
    have hmem := mem_positionNodes positions steps child _ 0 i declared hchild
    rw [List.append_assoc, Nat.zero_add] at hmem
    unfold nodes
    exact List.mem_append_left _ hmem
  | property attrs allowExtra properties child target name trail declared _ ih =>
    intro steps
    have hmem := mem_propertyNodes properties steps name child _ declared
      (ih (steps ++ [.property name]))
    rw [List.append_assoc] at hmem
    unfold nodes
    exact List.mem_append_left _ hmem

/-- The value one move below a value, if it is there. -/
def Move.find? (v : Value) : Move → Option Value
  | property name => v.get? name
  | position i => v.item? i
  | element i => v.item? i

/-- A trail leads through a value to a value below it. All values on the way are there. Only the last
move may miss, and then it is one to a property or to a position of a tuple. -/
inductive Value.Leads : Value → Trail → Option Value → Prop
  | here (v : Value) : Leads v [] (some v)
  | absent (v : Value) (move : Move) (missing : move.find? v = none)
      (chosen : move.element? = none) : Leads v [move] none
  | present (v x : Value) (move : Move) (trail : Trail) (value? : Option Value)
      (found : move.find? v = some x) (below : Leads x trail value?) :
      Leads v (move :: trail) value?

/-! ## What a constraint hands over -/

/-- What a producer is given as its parameter when a constraint of a node fails: nothing for the kind,
the declared bound, the first key that is not declared, or the detail of the predicate. -/
inductive Node.Hands (node : Node) (extras : Extras) :
    Option Value → Constraint → Option Value → Prop
  | type (value? : Option Value) : Hands node extras value? .type none
  | minLen (v : Value) (n : UInt64) (declared : node.rule.lengths.min? = some n) :
      Hands node extras (some v) .minLen (some (toValue n))
  | maxLen (v : Value) (n : UInt64) (declared : node.rule.lengths.max? = some n) :
      Hands node extras (some v) .maxLen (some (toValue n))
  | pattern (v : Value) (source : String) (declared : node.rule.pattern? = some source) :
      Hands node extras (some v) .pattern (some (toValue source))
  | min (v : Value) (x : Binary64) (declared : node.rule.min? = some x) :
      Hands node extras (some v) .min (some (toValue x))
  | max (v : Value) (x : Binary64) (declared : node.rule.max? = some x) :
      Hands node extras (some v) .max (some (toValue x))
  | extra (entries : List (String × Value)) (attrs : Attributes)
      (properties : List (String × Node)) (front : List String) (key : String)
      (back : List String) (object : node = .object attrs false properties)
      (keys : Entries.keys entries = front ++ key :: back)
      (declared : ∀ k ∈ front, k ∈ Entries.keys properties)
      (undeclared : key ∉ Entries.keys properties) :
      Hands node extras (some (.map entries)) .extra (some (.string key))
  | validator (v : Value) (p : Predicate) (detail : Value)
      (given : node.attrs.validator? = some p) (refused : p.refusal? v extras = some detail) :
      Hands node extras (some v) .validator (some detail)

/-- Only an object that refuses other keys has a list of them. -/
theorem Node.eq_object_of_only? (node : Node) (allowed : List String)
    (h : node.rule.only? = some allowed) :
    ∃ attrs properties, node = .object attrs false properties ∧
      allowed = Entries.keys properties := by
  cases node with
  | object attrs allowExtra properties =>
    cases allowExtra with
    | true => cases h
    | false => exact ⟨attrs, properties, rfl, (Option.some.inj h).symm⟩
  | leaf attrs rule => cases h
  | arrayOf attrs lengths item => cases h
  | tuple attrs lengths positions => cases h

/-- The undeclared key that is found is the first one in the order of the map. -/
theorem Value.eq_map_of_undeclaredKey? (v : Value) (allowed : List String) (key : String)
    (h : v.undeclaredKey? allowed = some key) :
    ∃ entries front back, v = .map entries ∧ Entries.keys entries = front ++ key :: back ∧
      (∀ k ∈ front, k ∈ allowed) ∧ key ∉ allowed := by
  unfold undeclaredKey? at h
  obtain ⟨entries, hentries, hfind⟩ := Option.bind_eq_some_iff.1 h
  have hv : v = .map entries := by
    cases v with
    | map entries' => exact congrArg Value.map (Option.some.inj hentries)
    | _ => cases hentries
  obtain ⟨hkey, front, back, hkeys, hfront⟩ := List.find?_eq_some_iff_append.1 hfind
  exact ⟨entries, front, back, hv, hkeys, fun k hk => by simpa using hfront k hk,
    by simpa using hkey⟩

/-- A fault of a node comes with the parameter that its constraint hands over. -/
theorem Node.hands_of_fault? [PatternLanguage]
    (node : Node) (extras : Extras) (value? : Option Value)
    (c : Constraint) (fault : Fault) (h : node.fault? extras value? c = some fault) :
    node.Hands extras value? c fault.param? := by
  cases value? with
  | none =>
    -- Nothing but its kind can be wrong with an absent value.
    rw [fault?_none] at h
    split_ifs at h with hc
    obtain rfl := Option.some.inj h
    rw [hc]
    exact .type none
  | some v =>
    cases c with
    | type =>
      simp only [fault?, Rule.fault?] at h
      split_ifs at h
      obtain rfl := Option.some.inj h
      exact .type (some v)
    | minLen =>
      obtain ⟨n, hn, hfault⟩ := Option.bind_eq_some_iff.1 h
      split_ifs at hfault
      obtain rfl := Option.some.inj hfault
      exact .minLen v n hn
    | maxLen =>
      obtain ⟨n, hn, hfault⟩ := Option.bind_eq_some_iff.1 h
      split_ifs at hfault
      obtain rfl := Option.some.inj hfault
      exact .maxLen v n hn
    | pattern =>
      obtain ⟨source, hsource, hfault⟩ := Option.bind_eq_some_iff.1 h
      split_ifs at hfault
      obtain rfl := Option.some.inj hfault
      exact .pattern v source hsource
    | min =>
      obtain ⟨x, hx, hfault⟩ := Option.bind_eq_some_iff.1 h
      split_ifs at hfault
      obtain rfl := Option.some.inj hfault
      exact .min v x hx
    | max =>
      obtain ⟨x, hx, hfault⟩ := Option.bind_eq_some_iff.1 h
      split_ifs at hfault
      obtain rfl := Option.some.inj hfault
      exact .max v x hx
    | extra =>
      obtain ⟨allowed, hallowed, hfault⟩ := Option.bind_eq_some_iff.1 h
      obtain ⟨key, hkey, rfl⟩ := Option.map_eq_some_iff.1 hfault
      obtain ⟨attrs, properties, hnode, rfl⟩ := node.eq_object_of_only? allowed hallowed
      obtain ⟨entries, front, back, rfl, hkeys, hfront, hnot⟩ :=
        v.eq_map_of_undeclaredKey? _ key hkey
      exact .extra entries attrs properties front key back hnode hkeys hfront hnot
    | validator =>
      obtain ⟨p, hp, hfault⟩ := Option.bind_eq_some_iff.1 h
      obtain ⟨detail, hdetail, rfl⟩ := Option.map_eq_some_iff.1 hfault
      exact .validator v p detail hp hdetail

/-! ## Reports of a tree -/

/-- A report is made at a node below the given one, of what stands in its place below the given
value. -/
def Report.MadeBelow [PatternLanguage]
    (r : Report) (extras : Extras) (node : Node) (trail : Trail) (v : Value) :
    Prop :=
  ∃ below target value? c fault, node.Reaches below target ∧ v.Leads below value? ∧
    target.fault? extras value? c = some fault ∧
    r = target.report extras (trail ++ below) value? c fault

/-- The trail of a report leads through the input to the value that is reported of. -/
theorem Report.MadeBelow.leads [PatternLanguage] {r : Report} {extras : Extras} {node : Node}
    {v : Value} (h : r.MadeBelow extras node [] v) : v.Leads r.trail r.context.value? := by
  obtain ⟨below, target, value?, c, fault, -, hleads, -, rfl⟩ := h
  exact hleads

/-- What is in the last nonempty list is in one of the lists. -/
theorem exists_mem_of_mem_lastNonempty {α : Type} (lists : List (List α)) (a : α)
    (h : a ∈ lastNonempty lists) : ∃ list ∈ lists, a ∈ list := by
  induction lists with
  | nil => cases h
  | cons list lists ih =>
    rw [lastNonempty_cons] at h
    cases hlast : lastNonempty lists with
    | nil =>
      rw [hlast] at h
      exact ⟨list, List.mem_cons_self, h⟩
    | cons b found =>
      rw [hlast] at h
      obtain ⟨list', hmem, ha⟩ := ih (hlast ▸ h)
      exact ⟨list', List.mem_cons_of_mem _ hmem, ha⟩

namespace Node

/-- The report of a node itself is that of one of its faults. -/
theorem exists_fault_of_report? [PatternLanguage] (node : Node) (extras : Extras) (trail : Trail)
    (value? : Option Value) (r : Report) (h : node.report? extras trail value? = some r) :
    ∃ c fault, node.fault? extras value? c = some fault ∧
      r = node.report extras trail value? c fault := by
  obtain ⟨c, -, hc⟩ := List.exists_of_findSome?_eq_some h
  obtain ⟨fault, hfault, rfl⟩ := Option.map_eq_some_iff.1 hc
  exact ⟨c, fault, hfault, rfl⟩

/-- The report of a node itself is made at the end of the trail. -/
theorem madeBelow_of_report? [PatternLanguage]
    (node : Node) (extras : Extras) (trail : Trail) (v : Value)
    (r : Report) (h : node.report? extras trail (some v) = some r) :
    r.MadeBelow extras node trail v := by
  obtain ⟨c, fault, hfault, rfl⟩ := node.exists_fault_of_report? extras trail (some v) r h
  refine ⟨[], node, some v, c, fault, .here node, .here v, hfault, ?_⟩
  rw [List.append_nil]

/-- What is reported of a child is reported below the node: of the child's value and what is below
it, or of the child itself when its value is absent. -/
theorem madeBelow_of_child [PatternLanguage]
    (node child : Node) (extras : Extras) (trail : Trail) (v : Value)
    (move : Move) (hmove : move.element? = none)
    (hreaches : ∀ below target, child.Reaches below target → node.Reaches (move :: below) target)
    (hbelow : ∀ x, ∀ r ∈ child.reports extras (trail ++ [move]) (some x),
      r.MadeBelow extras child (trail ++ [move]) x)
    (r : Report)
    (h : r ∈ if child.passesOver (move.find? v) then []
      else child.reports extras (trail ++ [move]) (move.find? v)) :
    r.MadeBelow extras node trail v := by
  split_ifs at h with hpasses
  · cases h
  · cases hfind : move.find? v with
    | none =>
      rw [hfind, reports_none, Option.mem_toList] at h
      obtain ⟨c, fault, hfault, rfl⟩ := child.exists_fault_of_report? extras _ none r h
      exact ⟨[move], child, none, c, fault, hreaches _ _ (.here child),
        .absent v move hfind hmove, hfault, rfl⟩
    | some x =>
      rw [hfind] at h
      obtain ⟨below, target, value?, c, fault, hreach, hleads, hfault, rfl⟩ := hbelow x r h
      refine ⟨move :: below, target, value?, c, fault, hreaches _ _ hreach,
        .present v x move below value? hfind hleads, hfault, ?_⟩
      rw [List.append_assoc, List.singleton_append]

mutual

/-- All reports of a present value are made below the node. -/
theorem madeBelow_of_mem_reports [PatternLanguage]
    (node : Node) (extras : Extras) (trail : Trail) (v : Value)
    (r : Report) (h : r ∈ node.reports extras trail (some v)) : r.MadeBelow extras node trail v := by
  cases node with
  | leaf attrs rule =>
    unfold reports at h
    exact madeBelow_of_report? _ extras trail v r (Option.mem_toList.1 h)
  | arrayOf attrs lengths item =>
    unfold reports at h
    cases hown : (arrayOf attrs lengths item).report? extras trail (some v) with
    | some own =>
      rw [hown] at h
      exact madeBelow_of_report? _ extras trail v r (hown.trans (by rw [List.mem_singleton.1 h]))
    | none =>
      rw [hown] at h
      -- The reports are those of one item, whose position is the one that is chosen.
      obtain ⟨list, hlist, hr⟩ := exists_mem_of_mem_lastNonempty _ r h
      obtain ⟨i, hi, rfl⟩ := List.mem_mapIdx.1 hlist
      obtain ⟨below, target, value?, c, fault, hreach, hleads, hfault, rfl⟩ :=
        madeBelow_of_mem_reports item extras (trail ++ [.element i]) _ r hr
      have hitem : v.item? i = some (((some v).bind Value.list?).getD [])[i] := by
        unfold Value.item?
        cases v with
        | list items => exact List.getElem?_eq_getElem hi
        | _ => exact absurd hi (Nat.not_lt_zero i)
      refine ⟨.element i :: below, target, value?, c, fault,
        .element attrs lengths item target i below hreach,
        .present v _ (.element i) below value? hitem hleads, hfault, ?_⟩
      rw [List.append_assoc, List.singleton_append]
  | tuple attrs lengths positions =>
    unfold reports at h
    cases hown : (tuple attrs lengths positions).report? extras trail (some v) with
    | some own =>
      rw [hown] at h
      exact madeBelow_of_report? _ extras trail v r (hown.trans (by rw [List.mem_singleton.1 h]))
    | none =>
      rw [hown] at h
      exact madeBelow_of_mem_positionReports positions extras trail v 0 _
        (fun j child below target hchild hreach =>
          .position attrs lengths positions child target (0 + j) below
            (by rw [Nat.zero_add]; exact hchild) hreach) r h
  | object attrs allowExtra properties =>
    unfold reports at h
    cases hown : (object attrs allowExtra properties).report? extras trail (some v) with
    | some own =>
      rw [hown] at h
      exact madeBelow_of_report? _ extras trail v r (hown.trans (by rw [List.mem_singleton.1 h]))
    | none =>
      rw [hown] at h
      exact madeBelow_of_mem_propertyReports properties extras trail v _
        (fun name child below target hchild hreach =>
          .property attrs allowExtra properties child target name below hchild hreach) r h

/-- The same for the positions of a tuple, from position `i` on. -/
theorem madeBelow_of_mem_positionReports [PatternLanguage]
    (positions : List Node) (extras : Extras) (trail : Trail)
    (v : Value) (i : Nat) (node : Node)
    (hreaches : ∀ (j : Nat) (child : Node) (below : Trail) (target : Node),
      positions[j]? = some child → child.Reaches below target →
        node.Reaches (.position (i + j) :: below) target)
    (r : Report) (h : r ∈ positionReports extras positions trail (some v) i) :
    r.MadeBelow extras node trail v := by
  cases positions with
  | nil => cases h
  | cons child rest =>
    unfold positionReports at h
    rcases List.mem_append.1 h with h | h
    · exact madeBelow_of_child node child extras trail v (.position i) rfl
        (fun below target hreach => hreaches 0 child below target rfl hreach)
        (fun x r hr => madeBelow_of_mem_reports child extras _ x r hr) r h
    · refine madeBelow_of_mem_positionReports rest extras trail v (i + 1) node
        (fun j child' below target hchild hreach => ?_) r h
      rw [Nat.add_right_comm, Nat.add_assoc]
      exact hreaches (j + 1) child' below target hchild hreach

/-- The same for the properties of an object. -/
theorem madeBelow_of_mem_propertyReports [PatternLanguage]
    (properties : List (String × Node)) (extras : Extras)
    (trail : Trail) (v : Value) (node : Node)
    (hreaches : ∀ (name : String) (child : Node) (below : Trail) (target : Node),
      (name, child) ∈ properties → child.Reaches below target →
        node.Reaches (.property name :: below) target)
    (r : Report) (h : r ∈ propertyReports extras properties trail (some v)) :
    r.MadeBelow extras node trail v := by
  match properties with
  | [] => cases h
  | (name, child) :: rest =>
    unfold propertyReports at h
    rcases List.mem_append.1 h with h | h
    · exact madeBelow_of_child node child extras trail v (.property name) rfl
        (fun below target hreach => hreaches name child below target List.mem_cons_self hreach)
        (fun x r hr => madeBelow_of_mem_reports child extras _ x r hr) r h
    · exact madeBelow_of_mem_propertyReports rest extras trail v node
        (fun name' child' below target hchild hreach =>
          hreaches name' child' below target (List.mem_cons_of_mem _ hchild) hreach) r h

end

end Node

/-! ## Failures of a run -/

/-- Each failure of a run tells where it is. A trail leads from the root to a node of the schema and
through the input to the value that the producer sees; the path and the position that it sees are
those of the trail, and its parameter is what the failing constraint of the node hands over. A
producer that is a function is the one that the node has for that constraint. -/
theorem Schema.failure_located [PatternLanguage]
    (s : Schema) (extraParams : List String) (v : Validator)
    (h : s.compile extraParams = .ok v) (input : Value) (args : List Value) (f : Failure)
    (hf : f ∈ v.failures input args) :
    ∃ (trail : Trail) (node : Node) (c : Constraint),
      s.node.Reaches trail node ∧ input.Leads trail f.context.value? ∧
      f.context.path = .ofSteps (trail.map Move.step) ∧
      f.context.index? = (trail.filterMap Move.element?).getLast? ∧
      node.Hands { names := extraParams, args } f.context.value? c f.context.param? ∧
      f.context.extras = { names := extraParams, args } ∧
      ∀ run source?, f.check.producer = .closure run source? →
        node.attrs.errors.find? c = some (.closure run source?) := by
  have hsent : f.sent ∈ (s.reports { names := extraParams, args } input).map Report.sent := by
    rw [← s.sent_failures extraParams v h input args]
    exact List.mem_map_of_mem hf
  obtain ⟨r, hr, heq⟩ := List.mem_map.1 hsent
  obtain ⟨trail, node, value?, c, fault, hreach, hleads, hfault, rfl⟩ :=
    s.node.madeBelow_of_mem_reports _ [] input r hr
  obtain ⟨hproducer, hcontext⟩ := Prod.mk.inj heq
  have hhands := node.hands_of_fault? _ value? c fault hfault
  rw [← hcontext]
  refine ⟨trail, node, c, hreach, hleads, rfl, rfl, hhands, rfl, fun run source? hrun => ?_⟩
  -- The default message is no function, so the producer is one that the node has.
  rw [← hproducer] at hrun
  simp only [Node.report] at hrun
  cases hfind : node.attrs.errors.find? c with
  | none =>
    rw [hfind] at hrun
    cases hrun
  | some producer =>
    rw [hfind] at hrun
    exact congrArg some hrun

/-- The sample of the demonstration has five failures. -/
theorem Demo.length_failures_sample :
    (Validator.failures { plan := Demo.schema.node.plan .root, extraParams := ["limit"] }
      Demo.sample [toValue 3]).length = 5 := by
  decide +kernel

/-- The last failure of the sample of the demonstration is at the age of its third user. -/
theorem Demo.failure_located_sample :
    Demo.schema.compile ["limit"] =
        .ok { plan := Demo.schema.node.plan .root, extraParams := ["limit"] } ∧
      ∃ f ∈ Validator.failures { plan := Demo.schema.node.plan .root, extraParams := ["limit"] }
          Demo.sample [toValue 3],
        f.context.path.text = "users/*/age" ∧ f.context.index? = some 2 ∧
        ∃ (trail : Trail) (node : Node) (c : Constraint),
          Demo.schema.node.Reaches trail node ∧ Demo.sample.Leads trail f.context.value? ∧
          f.context.path = .ofSteps (trail.map Move.step) ∧
          f.context.index? = (trail.filterMap Move.element?).getLast? ∧
          node.Hands { names := ["limit"], args := [toValue 3] } f.context.value? c
            f.context.param? ∧
          f.context.extras = { names := ["limit"], args := [toValue 3] } ∧
          ∀ run source?, f.check.producer = .closure run source? →
            node.attrs.errors.find? c = some (.closure run source?) := by
  have hmem := List.getElem_mem (Demo.length_failures_sample ▸ (by decide : 4 < 5))
  refine ⟨Demo.compile_schema, _, hmem, by decide +kernel, by decide +kernel, ?_⟩
  exact Demo.schema.failure_located ["limit"] _ Demo.compile_schema Demo.sample [toValue 3] _ hmem

end DataShape
