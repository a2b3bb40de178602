import DataShape.Proofs.Schema.WithoutErrors
import DataShape.Proofs.Validator.Nesting

/-!
# Producers have no part in what fails

Take two schemas that differ in nothing but their producers of errors. Both compile or both are
refused with the same defect, and the failures of any input are the same, one by one: at the same
node, under the same constraint, with the same value, parameter, path and position. Only the errors
may differ, and only where the producers do (`Schema.producers_noninterference`).

Both schemas are read side by side (`Node.reports_alike`). At each pair of nodes the same constraint
is the first with a fault, so the reports differ in nothing but the producer that is called
(`Report.Alike`). A scan of items goes by what is reported and stops at the same item.
-/

namespace DataShape

/-! ## Reading two schemas side by side -/

/-- Two reports of the same fault of the same value, at nodes below `node` and `node'` that differ in
nothing but their producers. -/
inductive Report.Alike [PatternLanguage]
    (extras : Extras) (node node' : Node) (trail : Trail) (v : Value) :
    Report → Report → Prop
  | mk (below : Trail) (target target' : Node) (value? : Option Value) (c : Constraint)
      (fault : Fault) (reached : node.Reaches below target)
      (reached' : node'.Reaches below target')
      (same : target.withoutErrors = target'.withoutErrors) (leads : v.Leads below value?)
      (found : target.finding? extras value? = some (c, fault)) :
      Alike extras node node' trail v (target.report extras (trail ++ below) value? c fault)
        (target'.report extras (trail ++ below) value? c fault)

namespace Node

/-- Nodes that differ in nothing but their producers find the same wrong with a value. -/
theorem finding?_eq_of_withoutErrors_eq [PatternLanguage] (node node' : Node)
    (h : node.withoutErrors = node'.withoutErrors) (extras : Extras) (value? : Option Value) :
    node.finding? extras value? = node'.finding? extras value? := by
  have hfault (c : Constraint) : node.fault? extras value? c = node'.fault? extras value? c := by
    unfold fault?
    rw [rule_eq_of_withoutErrors_eq node node' h, validator?_eq_of_withoutErrors_eq node node' h]
  unfold finding?
  simp only [hfault]

/-- Nodes that differ in nothing but their producers pass over the same values. -/
theorem passesOver_eq_of_withoutErrors_eq (node node' : Node)
    (h : node.withoutErrors = node'.withoutErrors) (value? : Option Value) :
    node.passesOver value? = node'.passesOver value? := by
  unfold passesOver
  rw [optional_eq_of_withoutErrors_eq node node' h]

/-- What two such nodes report themselves comes from what both find. -/
theorem forall₂_report? [PatternLanguage] (R : Report → Report → Prop) (node node' : Node)
    (h : node.withoutErrors = node'.withoutErrors) (extras : Extras) (trail : Trail)
    (value? : Option Value)
    (hR : ∀ c fault, node.finding? extras value? = some (c, fault) →
      R (node.report extras trail value? c fault) (node'.report extras trail value? c fault)) :
    List.Forall₂ R (node.report? extras trail value?).toList
      (node'.report? extras trail value?).toList := by
  rw [report?_eq_map_finding?, report?_eq_map_finding?,
    ← finding?_eq_of_withoutErrors_eq node node' h]
  cases hfinding : node.finding? extras value? with
  | none => exact .nil
  | some found => exact .cons (hR found.1 found.2 hfinding) .nil

/-- What two such nodes report themselves of a value that is present is alike. -/
theorem report?_alike [PatternLanguage]
    (node node' : Node) (h : node.withoutErrors = node'.withoutErrors)
    (extras : Extras) (trail : Trail) (v : Value) :
    List.Forall₂ (Report.Alike extras node node' trail v)
      (node.report? extras trail (some v)).toList (node'.report? extras trail (some v)).toList := by
  refine forall₂_report? _ node node' h extras trail (some v) fun c fault hfound => ?_
  have hmade : Report.Alike extras node node' trail v
      (node.report extras (trail ++ []) (some v) c fault)
      (node'.report extras (trail ++ []) (some v) c fault) :=
    .mk [] node node' (some v) c fault (.here node) (.here node') h (.here v) hfound
  rwa [List.append_nil] at hmade

/-- What is reported alike of children is reported alike of the nodes, one move further up. -/
theorem alike_of_child [PatternLanguage]
    (node node' child child' : Node) (extras : Extras) (trail : Trail)
    (v x : Value) (move : Move) (hfound : move.find? v = some x)
    (hreaches : ∀ below target, child.Reaches below target → node.Reaches (move :: below) target)
    (hreaches' : ∀ below target, child'.Reaches below target →
      node'.Reaches (move :: below) target)
    (r r' : Report) (h : Report.Alike extras child child' (trail ++ [move]) x r r') :
    Report.Alike extras node node' trail v r r' := by
  obtain ⟨below, target, target', value?, c, fault, reached, reached', same, leads, found⟩ := h
  have hmade : Report.Alike extras node node' trail v
      (target.report extras (trail ++ move :: below) value? c fault)
      (target'.report extras (trail ++ move :: below) value? c fault) :=
    .mk (move :: below) target target' value? c fault (hreaches _ _ reached)
      (hreaches' _ _ reached') same (.present v x move below value? hfound leads) found
  rwa [← List.singleton_append, ← List.append_assoc] at hmade

/-- What is reported of children in the same place, which may be passed over or absent, is reported
alike of the nodes. -/
theorem place_alike [PatternLanguage] (node node' child child' : Node)
    (h : child.withoutErrors = child'.withoutErrors) (extras : Extras) (trail : Trail) (v : Value)
    (move : Move) (hmove : move.element? = none)
    (hreaches : ∀ below target, child.Reaches below target → node.Reaches (move :: below) target)
    (hreaches' : ∀ below target, child'.Reaches below target →
      node'.Reaches (move :: below) target)
    (hpresent : ∀ x, List.Forall₂ (Report.Alike extras child child' (trail ++ [move]) x)
      (child.reports extras (trail ++ [move]) (some x))
      (child'.reports extras (trail ++ [move]) (some x))) :
    List.Forall₂ (Report.Alike extras node node' trail v)
      (if child.passesOver (move.find? v) then []
        else child.reports extras (trail ++ [move]) (move.find? v))
      (if child'.passesOver (move.find? v) then []
        else child'.reports extras (trail ++ [move]) (move.find? v)) := by
  rw [← passesOver_eq_of_withoutErrors_eq child child' h]
  cases child.passesOver (move.find? v) with
  | true => exact .nil
  | false =>
    cases hfind : move.find? v with
    | some x =>
      exact (hpresent x).imp fun r r' hr =>
        alike_of_child node node' child child' extras trail v x move hfind hreaches hreaches' r r' hr
    | none =>
      -- An absent child is reported itself, at the end of the trail.
      simp only [reports_none, Bool.false_eq_true, if_false]
      refine forall₂_report? _ child child' h extras _ none fun c fault hfound => ?_
      exact .mk [move] child child' none c fault (hreaches _ _ (.here child))
        (hreaches' _ _ (.here child')) h (.absent v move hfind hmove) hfound

mutual

/-- Trees that differ in nothing but their producers report alike. -/
theorem reports_alike [PatternLanguage]
    (node node' : Node) (h : node.withoutErrors = node'.withoutErrors)
    (extras : Extras) (trail : Trail) (v : Value) :
    List.Forall₂ (Report.Alike extras node node' trail v) (node.reports extras trail (some v))
      (node'.reports extras trail (some v)) := by
  -- The induction is over the first tree. The second one has the same shape.
  have hown := report?_alike node node' h extras trail v
  cases node with
  | leaf attrs rule =>
    cases node' with
    | leaf attrs' rule' =>
      unfold reports
      exact hown
    | _ => (unfold withoutErrors at h; cases h)
  | arrayOf attrs lengths item =>
    cases node' with
    | arrayOf attrs' lengths' item' =>
      unfold withoutErrors at h
      obtain ⟨-, -, hitem⟩ := Node.arrayOf.inj h
      unfold reports
      -- Each item is reported alike, so the last one with reports is the same on both sides.
      refine forall₂_unless _ _ _ _ hown (forall₂_lastNonempty _ _ (forall₂_mapIdx _ _ _ ?_))
      intro i x hx
      have hfound : (Move.element i).find? v = some x := by
        cases v with
        | list items => exact hx
        | _ => cases hx
      refine (reports_alike item item' hitem extras (trail ++ [.element i]) x).imp
        fun r r' hr => alike_of_child _ _ item item' extras trail v x (.element i) hfound ?_ ?_ r r' hr
      · exact fun below target hreach => .element attrs lengths item target i below hreach
      · exact fun below target hreach => .element attrs' lengths' item' target i below hreach
    | _ => (unfold withoutErrors at h; cases h)
  | tuple attrs lengths positions =>
    cases node' with
    | tuple attrs' lengths' positions' =>
      unfold withoutErrors at h
      obtain ⟨-, -, hpositions⟩ := Node.tuple.inj h
      unfold reports
      exact forall₂_unless _ _ _ _ hown
        (positionReports_alike positions positions' hpositions extras trail v 0 _ _
          (fun j child below target hchild hreach =>
            .position attrs lengths positions child target (0 + j) below
              (by rw [Nat.zero_add]; exact hchild) hreach)
          (fun j child below target hchild hreach =>
            .position attrs' lengths' positions' child target (0 + j) below
              (by rw [Nat.zero_add]; exact hchild) hreach))
    | _ => (unfold withoutErrors at h; cases h)
  | object attrs allowExtra properties =>
    cases node' with
    | object attrs' allowExtra' properties' =>
      unfold withoutErrors at h
      obtain ⟨-, -, hproperties⟩ := Node.object.inj h
      unfold reports
      exact forall₂_unless _ _ _ _ hown
        (propertyReports_alike properties properties' hproperties extras trail v _ _
          (fun name child below target hchild hreach =>
            .property attrs allowExtra properties child target name below hchild hreach)
          (fun name child below target hchild hreach =>
            .property attrs' allowExtra' properties' child target name below hchild hreach))
    | _ => (unfold withoutErrors at h; cases h)
termination_by structural node

/-- The same for the positions of tuples, from position `i` on. -/
theorem positionReports_alike [PatternLanguage] (positions positions' : List Node)
    (h : positionsWithoutErrors positions = positionsWithoutErrors positions') (extras : Extras)
    (trail : Trail) (v : Value) (i : Nat) (node node' : Node)
    (hreaches : ∀ (j : Nat) (child : Node) (below : Trail) (target : Node),
      positions[j]? = some child → child.Reaches below target →
        node.Reaches (.position (i + j) :: below) target)
    (hreaches' : ∀ (j : Nat) (child : Node) (below : Trail) (target : Node),
      positions'[j]? = some child → child.Reaches below target →
        node'.Reaches (.position (i + j) :: below) target) :
    List.Forall₂ (Report.Alike extras node node' trail v)
      (positionReports extras positions trail (some v) i)
      (positionReports extras positions' trail (some v) i) := by
  cases positions with
  | nil =>
    cases positions' with
    | nil => exact .nil
    | cons child' rest' => cases h
  | cons child rest =>
    cases positions' with
    | nil => cases h
    | cons child' rest' =>
      unfold positionsWithoutErrors at h
      obtain ⟨hchild, hrest⟩ := List.cons.inj h
      unfold positionReports
      have hfirst := place_alike node node' child child' hchild extras trail v (.position i) rfl
        (hreaches 0 child · · rfl) (hreaches' 0 child' · · rfl)
        fun x => reports_alike child child' hchild extras _ x
      refine List.rel_append hfirst
        (positionReports_alike rest rest' hrest extras trail v (i + 1) node node' ?_ ?_)
      · intro j other below target hother hreach
        rw [Nat.add_right_comm, Nat.add_assoc]
        exact hreaches (j + 1) other below target hother hreach
      · intro j other below target hother hreach
        rw [Nat.add_right_comm, Nat.add_assoc]
        exact hreaches' (j + 1) other below target hother hreach
termination_by structural positions

/-- The same for the properties of objects. -/
theorem propertyReports_alike [PatternLanguage] (properties properties' : List (String × Node))
    (h : propertiesWithoutErrors properties = propertiesWithoutErrors properties')
    (extras : Extras) (trail : Trail) (v : Value) (node node' : Node)
    (hreaches : ∀ (name : String) (child : Node) (below : Trail) (target : Node),
      (name, child) ∈ properties → child.Reaches below target →
        node.Reaches (.property name :: below) target)
    (hreaches' : ∀ (name : String) (child : Node) (below : Trail) (target : Node),
      (name, child) ∈ properties' → child.Reaches below target →
        node'.Reaches (.property name :: below) target) :
    List.Forall₂ (Report.Alike extras node node' trail v)
      (propertyReports extras properties trail (some v))
      (propertyReports extras properties' trail (some v)) := by
  match properties, properties' with
  | [], [] => exact .nil
  | [], (name', child') :: rest' => cases h
  | (name, child) :: rest, [] => cases h
  | (name, child) :: rest, (name', child') :: rest' =>
    unfold propertiesWithoutErrors at h
    obtain ⟨hfirst, hrest⟩ := List.cons.inj h
    obtain ⟨rfl, hchild⟩ := Prod.mk.inj hfirst
    unfold propertyReports
    have hplace := place_alike node node' child child' hchild extras trail v (.property name) rfl
      (hreaches name child · · List.mem_cons_self) (hreaches' name child' · · List.mem_cons_self)
      fun x => reports_alike child child' hchild extras _ x
    refine List.rel_append hplace
      (propertyReports_alike rest rest' hrest extras trail v node node' ?_ ?_)
    · intro name' other below target hother hreach
      exact hreaches name' other below target (List.mem_cons_of_mem _ hother) hreach
    · intro name' other below target hother hreach
      exact hreaches' name' other below target (List.mem_cons_of_mem _ hother) hreach
termination_by structural properties

end

end Node

/-! ## Two runs -/

/-- Lists are related, element by element, if they have the same images as lists that are, and the
relation goes from these over to elements of the same image. -/
theorem forall₂_of_map_eq {α β γ : Type} (f : α → γ) (g : β → γ) (Q : α → α → Prop)
    (R : β → β → Prop) (hQ : ∀ a a' b b', f a = g b → f a' = g b' → R b b' → Q a a')
    (bs bs' : List β) (h : List.Forall₂ R bs bs') : ∀ as as' : List α,
      as.map f = bs.map g → as'.map f = bs'.map g → List.Forall₂ Q as as' := by
  induction h with
  | nil =>
    intro as as' has has'
    rw [List.map_eq_nil_iff.1 has, List.map_eq_nil_iff.1 has']
    exact .nil
  | @cons b b' bs bs' hfirst _ ih =>
    intro as as' has has'
    obtain ⟨a, rest, rfl, ha, hrest⟩ := List.map_eq_cons_iff.1 has
    obtain ⟨a', rest', rfl, ha', hrest'⟩ := List.map_eq_cons_iff.1 has'
    exact .cons (hQ a a' b b' ha ha' hfirst) (ih rest rest' hrest hrest')

namespace Schema

/-- What is sent to a producer is sent for a node and a constraint. A trail leads from the root to the
node and through the input to the value. The constraint is the first of the node with a fault, the
parameter is that of the fault, and the path and the position are those of the trail. The producer is
the one that the node has for the constraint, or else the default message. -/
structure Sends [PatternLanguage]
    (s : Schema) (extras : Extras) (input : Value) (trail : Trail) (node : Node)
    (c : Constraint) (sent : Producer × FailureContext) : Prop where
  reached : s.node.Reaches trail node
  leads : input.Leads trail sent.2.value?
  path : sent.2.path = trail.path
  index : sent.2.index? = trail.index?
  bound : sent.2.extras = extras
  found : ∃ fault, node.finding? extras sent.2.value? = some (c, fault) ∧
    sent.2.param? = fault.param? ∧
    sent.1 = (node.attrs.errors.find? c).getD
      (.literal (.message (trail.path.subject ++ fault.text)))

/-- Two failures of one input, under schemas that differ in nothing but their producers, are sent for
the same node and constraint, and the producers see the same. If the producers of the node for the
constraint are the same, so are the errors. -/
def FailAlike [PatternLanguage]
    (s s' : Schema) (extras : Extras) (input : Value) (f f' : Failure) : Prop :=
  ∃ (trail : Trail) (node node' : Node) (c : Constraint),
    s.Sends extras input trail node c f.sent ∧ s'.Sends extras input trail node' c f'.sent ∧
    node.withoutErrors = node'.withoutErrors ∧ f.context = f'.context ∧
    (node.attrs.errors.find? c = node'.attrs.errors.find? c → f.error = f'.error)

/-- Failures that are sent like reports that are alike fail alike. -/
theorem failAlike_of_alike [PatternLanguage]
    (s s' : Schema) (extras : Extras) (input : Value) (f f' : Failure)
    (r r' : Report) (hr : f.sent = r.sent) (hr' : f'.sent = r'.sent)
    (h : Report.Alike extras s.node s'.node [] input r r') : s.FailAlike s' extras input f f' := by
  obtain ⟨trail, node, node', value?, c, fault, reached, reached', same, leads, found⟩ := h
  rw [List.nil_append] at hr hr'
  have found' := found
  rw [Node.finding?_eq_of_withoutErrors_eq node node' same] at found'
  obtain ⟨hproducer, hcontext⟩ := Prod.mk.inj hr
  obtain ⟨hproducer', hcontext'⟩ := Prod.mk.inj hr'
  refine ⟨trail, node, node', c, ?_, ?_, same, hcontext.trans hcontext'.symm, ?_⟩
  · rw [hr]
    exact ⟨reached, leads, rfl, rfl, rfl, fault, found, rfl, rfl⟩
  · rw [hr']
    exact ⟨reached', leads, rfl, rfl, rfl, fault, found', rfl, rfl⟩
  · intro hsame
    unfold Failure.error
    rw [hproducer, hproducer', hcontext, hcontext']
    simp only [Node.report, hsame]

/-- Producers of errors have no part in what fails. Two schemas that differ in nothing but their
producers both compile, or are refused with the same defect. Then any input has as many errors under
one as under the other, and its failures are alike, one by one. -/
theorem producers_noninterference [PatternLanguage]
    (s s' : Schema) (h : s.withoutErrors = s'.withoutErrors)
    (extraParams : List String) :
    ((∃ v, s.compile extraParams = .ok v) ↔ ∃ v', s'.compile extraParams = .ok v') ∧
    (∀ d, s.compile extraParams = .error d ↔ s'.compile extraParams = .error d) ∧
    ∀ v v' : Validator, s.compile extraParams = .ok v → s'.compile extraParams = .ok v' →
      ∀ (input : Value) (args : List Value),
        (v.validate input args).length = (v'.validate input args).length ∧
        List.Forall₂ (s.FailAlike s' { names := extraParams, args } input)
          (v.failures input args) (v'.failures input args) := by
  have hdefects := s.defects_eq_of_withoutErrors_eq s' h extraParams
  refine ⟨?_, ?_, ?_⟩
  · simp only [compile_eq_ok_iff, hdefects, exists_and_left, exists_eq']
  · intro d
    rw [compile_eq, compile_eq, unlessDefect_eq_error_iff, unlessDefect_eq_error_iff, hdefects]
  · intro v v' hv hv' input args
    have hnodes : s.node.withoutErrors = s'.node.withoutErrors := by
      rw [← node_withoutErrors, h, node_withoutErrors]
    have hreports := Node.reports_alike s.node s'.node hnodes { names := extraParams, args } [] input
    have hsent := s.sent_failures extraParams v hv input args
    have hsent' := s'.sent_failures extraParams v' hv' input args
    have hfailures : List.Forall₂ (s.FailAlike s' { names := extraParams, args } input)
        (v.failures input args) (v'.failures input args) :=
      forall₂_of_map_eq Failure.sent Report.sent _ _ (s.failAlike_of_alike s' _ input) _ _ hreports
        _ _ hsent hsent'
    refine ⟨?_, hfailures⟩
    unfold Validator.validate
    rw [List.length_map, List.length_map]
    exact hfailures.length_eq

end Schema

namespace Demo

/-- The demonstration schema with no producers but one, which replaces the message for a long name. -/
def mutedSchema : Schema :=
  { schema.withoutErrors with
    properties := Entries.insert "name"
      (.ofString [.own (.maxLen 15), .error .maxLen (.literal (.code 7))])
      schema.withoutErrors.properties }

/-- Nothing but producers has been changed. -/
theorem withoutErrors_mutedSchema : schema.withoutErrors = mutedSchema.withoutErrors := by
  rfl

/-- The sample fails alike under the demonstration schema and without its producers. -/
theorem producers_noninterference_sample :
    schema.withoutErrors = mutedSchema.withoutErrors ∧
      schema.compile ["limit"] =
        .ok { plan := schema.node.plan .root, extraParams := ["limit"] } ∧
      mutedSchema.compile ["limit"] =
        .ok { plan := mutedSchema.node.plan .root, extraParams := ["limit"] } ∧
      List.Forall₂ (schema.FailAlike mutedSchema { names := ["limit"], args := [toValue 3] } sample)
        (Validator.failures { plan := schema.node.plan .root, extraParams := ["limit"] }
          sample [toValue 3])
        (Validator.failures { plan := mutedSchema.node.plan .root, extraParams := ["limit"] }
          sample [toValue 3]) := by
  have hmuted : mutedSchema.compile ["limit"] =
      .ok { plan := mutedSchema.node.plan .root, extraParams := ["limit"] } :=
    (mutedSchema.compile_eq_ok_iff _ _).2 ⟨by decide +kernel, rfl⟩
  have halike := schema.producers_noninterference mutedSchema withoutErrors_mutedSchema ["limit"]
  exact ⟨withoutErrors_mutedSchema, compile_schema, hmuted,
    (halike.2.2 _ _ compile_schema hmuted sample [toValue 3]).2⟩

example :
    (Validator.validate { plan := mutedSchema.node.plan .root, extraParams := [] } sample []).map
        ValidationError.text =
      ["error code 7", "Property 'age' must be at most 99.",
        "Property 'hobbies/*' must be at least 5 characters.",
        "Property 'users/*/name' cannot exceed 15 characters.",
        "Property 'users/*/age' must be at most 99."] := by
  decide +kernel

end Demo

end DataShape
