import DataShape.Proofs.Validator.Conformance
import DataShape.Proofs.Validator.Location
import Mathlib.Data.List.Forall2

/-!
# The root behaves as an object node

A schema can be put below another one: its root becomes a required object node with the same
properties, predicate and producers, under some property. `Schema.root_behaves_as_object` says that
the two schemas compile alike, and that the errors of an input and of the map that holds it under
the property are the same, one by one. A default message names the longer path, and nothing else
changes (`Schema.ErrorBelow`).

A report is made at the end of a trail. Reading a node with one more move ahead of all trails gives
the same reports with that move ahead (`Node.reports_twins`), since a node looks at its value and
not at the trail. What is left is the text of a path, one step of which is put in front.
-/

namespace DataShape

/-! ## One more step ahead of a path -/

namespace Trail

variable (front name : String) (trail : Trail)

/-- Default messages at a property name the property. -/
theorem subject_singleton (hname : name ≠ "") :
    (Trail.path [.property name]).subject = s!"Property '{name}'" :=
  FieldPath.subject_of_not_isRoot ⟨name⟩ (FieldPath.isRoot_ofSteps_cons name hname [])

/-- Default messages below a property begin with its path. -/
theorem subject_cons (hname : name ≠ "") :
    (Trail.path (.property name :: trail)).subject =
      s!"Property '{(Trail.path (.property name :: trail)).text}'" :=
  FieldPath.subject_of_not_isRoot _ (FieldPath.isRoot_ofSteps_cons name hname _)

/-- With a property in front, the path in default messages begins with its name. -/
theorem subject_cons_cons (hfront : front ≠ "") (hname : name ≠ "") :
    (Trail.path (.property front :: .property name :: trail)).subject =
      s!"Property '{front}/{(Trail.path (.property name :: trail)).text}'" := by
  have hpath : Trail.path (.property front :: .property name :: trail) =
      ⟨front ++ "/" ++ (Trail.path (.property name :: trail)).text⟩ :=
    FieldPath.ofSteps_cons_cons front name hfront hname _
  have hroot : (Trail.path (.property front :: .property name :: trail)).isRoot = false :=
    FieldPath.isRoot_ofSteps_cons front hfront _
  rw [FieldPath.subject_of_not_isRoot _ hroot, hpath]
  rfl

end Trail

/-! ## The nodes of a tree, whatever steps lead to it -/

namespace Node

mutual

/-- The nodes of a tree are the same whatever steps lead to it. -/
theorem map_snd_nodes (node : Node) (steps steps' : List PathStep) :
    (node.nodes steps).map Prod.snd = (node.nodes steps').map Prod.snd := by
  cases node with
  | leaf attrs rule => rfl
  | arrayOf attrs lengths item =>
    unfold nodes
    rw [List.map_append, List.map_append, map_snd_nodes item _ (steps' ++ [.items])]
    rfl
  | tuple attrs lengths positions =>
    unfold nodes
    rw [List.map_append, List.map_append, map_snd_positionNodes positions steps steps' 0]
    rfl
  | object attrs allowExtra properties =>
    unfold nodes
    rw [List.map_append, List.map_append, map_snd_propertyNodes properties steps steps']
    rfl

/-- The same for the nodes below a tuple. -/
theorem map_snd_positionNodes (positions : List Node) (steps steps' : List PathStep) (i : Nat) :
    (positionNodes positions steps i).map Prod.snd =
      (positionNodes positions steps' i).map Prod.snd := by
  cases positions with
  | nil => rfl
  | cons node rest =>
    unfold positionNodes
    rw [List.map_append, List.map_append, map_snd_nodes node _ (steps' ++ [.position i]),
      map_snd_positionNodes rest steps steps' (i + 1)]

/-- The same for the nodes below an object. -/
theorem map_snd_propertyNodes (properties : List (String × Node)) (steps steps' : List PathStep) :
    (propertyNodes properties steps).map Prod.snd =
      (propertyNodes properties steps').map Prod.snd := by
  match properties with
  | [] => rfl
  | (name, node) :: rest =>
    unfold propertyNodes
    rw [List.map_append, List.map_append, map_snd_nodes node _ (steps' ++ [.property name]),
      map_snd_propertyNodes rest steps steps']

end

/-- Whether all nodes of a tree are configured does not depend on the steps that lead to it. -/
theorem forall_configured_iff [PatternLanguage] (node : Node) (steps steps' : List PathStep) :
    (∀ place ∈ node.nodes steps, place.2.Configured) ↔
      ∀ place ∈ node.nodes steps', place.2.Configured := by
  have hmap (steps : List PathStep) : (∀ place ∈ node.nodes steps, place.2.Configured) ↔
      ∀ n ∈ (node.nodes steps).map Prod.snd, n.Configured := by
    rw [List.forall_mem_map]
  rw [hmap steps, hmap steps', map_snd_nodes node steps steps']

/-- An object node has nothing that could be wrong with itself. -/
theorem configured_object [PatternLanguage] (attrs : Attributes) (allowExtra : Bool)
    (properties : List (String × Node)) : (object attrs allowExtra properties).Configured where
  positions _ _ h := nomatch h
  lengths _ _ h := nomatch h
  pattern _ h := nomatch h
  minFinite _ h := nomatch h
  maxFinite _ h := nomatch h
  numbers _ _ h := nomatch h

end Node

/-! ## The reports of a tree, with one more move ahead of all trails -/

/-- The first constraint of a node that has a fault, and the fault. -/
def Node.finding? [PatternLanguage] (node : Node) (extras : Extras) (value? : Option Value) :
    Option (Constraint × Fault) :=
  Constraint.all.findSome? fun c => (node.fault? extras value? c).map (c, ·)

/-- Two reports of what the same node below `root` finds, the second with one more move ahead of its
trail. -/
inductive Report.Twins [PatternLanguage]
    (extras : Extras) (root : Node) (ahead : Move) : Report → Report → Prop
  | mk (trail : Trail) (node : Node) (value? : Option Value) (c : Constraint) (fault : Fault)
      (reached : root.Reaches trail node) (found : node.finding? extras value? = some (c, fault)) :
      Twins extras root ahead (node.report extras trail value? c fault)
        (node.report extras (ahead :: trail) value? c fault)

section

variable {R : Report → Report → Prop}

/-- What an own report or else the children report is related if both are. -/
theorem forall₂_unless (own? own'? : Option Report) (below below' : List Report) :
    List.Forall₂ R own?.toList own'?.toList → List.Forall₂ R below below' →
      List.Forall₂ R
        (match own? with
          | some r => [r]
          | none => below)
        (match own'? with
          | some r => [r]
          | none => below') := by
  intro hown hbelow
  cases own? with
  | none =>
    cases own'? with
    | none => exact hbelow
    | some r => cases hown
  | some r =>
    cases own'? with
    | none => cases hown
    | some r' => exact hown

/-- The last nonempty lists are related if all lists are. -/
theorem forall₂_lastNonempty (lists lists' : List (List Report))
    (h : List.Forall₂ (List.Forall₂ R) lists lists') :
    List.Forall₂ R (lastNonempty lists) (lastNonempty lists') := by
  induction h with
  | nil => exact .nil
  | @cons list list' lists lists' hlist _ ih =>
    rw [lastNonempty_cons, lastNonempty_cons]
    -- A later list is chosen on both sides or on neither.
    generalize lastNonempty lists = found at ih
    generalize lastNonempty lists' = found' at ih
    cases ih with
    | nil => exact hlist
    | cons hfirst hrest => exact .cons hfirst hrest

/-- Lists made of the same elements are related if what is made of each element is. -/
theorem forall₂_mapIdx {α β γ : Type} {S : β → γ → Prop} (f : Nat → α → β) (f' : Nat → α → γ)
    (xs : List α) (h : ∀ i x, xs[i]? = some x → S (f i x) (f' i x)) :
    List.Forall₂ S (xs.mapIdx f) (xs.mapIdx f') := by
  rw [List.mapIdx_eq_zipIdx_map, List.mapIdx_eq_zipIdx_map, List.forall₂_map_left_iff,
    List.forall₂_map_right_iff, List.forall₂_same]
  exact fun place hplace => h place.2 place.1 (List.mem_zipIdx_iff_getElem?.1 hplace)

end

namespace Node

/-- A node reports what it finds. The trail plays no part in what that is. -/
theorem report?_eq_map_finding? [PatternLanguage] (node : Node) (extras : Extras) (trail : Trail)
    (value? : Option Value) :
    node.report? extras trail value? =
      (node.finding? extras value?).map fun found =>
        node.report extras trail value? found.1 found.2 := by
  unfold report? finding?
  rw [List.map_findSome?]
  refine congrArg (List.findSome? · Constraint.all) (funext fun c => ?_)
  rw [Function.comp_apply, Option.map_map]
  rfl

/-- What a node reports itself comes with the move ahead. -/
theorem report?_twins [PatternLanguage]
    (root node : Node) (ahead : Move) (extras : Extras) (trail : Trail)
    (value? : Option Value) (hreached : root.Reaches trail node) :
    List.Forall₂ (Report.Twins extras root ahead) (node.report? extras trail value?).toList
      (node.report? extras (ahead :: trail) value?).toList := by
  rw [report?_eq_map_finding?, report?_eq_map_finding?]
  cases hfinding : node.finding? extras value? with
  | none => exact .nil
  | some found => exact .cons (.mk trail node value? found.1 found.2 hreached hfinding) .nil

/-- What is reported of a child, unless it is passed over, is related if the reports are. -/
theorem forall₂_child {R : Report → Report → Prop} (child : Node) (value? : Option Value)
    (reports reports' : List Report) (h : List.Forall₂ R reports reports') :
    List.Forall₂ R (if child.passesOver value? then [] else reports)
      (if child.passesOver value? then [] else reports') := by
  cases child.passesOver value? with
  | true => exact .nil
  | false => exact h

mutual

/-- All that is reported of a tree below `root` comes with the move ahead. -/
theorem reports_twins [PatternLanguage]
    (root node : Node) (ahead : Move) (extras : Extras) (trail : Trail)
    (value? : Option Value)
    (hreaches : ∀ below target, node.Reaches below target → root.Reaches (trail ++ below) target) :
    List.Forall₂ (Report.Twins extras root ahead) (node.reports extras trail value?)
      (node.reports extras (ahead :: trail) value?) := by
  -- The induction is over the node. What it reaches is reached from `root` along the trail, so each
  -- report below it is one of a node below `root`.
  have hself : root.Reaches trail node := by
    have hnil := hreaches [] node (.here node)
    rwa [List.append_nil] at hnil
  have hown := report?_twins root node ahead extras trail value? hself
  cases node with
  | leaf attrs rule =>
    unfold reports
    exact hown
  | arrayOf attrs lengths item =>
    -- All items come with the move ahead, so the last one that has reports is the same.
    unfold reports
    refine forall₂_unless _ _ _ _ hown (forall₂_lastNonempty _ _ (forall₂_mapIdx _ _ _ ?_))
    intro i x _
    refine reports_twins root item ahead extras (trail ++ [.element i]) (some x) ?_
    intro below target hreach
    rw [List.append_assoc]
    exact hreaches _ _ (.element attrs lengths item target i below hreach)
  | tuple attrs lengths positions =>
    unfold reports
    refine forall₂_unless _ _ _ _ hown
      (positionReports_twins root positions ahead extras trail value? 0 ?_)
    intro j child below target hchild hreach
    rw [Nat.zero_add]
    exact hreaches _ _ (.position attrs lengths positions child target j below hchild hreach)
  | object attrs allowExtra properties =>
    unfold reports
    refine forall₂_unless _ _ _ _ hown
      (propertyReports_twins root properties ahead extras trail value? ?_)
    intro name child below target hchild hreach
    exact hreaches _ _
      (.property attrs allowExtra properties child target name below hchild hreach)
termination_by structural node

/-- The same for the positions of a tuple, from position `i` on. -/
theorem positionReports_twins [PatternLanguage] (root : Node) (positions : List Node) (ahead : Move)
    (extras : Extras) (trail : Trail) (value? : Option Value) (i : Nat)
    (hreaches : ∀ (j : Nat) (child : Node) (below : Trail) (target : Node),
      positions[j]? = some child → child.Reaches below target →
        root.Reaches (trail ++ .position (i + j) :: below) target) :
    List.Forall₂ (Report.Twins extras root ahead) (positionReports extras positions trail value? i)
      (positionReports extras positions (ahead :: trail) value? i) := by
  cases positions with
  | nil => exact .nil
  | cons child rest =>
    unfold positionReports
    have hfirst := reports_twins root child ahead extras (trail ++ [.position i])
      (value?.bind (·.item? i)) fun below target hreach => by
        rw [List.append_assoc]
        exact hreaches 0 child below target rfl hreach
    have hrest := positionReports_twins root rest ahead extras trail value? (i + 1)
      fun j other below target hother hreach => by
        rw [Nat.add_right_comm, Nat.add_assoc]
        exact hreaches (j + 1) other below target hother hreach
    exact List.rel_append (child.forall₂_child _ _ _ hfirst) hrest
termination_by structural positions

/-- The same for the properties of an object. -/
theorem propertyReports_twins [PatternLanguage]
    (root : Node) (properties : List (String × Node)) (ahead : Move)
    (extras : Extras) (trail : Trail) (value? : Option Value)
    (hreaches : ∀ (name : String) (child : Node) (below : Trail) (target : Node),
      (name, child) ∈ properties → child.Reaches below target →
        root.Reaches (trail ++ .property name :: below) target) :
    List.Forall₂ (Report.Twins extras root ahead) (propertyReports extras properties trail value?)
      (propertyReports extras properties (ahead :: trail) value?) := by
  match properties with
  | [] => exact .nil
  | (name, child) :: rest =>
    unfold propertyReports
    have hfirst := reports_twins root child ahead extras (trail ++ [.property name])
      (value?.bind (·.get? name)) fun below target hreach => by
        rw [List.append_assoc]
        exact hreaches name child below target List.mem_cons_self hreach
    have hrest := propertyReports_twins root rest ahead extras trail value?
      fun name' other below target hother hreach =>
        hreaches name' other below target (List.mem_cons_of_mem _ hother) hreach
    exact List.rel_append (child.forall₂_child _ _ _ hfirst) hrest
termination_by structural properties

end

/-- An object without a fault of its own reports what its properties do. -/
theorem reports_object_of_report?_eq_none [PatternLanguage] (attrs : Attributes) (allowExtra : Bool)
    (properties : List (String × Node)) (extras : Extras) (trail : Trail) (value? : Option Value)
    (h : (object attrs allowExtra properties).report? extras trail value? = none) :
    (object attrs allowExtra properties).reports extras trail value? =
      propertyReports extras properties trail value? := by
  unfold reports
  rw [h]

section

variable (node : Node) (extras : Extras) (trail : Trail) (value? : Option Value) (c : Constraint)
  (fault : Fault)

/-- A property ahead of the trail changes the path that the producer sees, and nothing else. -/
theorem context_report_cons (name : String) :
    (node.report extras (.property name :: trail) value? c fault).context =
      { (node.report extras trail value? c fault).context with
        path := Trail.path (.property name :: trail) } :=
  rfl

/-- A producer of the node makes the error. -/
theorem error_report_of_declared (producer : Producer)
    (h : node.attrs.errors.find? c = some producer) :
    (node.report extras trail value? c fault).error =
      producer.produce (node.report extras trail value? c fault).context := by
  unfold Report.error
  simp only [report, h, Option.getD_some]

/-- Without a producer the default message is the error. -/
theorem error_report_of_undeclared (h : node.attrs.errors.find? c = none) :
    (node.report extras trail value? c fault).error =
      .message (trail.path.subject ++ fault.text) := by
  unfold Report.error
  simp only [report, h, Option.getD_none]
  rfl

end

end Node

/-! ## The root as an object node -/

namespace Schema

/-- What becomes of an error of the input `v` when the input stands under the property `p`. A trail
leads from the root to a node and through the input to the value in its place, and the error reports
what the node finds there. An error that a producer of the node makes stays what it is. A default
message names the property instead of the input, and the path below the property instead of the
path. -/
inductive ErrorBelow [PatternLanguage] (s : Schema) (extras : Extras) (v : Value) (p : String) :
    ValidationError → ValidationError → Prop
  | produced (trail : Trail) (node : Node) (value? : Option Value) (c : Constraint) (fault : Fault)
      (producer : Producer) (reached : s.node.Reaches trail node) (leads : v.Leads trail value?)
      (declared : node.attrs.errors.find? c = some producer)
      (found : node.finding? extras value? = some (c, fault)) :
      ErrorBelow s extras v p (producer.produce (node.report extras trail value? c fault).context)
        (producer.produce (node.report extras trail value? c fault).context)
  | input (c : Constraint) (fault : Fault) (undeclared : s.errors.find? c = none)
      (found : s.node.finding? extras (some v) = some (c, fault)) :
      ErrorBelow s extras v p (.message ("Input" ++ fault.text))
        (.message (s!"Property '{p}'" ++ fault.text))
  | property (trail : Trail) (node : Node) (value? : Option Value) (c : Constraint) (fault : Fault)
      (reached : s.node.Reaches trail node) (leads : v.Leads trail value?) (below : trail ≠ [])
      (undeclared : node.attrs.errors.find? c = none)
      (found : node.finding? extras value? = some (c, fault)) :
      ErrorBelow s extras v p (.message (s!"Property '{trail.path.text}'" ++ fault.text))
        (.message (s!"Property '{p}/{trail.path.text}'" ++ fault.text))

/-- No function that makes errors for a node of the schema looks at the path. -/
def IgnoresPaths (s : Schema) : Prop :=
  ∀ trail node, s.node.Reaches trail node → ∀ c run source?,
    node.attrs.errors.find? c = some (.closure run source?) →
      ∀ (context : FailureContext) (path : FieldPath), run { context with path } = run context

variable (s w : Schema) (p : String)

/-- A trail below the root begins with a property that is declared. -/
theorem eq_cons_of_reaches (trail : Trail) (node : Node) (h : s.node.Reaches trail node)
    (hbelow : trail ≠ []) :
    ∃ name rest, trail = .property name :: rest ∧ name ∈ Entries.keys s.properties := by
  unfold Schema.node at h
  cases h with
  | here => exact absurd rfl hbelow
  | property _ _ _ child _ name rest hdeclared _ =>
    exact ⟨name, rest, rfl, List.mem_map_of_mem hdeclared⟩

/-- A producer that does not look at the path makes the same error with the property `p` ahead. -/
theorem produce_cons (hpaths : s.IgnoresPaths) (extras : Extras) (trail : Trail) (node : Node)
    (value? : Option Value) (c : Constraint) (fault : Fault) (producer : Producer)
    (hreached : s.node.Reaches trail node)
    (hdeclared : node.attrs.errors.find? c = some producer) :
    producer.produce (node.report extras (.property p :: trail) value? c fault).context =
      producer.produce (node.report extras trail value? c fault).context := by
  rw [Node.context_report_cons]
  cases producer with
  | literal e => rfl
  | closure run source? => exact hpaths trail node hreached c run source? hdeclared _ _

/-- A report ahead of which the property `p` is put ends up as the error below `p`. -/
theorem errorBelow_of_twins [PatternLanguage]
    (hp : p ≠ "") (hnames : ∀ name ∈ Entries.keys s.properties, name ≠ "")
    (hpaths : s.IgnoresPaths) (extras : Extras) (v : Value) (r r' : Report)
    (hleads : v.Leads r.trail r.context.value?)
    (h : Report.Twins extras s.node (.property p) r r') :
    s.ErrorBelow extras v p r.error r'.error := by
  obtain ⟨trail, node, value?, c, fault, hreached, hfound⟩ := h
  cases hdeclared : node.attrs.errors.find? c with
  | some producer =>
    rw [node.error_report_of_declared extras _ value? c fault producer hdeclared,
      node.error_report_of_declared extras _ value? c fault producer hdeclared,
      s.produce_cons p hpaths extras trail node value? c fault producer hreached hdeclared]
    exact .produced trail node value? c fault producer hreached hleads hdeclared hfound
  | none =>
    rw [node.error_report_of_undeclared extras _ value? c fault hdeclared,
      node.error_report_of_undeclared extras _ value? c fault hdeclared]
    -- The message names the root of `s` or a path below it.
    by_cases hbelow : trail = []
    · subst hbelow
      obtain rfl : s.node = node := by
        cases hreached
        rfl
      obtain rfl : value? = some v := by
        cases hleads
        rfl
      rw [Trail.subject_singleton p hp]
      exact .input c fault hdeclared hfound
    · obtain ⟨name, rest, rfl, hmem⟩ := s.eq_cons_of_reaches trail node hreached hbelow
      have hname : name ≠ "" := hnames name hmem
      rw [Trail.subject_cons name rest hname, Trail.subject_cons_cons p name rest hp hname]
      exact .property _ node value? c fault hreached hleads hbelow hdeclared hfound

section

variable (hproperties : w.properties = [(p, s.node)]) (hvalidator : w.validator? = none)

include hproperties hvalidator

/-- The root of the schema around. -/
theorem node_around : w.node = .object { errors := w.errors } w.allowExtra [(p, s.node)] := by
  show Node.object { validator? := w.validator?, errors := w.errors } _ _ = _
  rw [hproperties, hvalidator]

/-- The schema around reports of a map what the root inside reports of the value under `p`. -/
theorem reports_around [PatternLanguage] (extras : Extras) (value : Value) :
    w.reports extras (.map [(p, value)]) = s.node.reports extras [.property p] (some value) := by
  have hown : w.node.report? extras [] (some (.map [(p, value)])) = none := by
    rw [node_around s w p hproperties hvalidator, Node.report?_eq_none_iff]
    refine ⟨⟨_, rfl, ?_⟩, fun _ h => nomatch h⟩
    -- The one key that the map has is declared.
    cases w.allowExtra with
    | true => exact fun _ h => nomatch h
    | false =>
      rintro _ ⟨⟩ key hkey
      exact hkey
  have hvalue : (Value.map [(p, value)]).get? p = some value := List.lookup_cons_self
  have hbelow : Node.propertyReports extras [(p, s.node)] [] (some (.map [(p, value)])) =
      s.node.reports extras [.property p] (some value) := by
    show (if s.node.passesOver ((Value.map [(p, value)]).get? p) then []
      else s.node.reports extras [.property p] ((Value.map [(p, value)]).get? p)) ++ [] = _
    rw [List.append_nil, hvalue]
    rfl
  unfold reports
  rw [node_around s w p hproperties hvalidator] at hown ⊢
  exact (Node.reports_object_of_report?_eq_none _ _ _ _ _ _ hown).trans hbelow

/-- The schema around compiles exactly when the schema inside does. -/
theorem compiles_around_iff [PatternLanguage] (extraParams : List String) :
    (∃ v, w.compile extraParams = .ok v) ↔ ∃ v, s.compile extraParams = .ok v := by
  have hcompiles (s : Schema) :
      (∃ v, s.compile extraParams = .ok v) ↔ s.defects extraParams = [] := by
    simp only [compile_eq_ok_iff, exists_and_left, exists_eq', and_true]
  -- The nodes of `w` are those of `s`, under steps that begin with `p`, and the root.
  have hnodes : w.nodes = s.node.nodes [.property p] ++
      [([], .object { errors := w.errors } w.allowExtra [(p, s.node)])] := by
    unfold nodes
    rw [node_around s w p hproperties hvalidator]
    show (s.node.nodes [.property p] ++ []) ++ _ = _
    rw [List.append_nil]
  rw [hcompiles, hcompiles, defects_eq_nil_iff, defects_eq_nil_iff, hnodes, List.forall_mem_append,
    List.forall_mem_singleton, s.node.forall_configured_iff [.property p] []]
  exact and_congr_right fun _ => and_congr_right fun _ =>
    and_iff_left (Node.configured_object _ _ _)

end

/-- The root of a schema behaves as an object node. Let `w` have one property `p`, which is the root
of `s` as a node: an object that has to be there, with the properties, the predicate and the
producers of `s`. Then `w` compiles exactly when `s` does. The errors of the map that holds an input
under `p` are, one by one, the errors of the input: those that producers make are the same, if no
producer looks at the path, and default messages name the path below `p`. -/
theorem root_behaves_as_object [PatternLanguage] (hp : p ≠ "")
    (hnames : ∀ name ∈ Entries.keys s.properties, name ≠ "")
    (hproperties : w.properties = [(p, s.node)]) (hvalidator : w.validator? = none)
    (extraParams : List String) :
    ((∃ v, w.compile extraParams = .ok v) ↔ ∃ v, s.compile extraParams = .ok v) ∧
    ∀ inner outer : Validator, s.compile extraParams = .ok inner →
      w.compile extraParams = .ok outer → s.IgnoresPaths →
        ∀ (value : Value) (args : List Value),
          List.Forall₂ (s.ErrorBelow { names := extraParams, args } value p)
            (inner.validate value args) (outer.validate (.map [(p, value)]) args) := by
  refine ⟨compiles_around_iff s w p hproperties hvalidator extraParams, ?_⟩
  intro inner outer hinner houter hpaths value args
  have htwins := s.node.reports_twins s.node (.property p) { names := extraParams, args } []
    (some value) fun _ _ hreach => hreach
  have hleads : ∀ r ∈ s.reports { names := extraParams, args } value,
      value.Leads r.trail r.context.value? := fun r hr =>
    (s.node.madeBelow_of_mem_reports _ [] value r hr).leads
  rw [s.validate_eq extraParams inner hinner, w.validate_eq extraParams outer houter,
    reports_around s w p hproperties hvalidator, List.forall₂_map_left_iff,
    List.forall₂_map_right_iff]
  exact ((List.forall₂_and_left _ _).2 ⟨hleads, htwins⟩).imp fun r r' h =>
    s.errorBelow_of_twins p hp hnames hpaths _ value r r' h.1 h.2

end Schema

namespace Demo

/-- The schema of a record with an age and nothing else. -/
def person : Schema := .ofSettings [.property "age" age, .denyExtra]

/-- The schema of a record that holds a person. -/
def holder : Schema := { properties := [("person", person.node)] }

/-- The producers of an age look at the bound alone. -/
theorem person_ignoresPaths : person.IgnoresPaths := by
  intro trail node hreached c run source? hdeclared context path
  have hage : node = person.node ∨ node = age := by
    unfold Schema.node at hreached
    cases hreached with
    | here => exact Or.inl rfl
    | property _ _ _ child _ name rest hmem hbelow =>
      have hproperties : person.properties = [("age", age)] := rfl
      rw [hproperties, List.mem_singleton] at hmem
      obtain ⟨rfl, rfl⟩ := Prod.mk.inj hmem
      cases hbelow with
      | here => exact Or.inr rfl
  rcases hage with rfl | rfl
  · cases hdeclared
  · cases c with
    | min | max =>
      obtain ⟨rfl, rfl⟩ := Producer.closure.inj (Option.some.inj hdeclared)
      rfl
    | type | minLen | maxLen | pattern | extra | validator => cases hdeclared

/-- An age that is not a number has the same error in a holder, below the longer path. -/
theorem root_behaves_as_object_person :
    person.compile [] = .ok { plan := person.node.plan .root, extraParams := [] } ∧
      holder.compile [] = .ok { plan := holder.node.plan .root, extraParams := [] } ∧
      person.IgnoresPaths ∧
      List.Forall₂
        (person.ErrorBelow { names := [], args := [] } (.map [("age", .bool true)]) "person")
        (Validator.validate { plan := person.node.plan .root, extraParams := [] }
          (.map [("age", .bool true)]) [])
        (Validator.validate { plan := holder.node.plan .root, extraParams := [] }
          (.map [("person", .map [("age", .bool true)])]) []) := by
  have hinner : person.compile [] = .ok { plan := person.node.plan .root, extraParams := [] } :=
    (person.compile_eq_ok_iff _ _).2 ⟨by decide +kernel, rfl⟩
  have houter : holder.compile [] = .ok { plan := holder.node.plan .root, extraParams := [] } :=
    (holder.compile_eq_ok_iff _ _).2 ⟨by decide +kernel, rfl⟩
  have hbehaves := person.root_behaves_as_object holder "person" (by decide) (by decide) rfl rfl []
  exact ⟨hinner, houter, person_ignoresPaths,
    hbehaves.2 _ _ hinner houter person_ignoresPaths _ _⟩

example :
    (Validator.validate { plan := holder.node.plan .root, extraParams := [] }
      (.map [("person", .map [("age", .bool true)])]) []).map ValidationError.text =
        ["Property 'person/age' must be an integer."] := by
  decide +kernel

end Demo

end DataShape
