import DataShape.Proofs.Schema.PathText
import DataShape.Proofs.Schema.Reordering
import DataShape.Proofs.Validator.PlanNodes
import DataShape.Proofs.Validator.Visits

/-!
# Distinct nodes have distinct paths

A path is a text, and a name may look like a position or like the `*` of items. If all names of
properties stand out (`Node.HasPlainNames`: none is empty or has a slash) a path still tells which
node it belongs to (`Schema.path_identifies_node`), whether it comes with a default message, with
what a producer sees, or with a defect.

Nodes that stand next to each other have different segments: properties by their names, positions by
their digits, and items stand alone (`Node.nodup_childSteps`). A name that looks like a position
never stands next to one. So the segments on the way to a node tell which node it is
(`Node.nodup_segments`), and they can be read off the path.
-/

namespace DataShape

namespace Node

/-! ## The steps to the children -/

/-- The nodes right below a node, each with the step that leads to it, in declaration order. -/
def childSteps : Node → List (PathStep × Node)
  | leaf _ _ => []
  | arrayOf _ _ item => [(.items, item)]
  | tuple _ _ positions => positions.mapIdx fun i child => (.position i, child)
  | object _ _ properties => properties.map fun entry => (.property entry.1, entry.2)

/-- A step leads to a child. -/
theorem mem_children_of_mem_childSteps (node : Node) (entry : PathStep × Node)
    (h : entry ∈ node.childSteps) : entry.2 ∈ node.children := by
  cases node with
  | leaf attrs rule => cases h
  | arrayOf attrs lengths item =>
    obtain rfl := List.mem_singleton.1 h
    exact List.mem_singleton_self item
  | tuple attrs lengths positions =>
    obtain ⟨i, hi, rfl⟩ := List.mem_mapIdx.1 h
    exact List.getElem_mem hi
  | object attrs allowExtra properties =>
    obtain ⟨property, hproperty, rfl⟩ := List.mem_map.1 h
    exact List.mem_map_of_mem hproperty

/-- The nodes below a tuple are those of its positions. -/
theorem positionNodes_eq (positions : List Node) (steps : List PathStep) : ∀ i,
    positionNodes positions steps i =
      (positions.mapIdx fun j child => (i + j, child)).flatMap fun entry =>
        entry.2.nodes (steps ++ [.position entry.1]) := by
  induction positions with
  | nil =>
    intro i
    rfl
  | cons child rest ih =>
    intro i
    unfold positionNodes
    rw [ih (i + 1), List.mapIdx_cons, List.flatMap_cons]
    simp only [Nat.add_zero, Nat.add_assoc, Nat.add_comm 1]

/-- The nodes below an object are those of its properties. -/
theorem propertyNodes_eq (properties : List (String × Node)) (steps : List PathStep) :
    propertyNodes properties steps =
      properties.flatMap fun entry => entry.2.nodes (steps ++ [.property entry.1]) := by
  induction properties with
  | nil => rfl
  | cons entry rest ih =>
    unfold propertyNodes
    rw [ih, List.flatMap_cons]

/-- The nodes of a tree are those of the children, and then its root. -/
theorem nodes_eq_childSteps (node : Node) (steps : List PathStep) :
    node.nodes steps =
      (node.childSteps.flatMap fun entry => entry.2.nodes (steps ++ [entry.1])) ++
        [(steps, node)] := by
  cases node with
  | leaf attrs rule =>
    conv_lhs => unfold nodes
    rfl
  | arrayOf attrs lengths item =>
    conv_lhs => unfold nodes
    rw [childSteps, List.flatMap_singleton]
  | tuple attrs lengths positions =>
    conv_lhs => unfold nodes
    rw [positionNodes_eq]
    simp only [childSteps, List.mapIdx_eq_zipIdx_map, List.flatMap_map, Nat.zero_add]
  | object attrs allowExtra properties =>
    conv_lhs => unfold nodes
    rw [propertyNodes_eq, childSteps, List.flatMap_map]

/-- The steps to a node begin with those to the tree that it stands in. -/
theorem prefix_of_mem_nodes (node : Node) : ∀ (steps : List PathStep)
    (place : List PathStep × Node), place ∈ node.nodes steps → steps <+: place.1 := by
  induction node using inductionOnChildren with
  | step node ih =>
    intro steps place hplace
    rw [nodes_eq_childSteps, List.mem_append, List.mem_flatMap, List.mem_singleton] at hplace
    rcases hplace with ⟨entry, hentry, hbelow⟩ | rfl
    · exact (List.prefix_append steps [entry.1]).trans
        (ih entry.2 (node.mem_children_of_mem_childSteps entry hentry) _ place hbelow)
    · exact List.prefix_refl steps

/-! ## Names that stand out -/

/-- The names of the properties of an object stand out in a path. -/
def HasPlainNames (node : Node) : Prop := ∀ name ∈ node.propertyNames, IsPlainSegment name

instance (node : Node) : Decidable node.HasPlainNames :=
  inferInstanceAs (Decidable (∀ name ∈ node.propertyNames, IsPlainSegment name))

/-- All steps to children stand out. -/
theorem isPlain_of_mem_childSteps (node : Node) (h : node.HasPlainNames) (entry : PathStep × Node)
    (hentry : entry ∈ node.childSteps) : IsPlainSegment entry.1.segment := by
  cases node with
  | leaf attrs rule => cases hentry
  | arrayOf attrs lengths item =>
    obtain rfl := List.mem_singleton.1 hentry
    exact isPlainSegment_items
  | tuple attrs lengths positions =>
    obtain ⟨i, -, rfl⟩ := List.mem_mapIdx.1 hentry
    exact isPlainSegment_position i
  | object attrs allowExtra properties =>
    obtain ⟨property, hproperty, rfl⟩ := List.mem_map.1 hentry
    exact h property.1 (List.mem_map_of_mem hproperty)

/-- All steps to the nodes of a tree stand out. -/
theorem isPlain_of_mem_nodes (node : Node) (hplain : node.Throughout HasPlainNames) :
    ∀ steps : List PathStep, (∀ step ∈ steps, IsPlainSegment step.segment) →
      ∀ place ∈ node.nodes steps, ∀ step ∈ place.1, IsPlainSegment step.segment := by
  induction node using inductionOnChildren with
  | step node ih =>
    intro steps hsteps place hplace
    rw [throughout_iff] at hplain
    rw [nodes_eq_childSteps, List.mem_append, List.mem_flatMap, List.mem_singleton] at hplace
    rcases hplace with ⟨entry, hentry, hbelow⟩ | rfl
    · have hchild := node.mem_children_of_mem_childSteps entry hentry
      refine ih entry.2 hchild (hplain.2 entry.2 hchild) (steps ++ [entry.1]) ?_ place hbelow
      rw [List.forall_mem_append, List.forall_mem_singleton]
      exact ⟨hsteps, node.isPlain_of_mem_childSteps hplain.1 entry hentry⟩
    · exact hsteps

/-! ## Segments that differ -/

/-- The steps to the children have different segments. -/
theorem nodup_childSteps (node : Node) (h : node.HasDistinctNames) :
    (node.childSteps.map fun entry => entry.1.segment).Nodup := by
  cases node with
  | leaf attrs rule => exact List.nodup_nil
  | arrayOf attrs lengths item => exact List.nodup_singleton _
  | tuple attrs lengths positions =>
    exact nodup_map_mapIdx positions _ _ toString (fun _ _ => rfl) positionText_injective
  | object attrs allowExtra properties =>
    unfold childSteps
    rw [List.map_map]
    exact h

/-- The segments on the way to a node tell which node of the tree it is. -/
theorem nodup_segments (node : Node) (hnames : node.Throughout HasDistinctNames) :
    ∀ steps : List PathStep,
      ((node.nodes steps).map fun place => place.1.map PathStep.segment).Nodup := by
  induction node using inductionOnChildren with
  | step node ih =>
    intro steps
    rw [throughout_iff] at hnames
    rw [nodes_eq_childSteps, List.map_append, List.map_flatMap, List.map_singleton,
      ← List.concat_eq_append, List.nodup_concat, List.nodup_flatMap]
    refine ⟨?_, fun entry hentry => ?_, ?_⟩
    · -- Below a child at least one more step has been made.
      intro hself
      obtain ⟨entry, hentry, hbelow⟩ := List.mem_flatMap.1 hself
      obtain ⟨place, hplace, heq⟩ := List.mem_map.1 hbelow
      have hlength := (entry.2.prefix_of_mem_nodes _ place hplace).length_le
      have heq := congrArg List.length heq
      simp only [List.length_map, List.length_append, List.length_singleton] at hlength heq
      omega
    · have hchild := node.mem_children_of_mem_childSteps entry hentry
      exact ih entry.2 hchild (hnames.2 entry.2 hchild) (steps ++ [entry.1])
    · -- Ways through different children part at the segments of these.
      have hdistinct := List.pairwise_map.1 (node.nodup_childSteps hnames.1)
      refine hdistinct.imp fun hne segments hsegments hsegments' => hne ?_
      obtain ⟨place, hplace, rfl⟩ := List.mem_map.1 hsegments
      obtain ⟨place', hplace', heq⟩ := List.mem_map.1 hsegments'
      have hfront := (prefix_of_mem_nodes _ _ place hplace).map PathStep.segment
      have hfront' := (prefix_of_mem_nodes _ _ place' hplace').map PathStep.segment
      rw [heq] at hfront'
      rw [List.map_append, List.map_singleton] at hfront hfront'
      exact next_eq_of_prefix _ _ _ _ hfront hfront'

end Node

/-! ## Paths that tell a node -/

/-- The path is that of one node of the schema and of no other. -/
structure Schema.Identifies (s : Schema) (path : FieldPath) (place : List PathStep × Node) :
    Prop where
  mem : place ∈ s.nodes
  path_eq : .ofSteps place.1 = path
  eq_of_path_eq : ∀ place' ∈ s.nodes, .ofSteps place'.1 = path → place' = place

section

variable (s : Schema) (hnames : s.node.Throughout Node.HasDistinctNames)
  (hplain : s.node.Throughout Node.HasPlainNames)

include hnames hplain

/-- Distinct nodes of a schema have distinct paths. -/
theorem Schema.nodup_paths : (s.nodes.map fun place => FieldPath.ofSteps place.1).Nodup := by
  have hsteps := s.node.isPlain_of_mem_nodes hplain [] (fun _ h => nomatch h)
  have hsegments := List.pairwise_map.1 (s.node.nodup_segments hnames [])
  refine List.pairwise_map.2 (hsegments.imp_of_mem fun hplace hplace' hne heq => hne ?_)
  exact FieldPath.segments_eq_of_ofSteps_eq _ _ (hsteps _ hplace) (hsteps _ hplace') heq

/-- The path of a node identifies it. -/
theorem Schema.identifies_of_mem (place : List PathStep × Node) (h : place ∈ s.nodes) :
    s.Identifies (.ofSteps place.1) place where
  mem := h
  path_eq := rfl
  eq_of_path_eq := fun _ hplace' heq =>
    List.inj_on_of_nodup_map (s.nodup_paths hnames hplain) hplace' h heq

/-- Paths identify nodes, if objects declare no name twice and no name is empty or has a slash. The
nodes of a compiled plan have distinct paths, and that of the root is the only one without a text. A
default message begins with the subject of a path, and the subject tells the node. The path that a
producer sees tells the node whose check failed, and the path of a defect the node that has it. -/
theorem Schema.path_identifies_node [PatternLanguage] (extraParams : List String) :
    (∀ v, s.compile extraParams = .ok v →
      v.plan.cascades = s.nodes.map placeCascade ∧
      (v.plan.cascades.map Cascade.path).Nodup ∧
      (∀ own ∈ v.plan.cascades, own.path.isRoot = true ↔ own = v.plan.own) ∧
      (∀ place ∈ s.nodes, ∀ check ∈ (placeCascade place).checks, ∃ c text,
        place.2.checkFor? (.ofSteps place.1) c = some check ∧
        check.producer = (place.2.attrs.errors.find? c).getD
          (.literal (.message ((FieldPath.ofSteps place.1).subject ++ text)))) ∧
      (∀ place ∈ s.nodes, ∀ place' ∈ s.nodes,
        (FieldPath.ofSteps place.1).subject = (FieldPath.ofSteps place'.1).subject →
          place = place') ∧
      ∀ input args, ∀ f ∈ v.failures input args,
        ∃ place, s.Identifies f.context.path place ∧ f.ComesFrom (placeCascade place)) ∧
    ∀ d path, s.compile extraParams = .error d → d.path? = some path →
      ∃ place, s.Identifies path place ∧ d ∈ place.2.ownDefects path := by
  refine ⟨fun v hv => ?_, fun d path hd hpath => ?_⟩
  · have hcascades := s.cascades_eq extraParams v hv
    have hnodup : (v.plan.cascades.map Cascade.path).Nodup := by
      rw [hcascades, List.map_map]
      exact s.nodup_paths hnames hplain
    refine ⟨hcascades, hnodup, fun own hown => ?_, fun place _ check hcheck => ?_,
      fun place hplace place' hplace' hsubject => ?_, fun input args f hf => ?_⟩
    · -- The root has a path without a text, so no other node has one.
      have hroot : v.plan.own.path = .root := by
        obtain ⟨-, rfl⟩ := (s.compile_eq_ok_iff extraParams v).1 hv
        rw [Node.own_plan]
        rfl
      constructor
      · intro hempty
        have heq : own.path = v.plan.own.path := by
          rw [hroot]
          exact congrArg FieldPath.mk (String.isEmpty_iff.1 hempty)
        exact List.inj_on_of_nodup_map hnodup hown v.plan.own_mem_cascades heq
      · rintro rfl
        rw [hroot]
        rfl
    · obtain ⟨c, hc⟩ := (place.2.mem_checks_iff_checkFor? _ check).1 hcheck
      obtain ⟨text, hproducer⟩ := place.2.producer_of_checkFor? _ c check hc
      exact ⟨c, text, hc, hproducer⟩
    · exact (s.identifies_of_mem hnames hplain place' hplace').eq_of_path_eq place hplace
        (FieldPath.eq_of_subject_eq _ _ hsubject)
    · obtain ⟨place, hplace, hfrom⟩ :=
        s.exists_place_of_mem_failures extraParams v hv input args f hf
      rw [hfrom.1]
      exact ⟨place, s.identifies_of_mem hnames hplain place hplace, hfrom⟩
  · -- Only the defect of a name for an extra argument has no path.
    rw [s.compile_eq, unlessDefect_eq_error_iff] at hd
    rcases List.mem_append.1 (List.mem_of_mem_head? hd) with hname | hnode
    · obtain ⟨name, -, fault, rfl⟩ := mem_namesDefects extraParams [] d hname
      cases hpath
    · obtain ⟨place, hplace, hown⟩ := List.mem_flatMap.1 hnode
      have heq := place.2.path?_of_mem_ownDefects _ d hown
      rw [hpath] at heq
      obtain rfl := Option.some.inj heq
      exact ⟨place, s.identifies_of_mem hnames hplain place hplace, hown⟩

end

namespace Demo

/-- A schema with names that look like the `*` of items or like positions. -/
def shelves : Schema :=
  .ofSettings
    [.property "*" (.ofArray (.each (.ofArray
        (.positions [.ofString [], .ofObject [.own (.property "*" (.ofBool []))]]) [])) []),
      .property "0" (.ofObject
        [.own (.property "*" (.ofString [])), .own (.property "1" (.ofBool []))]),
      .property "1" (.ofArray
        (.positions [.ofString [], .ofObject [.own (.property "0" (.ofBool []))]]) [])]

/-- Shelves with something wrong in both objects that are called `1`. -/
def shelvesSample : Value :=
  .ofEntries
    [("*", .list [.list [toValue "a", .ofEntries [("*", toValue true)]]]),
      ("0", .ofEntries [("*", toValue "b"), ("1", toValue 2)]),
      ("1", .list [toValue "c", toValue 2])]

/-- The sample fails in both objects. -/
theorem length_failures_shelves :
    (Validator.failures { plan := shelves.node.plan .root, extraParams := [] }
      shelvesSample []).length = 2 := by
  decide +kernel

/-- The paths of shelves tell their nodes, and so do those of what fails at the sample. -/
theorem path_identifies_node_shelves :
    shelves.compile [] = .ok { plan := shelves.node.plan .root, extraParams := [] } ∧
      ((shelves.node.plan .root).cascades.map Cascade.path).Nodup ∧
      ∃ f ∈ Validator.failures { plan := shelves.node.plan .root, extraParams := [] }
          shelvesSample [],
        f.context.path.text = "0/1" ∧
        ∃ place, shelves.Identifies f.context.path place ∧ f.ComesFrom (placeCascade place) := by
  have hcompile : shelves.compile [] = .ok { plan := shelves.node.plan .root, extraParams := [] } :=
    (shelves.compile_eq_ok_iff _ _).2 ⟨by decide +kernel, rfl⟩
  have hnames := shelves.node.throughout_of_nodes Node.HasDistinctNames (by decide +kernel)
  have hplain := shelves.node.throughout_of_nodes Node.HasPlainNames (by decide +kernel)
  obtain ⟨hok, -⟩ := shelves.path_identifies_node hnames hplain []
  obtain ⟨-, hnodup, -, -, -, hfailures⟩ := hok _ hcompile
  have hmem := List.getElem_mem (length_failures_shelves ▸ (by decide : 0 < 2))
  exact ⟨hcompile, hnodup, _, hmem, by decide +kernel, hfailures shelvesSample [] _ hmem⟩

example :
    (shelves.nodes.map fun place => (FieldPath.ofSteps place.1).text) =
      ["*/*/0", "*/*/1/*", "*/*/1", "*/*", "*", "0/*", "0/1", "0", "1/0", "1/1/0", "1/1", "1",
        ""] := by
  decide +kernel

end Demo

end DataShape
