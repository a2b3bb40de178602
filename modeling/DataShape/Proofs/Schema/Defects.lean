import DataShape.Proofs.Number.Order
import DataShape.Proofs.Schema.Demands

/-!
# The defects of a schema, in order

`Schema.defects` lists everything that keeps a schema from being compiled with given names for extra
arguments: the defects of the names from left to right, then those of the nodes. `Node.nodes` lists
the nodes of a tree in declaration order, each after its children and with the steps that lead to it
from the root, and each node contributes its own defects under its own path. So the items of an
array come before its bounds, and a tuple without positions, which has no children, shows that first.

Beside the list stands what a sound schema is: `IsIdentifier` for a name, and `Node.Configured` for a
node. `Schema.defects_eq_nil_iff` shows that a schema without defects is a sound one.
-/

namespace DataShape

/-! ## Names -/

/-- A letter of ASCII or an underscore. -/
def IsNameStart (c : Char) : Prop := ('A' ≤ c ∧ c ≤ 'Z') ∨ ('a' ≤ c ∧ c ≤ 'z') ∨ c = '_'

/-- A letter or digit of ASCII or an underscore. -/
def IsNamePart (c : Char) : Prop := IsNameStart c ∨ ('0' ≤ c ∧ c ≤ '9')

/-- A text of letters, digits and underscores of ASCII that does not begin with a digit. -/
def IsIdentifier (name : String) : Prop :=
  ∃ c rest, name.toList = c :: rest ∧ IsNameStart c ∧ ∀ d ∈ rest, IsNamePart d

/-- The defect of a name after the names before it. -/
def nameDefects (before : List String) (name : String) : List Defect :=
  if !isIdentifier name then [.invalidExtraParam name .notIdentifier]
  else if name ∈ before then [.invalidExtraParam name .repeated]
  else []

/-- The defects of names from left to right, after the names before them. -/
def namesDefects (before : List String) : List String → List Defect
  | [] => []
  | name :: rest => nameDefects before name ++ namesDefects (before ++ [name]) rest

/-- The letters of the model's test of identifiers are those of ASCII. -/
theorem isNameStart_iff (c : Char) : (c.isAlpha || c == '_') = true ↔ IsNameStart c := by
  have hupper : c.isUpper = true ↔ 'A' ≤ c ∧ c ≤ 'Z' := decide_eq_true_iff
  have hlower : c.isLower = true ↔ 'a' ≤ c ∧ c ≤ 'z' := by
    show (decide ('a' ≤ c) && decide (c ≤ 'z')) = true ↔ _
    rw [Bool.and_eq_true, decide_eq_true_iff, decide_eq_true_iff]
  have halpha : c.isAlpha = (c.isUpper || c.isLower) := rfl
  unfold IsNameStart
  rw [Bool.or_eq_true, halpha, Bool.or_eq_true, hupper, hlower, beq_iff_eq, or_assoc]

/-- The other characters of the model's test of identifiers are those of ASCII. -/
theorem isNamePart_iff (c : Char) :
    (c.isAlpha || c == '_' || c.isDigit) = true ↔ IsNamePart c := by
  have hdigit : c.isDigit = true ↔ '0' ≤ c ∧ c ≤ '9' := by
    show (decide ('0' ≤ c) && decide (c ≤ '9')) = true ↔ _
    rw [Bool.and_eq_true, decide_eq_true_iff, decide_eq_true_iff]
  unfold IsNamePart
  rw [Bool.or_eq_true, isNameStart_iff, hdigit]

/-- The test of identifiers is right. -/
theorem isIdentifier_iff (name : String) : isIdentifier name = true ↔ IsIdentifier name := by
  unfold isIdentifier IsIdentifier
  cases hname : name.toList with
  | nil => simp
  | cons c rest =>
    simp only [List.head?_cons, Option.any_some, Bool.and_eq_true, List.all_eq_true,
      isNamePart_iff, isNameStart_iff]
    constructor
    · rintro ⟨hc, hall⟩
      exact ⟨c, rest, rfl, hc, fun d hd => hall d (List.mem_cons_of_mem c hd)⟩
    · rintro ⟨c', rest', heq, hc, hall⟩
      obtain ⟨rfl, rfl⟩ := List.cons.inj heq
      refine ⟨hc, fun d hd => ?_⟩
      -- The test looks at the first character once more, with the others.
      rcases List.mem_cons.1 hd with rfl | hd
      · exact Or.inl hc
      · exact hall d hd

/-- Names have no defects when all are identifiers, none is given twice, and none is given before
them. -/
theorem namesDefects_eq_nil_iff (names : List String) : ∀ before : List String,
    namesDefects before names = [] ↔
      (∀ name ∈ names, IsIdentifier name) ∧ names.Nodup ∧ ∀ name ∈ names, name ∉ before := by
  -- The names before grow on the way, so the statement is about any of them.
  induction names with
  | nil =>
    intro before
    simp [namesDefects]
  | cons name rest ih =>
    intro before
    have hhead : nameDefects before name = [] ↔ IsIdentifier name ∧ name ∉ before := by
      unfold nameDefects
      rw [← isIdentifier_iff]
      cases isIdentifier name <;> simp
    have htail := ih (before ++ [name])
    unfold namesDefects
    rw [List.append_eq_nil_iff, hhead, htail, List.nodup_cons, List.forall_mem_cons,
      List.forall_mem_cons]
    simp only [List.mem_append, List.mem_singleton, not_or]
    constructor
    · rintro ⟨⟨hid, hbefore⟩, hids, hnodup, hfresh⟩
      exact ⟨⟨hid, hids⟩, ⟨fun h => (hfresh name h).2 rfl, hnodup⟩, hbefore,
        fun n hn => (hfresh n hn).1⟩
    · rintro ⟨⟨hid, hids⟩, ⟨hnot, hnodup⟩, hbefore, hfresh⟩
      exact ⟨⟨hid, hbefore⟩, hids, hnodup,
        fun n hn => ⟨hfresh n hn, fun h => hnot (h ▸ hn)⟩⟩

/-! ## Nodes -/

/-- The defect of bounds on a length. -/
def LengthBounds.defects (lengths : LengthBounds) (path : FieldPath) : List Defect :=
  match lengths.min?, lengths.max? with
  | some min, some max => if max < min then [.invalidBounds path (.lengths min max)] else []
  | _, _ => []

/-- The defect of a pattern. -/
def patternDefects [PatternLanguage] (path : FieldPath) (source : String) : List Defect :=
  match Pattern.ofString source with
  | .error reason => [.invalidPattern path source reason]
  | .ok _ => []

/-- The defect of a bound on a number. -/
def boundDefects (path : FieldPath) (bound : Binary64) : List Defect :=
  if bound.isFinite then [] else [.invalidBounds path (.notFinite bound)]

/-- The defect of two bounds on a number that are out of order. -/
def orderDefects (path : FieldPath) (min? max? : Option Binary64) : List Defect :=
  match min?, max? with
  | some min, some max => if max.lt min then [.invalidBounds path (.numbers min max)] else []
  | _, _ => []

/-- The defects of a rule: the bounds on a length, the pattern, each bound on a number, and their
order. -/
def Rule.defects [PatternLanguage] (rule : Rule) (path : FieldPath) : List Defect :=
  rule.lengths.defects path ++ rule.pattern?.toList.flatMap (patternDefects path) ++
    rule.min?.toList.flatMap (boundDefects path) ++ rule.max?.toList.flatMap (boundDefects path) ++
    orderDefects path rule.min? rule.max?

namespace Node

/-- The node is a tuple without positions. -/
def isEmptyTuple : Node → Bool
  | tuple _ _ nodes => nodes.isEmpty
  | _ => false

/-- The defects of the node itself, its children left out. -/
def ownDefects [PatternLanguage] (node : Node) (path : FieldPath) : List Defect :=
  (if node.isEmptyTuple then [.emptyTuple path] else []) ++ node.rule.defects path

mutual

/-- The nodes of a tree in declaration order, each after its children, with the steps that lead to
it. The root is reached by `steps`. -/
def nodes : Node → List PathStep → List (List PathStep × Node)
  | leaf attrs rule, steps => [(steps, leaf attrs rule)]
  | arrayOf attrs lengths item, steps =>
    item.nodes (steps ++ [.items]) ++ [(steps, arrayOf attrs lengths item)]
  | tuple attrs lengths positions, steps =>
    positionNodes positions steps 0 ++ [(steps, tuple attrs lengths positions)]
  | object attrs allowExtra properties, steps =>
    propertyNodes properties steps ++ [(steps, object attrs allowExtra properties)]

/-- The nodes below a tuple, from the given position on. -/
def positionNodes : List Node → List PathStep → Nat → List (List PathStep × Node)
  | [], _, _ => []
  | node :: rest, steps, i =>
    node.nodes (steps ++ [.position i]) ++ positionNodes rest steps (i + 1)

/-- The nodes below an object. -/
def propertyNodes : List (String × Node) → List PathStep → List (List PathStep × Node)
  | [], _ => []
  | (name, node) :: rest, steps =>
    node.nodes (steps ++ [.property name]) ++ propertyNodes rest steps

end

/-- A node is one of its own nodes. -/
theorem self_mem_nodes (node : Node) (steps : List PathStep) : (steps, node) ∈ node.nodes steps := by
  cases node <;> (unfold nodes; simp)

/-- What stands below a position of a tuple stands below the tuple. -/
theorem mem_positionNodes (positions : List Node) (steps : List PathStep) (child : Node)
    (place : List PathStep × Node) : ∀ j i : Nat, positions[i]? = some child →
      place ∈ child.nodes (steps ++ [.position (j + i)]) → place ∈ positionNodes positions steps j := by
  induction positions with
  | nil =>
    intro j i hchild
    cases hchild
  | cons first rest ih =>
    intro j i hchild hplace
    unfold positionNodes
    cases i with
    | zero =>
      obtain rfl : first = child := Option.some.inj hchild
      exact List.mem_append_left _ hplace
    | succ i =>
      rw [Nat.add_comm i, ← Nat.add_assoc] at hplace
      exact List.mem_append_right _ (ih (j + 1) i hchild hplace)

/-- What stands below a property of an object stands below the object. -/
theorem mem_propertyNodes (properties : List (String × Node)) (steps : List PathStep)
    (name : String) (child : Node) (place : List PathStep × Node)
    (hchild : (name, child) ∈ properties)
    (hplace : place ∈ child.nodes (steps ++ [.property name])) :
    place ∈ propertyNodes properties steps := by
  induction properties with
  | nil => cases hchild
  | cons entry rest ih =>
    unfold propertyNodes
    rcases List.mem_cons.1 hchild with rfl | hrest
    · exact List.mem_append_left _ hplace
    · exact List.mem_append_right _ (ih hrest)

/-- What a node has to be like: a tuple has positions, bounds that are both set are in order, a
pattern can be read, and the bounds on a number are finite. -/
structure Configured [PatternLanguage] (node : Node) : Prop where
  positions : ∀ attrs lengths, node ≠ tuple attrs lengths []
  lengths : ∀ min max, node.rule.lengths.min? = some min → node.rule.lengths.max? = some max →
    min ≤ max
  pattern : ∀ source, node.rule.pattern? = some source → ∃ p, Pattern.ofString source = .ok p
  minFinite : ∀ min, node.rule.min? = some min → min.isFinite = true
  maxFinite : ∀ max, node.rule.max? = some max → max.isFinite = true
  numbers : ∀ min max, node.rule.min? = some min → node.rule.max? = some max → min.le max = true

end Node

/-- The defects of the nodes of a list, each under the path of its steps. -/
def defectsOf [PatternLanguage] (places : List (List PathStep × Node)) : List Defect :=
  places.flatMap fun place => place.2.ownDefects (.ofSteps place.1)

/-- The defects of nodes after others stand behind theirs. -/
theorem defectsOf_append [PatternLanguage] (places places' : List (List PathStep × Node)) :
    defectsOf (places ++ places') = defectsOf places ++ defectsOf places' :=
  List.flatMap_append

/-- The defects of one node. -/
theorem defectsOf_singleton [PatternLanguage] (steps : List PathStep) (node : Node) :
    defectsOf [(steps, node)] = node.ownDefects (.ofSteps steps) := by
  unfold defectsOf
  rw [List.flatMap_singleton]

namespace Schema

/-- The nodes of a schema with the steps that lead to them from the root. -/
def nodes (s : Schema) : List (List PathStep × Node) := s.node.nodes []

/-- The defects of a schema with names for extra arguments, in order. -/
def defects [PatternLanguage] (s : Schema) (extraParams : List String) : List Defect :=
  namesDefects [] extraParams ++ defectsOf s.nodes

end Schema

/-! ## The path of a defect -/

/-- The path that a defect names. The defect of a name for an extra argument has none. -/
def Defect.path? : Defect → Option FieldPath
  | unknownType path _ => some path
  | emptyTuple path => some path
  | invalidPattern path _ _ => some path
  | invalidBounds path _ => some path
  | invalidExtraParam _ _ => none
  | malformedDescriptor path _ => some path

/-- The defects of names are of the names. -/
theorem mem_namesDefects (names : List String) : ∀ (before : List String) (d : Defect),
    d ∈ namesDefects before names → ∃ name ∈ names, ∃ fault, d = .invalidExtraParam name fault := by
  induction names with
  | nil => intro before d h; cases h
  | cons name rest ih =>
    intro before d h
    rcases List.mem_append.1 h with h | h
    · unfold nameDefects at h
      split_ifs at h
      · exact ⟨name, List.mem_cons_self, _, List.mem_singleton.1 h⟩
      · exact ⟨name, List.mem_cons_self, _, List.mem_singleton.1 h⟩
      · cases h
    · obtain ⟨n, hn, hfault⟩ := ih _ d h
      exact ⟨n, List.mem_cons_of_mem name hn, hfault⟩

/-- A defect that is listed under a condition is the one that is listed. -/
theorem eq_of_mem_ite (condition : Prop) [Decidable condition] (d d' : Defect)
    (h : d ∈ if condition then [d'] else []) : d = d' := by
  split_ifs at h with hcondition
  · exact List.mem_singleton.1 h
  · cases h

/-- The defect of bounds on a length names their path. -/
theorem LengthBounds.path?_of_mem_defects (lengths : LengthBounds) (path : FieldPath) (d : Defect)
    (h : d ∈ lengths.defects path) : d.path? = some path := by
  unfold defects at h
  split at h
  · rw [eq_of_mem_ite _ d _ h]
    rfl
  · cases h

/-- The defect of a pattern names its path. -/
theorem path?_of_mem_patternDefects [PatternLanguage]
    (path : FieldPath) (source : String) (d : Defect)
    (h : d ∈ patternDefects path source) : d.path? = some path := by
  unfold patternDefects at h
  split at h
  · rw [List.mem_singleton.1 h]
    rfl
  · cases h

/-- The defect of a bound names its path. -/
theorem path?_of_mem_boundDefects (path : FieldPath) (bound : Binary64) (d : Defect)
    (h : d ∈ boundDefects path bound) : d.path? = some path := by
  unfold boundDefects at h
  rw [← ite_not] at h
  rw [eq_of_mem_ite _ d _ h]
  rfl

/-- The defect of two bounds names their path. -/
theorem path?_of_mem_orderDefects (path : FieldPath) (min? max? : Option Binary64) (d : Defect)
    (h : d ∈ orderDefects path min? max?) : d.path? = some path := by
  unfold orderDefects at h
  split at h
  · rw [eq_of_mem_ite _ d _ h]
    rfl
  · cases h

/-- The defects of a node name its path. -/
theorem Node.path?_of_mem_ownDefects [PatternLanguage] (node : Node) (path : FieldPath) (d : Defect)
    (h : d ∈ node.ownDefects path) : d.path? = some path := by
  unfold ownDefects Rule.defects at h
  simp only [List.mem_append, List.mem_flatMap] at h
  rcases h with h | (((h | ⟨source, -, h⟩) | ⟨min, -, h⟩) | ⟨max, -, h⟩) | h
  · rw [eq_of_mem_ite _ d _ h]
    rfl
  · exact node.rule.lengths.path?_of_mem_defects path d h
  · exact path?_of_mem_patternDefects path source d h
  · exact path?_of_mem_boundDefects path min d h
  · exact path?_of_mem_boundDefects path max d h
  · exact path?_of_mem_orderDefects path _ _ d h

/-! ## A schema without defects -/

/-- Bounds on a length have no defect when they are in order. -/
theorem LengthBounds.defects_eq_nil_iff (lengths : LengthBounds) (path : FieldPath) :
    lengths.defects path = [] ↔
      ∀ min max, lengths.min? = some min → lengths.max? = some max → min ≤ max := by
  unfold defects
  cases hmin : lengths.min? with
  | none => simp
  | some min =>
    cases hmax : lengths.max? with
    | none => simp
    | some max => simp [UInt64.not_lt]

/-- A pattern that may be missing has no defect when it can be read. -/
theorem patternDefects_eq_nil_iff [PatternLanguage] (source? : Option String) (path : FieldPath) :
    source?.toList.flatMap (patternDefects path) = [] ↔
      ∀ source, source? = some source → ∃ p, Pattern.ofString source = .ok p := by
  cases source? with
  | none => simp
  | some source =>
    unfold patternDefects
    cases h : Pattern.ofString source with
    | error fault => simp [h]
    | ok p => simp [h]

/-- A bound that may be missing has no defect when it is finite. -/
theorem boundDefects_eq_nil_iff (bound? : Option Binary64) (path : FieldPath) :
    bound?.toList.flatMap (boundDefects path) = [] ↔
      ∀ bound, bound? = some bound → bound.isFinite = true := by
  cases bound? with
  | none => simp
  | some bound => simp [boundDefects]

/-- Finite bounds have no defect together when they are in order. -/
theorem orderDefects_eq_nil_iff (path : FieldPath) (min? max? : Option Binary64)
    (hmin : ∀ min, min? = some min → min.isFinite = true)
    (hmax : ∀ max, max? = some max → max.isFinite = true) :
    orderDefects path min? max? = [] ↔
      ∀ min max, min? = some min → max? = some max → min.le max = true := by
  cases min? with
  | none => simp [orderDefects]
  | some min =>
    cases max? with
    | none => simp [orderDefects]
    | some max =>
      have hle := Binary64.lt_eq_false_iff min max (hmin min rfl) (hmax max rfl)
      have hlist : orderDefects path (some min) (some max) = [] ↔ max.lt min = false := by
        unfold orderDefects
        cases h : max.lt min <;> simp [h]
      rw [hlist, hle]
      constructor
      · rintro h _ _ ⟨⟩ ⟨⟩
        exact h
      · intro h
        exact h min max rfl rfl

/-- A node has no defect of its own when it is configured. -/
theorem Node.ownDefects_eq_nil_iff [PatternLanguage] (node : Node) (path : FieldPath) :
    node.ownDefects path = [] ↔ node.Configured := by
  have htuple : (if node.isEmptyTuple then [Defect.emptyTuple path] else []) = [] ↔
      ∀ attrs lengths, node ≠ tuple attrs lengths [] := by
    cases node with
    | tuple attrs lengths positions => cases positions <;> simp [isEmptyTuple]
    | leaf attrs rule => simp [isEmptyTuple]
    | arrayOf attrs lengths item => simp [isEmptyTuple]
    | object attrs allowExtra properties => simp [isEmptyTuple]
  unfold ownDefects Rule.defects
  simp only [List.append_eq_nil_iff, htuple, LengthBounds.defects_eq_nil_iff,
    patternDefects_eq_nil_iff, boundDefects_eq_nil_iff]
  -- The order of two bounds is told by their ranks, so it is compared last, when both are finite.
  constructor
  · rintro ⟨hpositions, ⟨⟨⟨hlengths, hpattern⟩, hmin⟩, hmax⟩, horder⟩
    exact ⟨hpositions, hlengths, hpattern, hmin, hmax,
      (orderDefects_eq_nil_iff path _ _ hmin hmax).1 horder⟩
  · rintro ⟨hpositions, hlengths, hpattern, hmin, hmax, horder⟩
    exact ⟨hpositions, ⟨⟨⟨hlengths, hpattern⟩, hmin⟩, hmax⟩,
      (orderDefects_eq_nil_iff path _ _ hmin hmax).2 horder⟩

/-- Nodes have no defects when each of them is configured. -/
theorem defectsOf_eq_nil_iff [PatternLanguage] (places : List (List PathStep × Node)) :
    defectsOf places = [] ↔ ∀ place ∈ places, place.2.Configured := by
  unfold defectsOf
  rw [List.flatMap_eq_nil_iff]
  exact forall₂_congr fun place _ => place.2.ownDefects_eq_nil_iff _

/-- A schema has no defects when the names for extra arguments are identifiers, each given once, and
every node is configured. -/
theorem Schema.defects_eq_nil_iff [PatternLanguage] (s : Schema) (extraParams : List String) :
    s.defects extraParams = [] ↔
      (∀ name ∈ extraParams, IsIdentifier name) ∧ extraParams.Nodup ∧
        ∀ place ∈ s.nodes, place.2.Configured := by
  unfold defects
  rw [List.append_eq_nil_iff, namesDefects_eq_nil_iff, defectsOf_eq_nil_iff]
  constructor
  · rintro ⟨⟨hids, hnodup, -⟩, hnodes⟩
    exact ⟨hids, hnodup, hnodes⟩
  · rintro ⟨hids, hnodup, hnodes⟩
    exact ⟨⟨hids, hnodup, fun _ _ => List.not_mem_nil⟩, hnodes⟩

end DataShape
