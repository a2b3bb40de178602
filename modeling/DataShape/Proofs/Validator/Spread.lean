import DataShape.Proofs.Schema.WithoutErrors
import DataShape.Proofs.Validator.Refinement

/-!
# The errors of an input are spread over the leaves

A node stands at an address, which tells the child to take on each level. `Node.addresses` lists the
addresses of a tree in pre-order: a node before its children, and these in declaration order. To see
which nodes report, every node gets a literal error of its own for each constraint
(`Schema.labelled`). The addresses that the errors of an input name then stand in the order of
`Schema.addresses`, none twice, and none below another (`Schema.errors_spread`). So an input has no
more errors than the schema has leaves.

That a set of addresses is such a selection is `Spread`. A node that reports itself is a selection of
one. Otherwise the selections of its children are put together, and those of different children stand
apart, since their addresses part at the node. An array with one node for all items is the case that
matters: every item is read by the same node, but what is reported is the selection of one item.
-/

namespace DataShape

/-- Where a node stands in a schema: the number of the child to take on each level, from the root
down. -/
abbrev Address := List Nat

namespace Address

/-- Neither node stands at or below the other. -/
def Apart (a b : Address) : Prop := ¬ a <+: b ∧ ¬ b <+: a

/-- An address below a child of a node is no prefix of one below another child. -/
theorem not_prefix_of_child_ne (a b c : Address) (i j : Nat) (hij : i ≠ j)
    (hb : a ++ [i] <+: b) (hc : a ++ [j] <+: c) : ¬ b <+: c := by
  intro hbc
  -- Both children would be the prefix of `c` of the same length.
  have hlength : (a ++ [i]).length = (a ++ [j]).length := by simp
  have heq : a ++ [i] = a ++ [j] :=
    (List.prefix_of_prefix_length_le (hb.trans hbc) hc (Nat.le_of_eq hlength)).eq_of_length hlength
  exact hij (List.singleton_inj.1 (List.append_cancel_left heq))

/-- Addresses below different children of a node stand apart. -/
theorem apart_of_child_ne (a b c : Address) (i j : Nat) (hij : i ≠ j) (hb : a ++ [i] <+: b)
    (hc : a ++ [j] <+: c) : Apart b c :=
  ⟨not_prefix_of_child_ne a b c i j hij hb hc, not_prefix_of_child_ne a c b j i hij.symm hc hb⟩

/-- Addresses that stand apart are different. -/
theorem Apart.ne {a b : Address} (h : Apart a b) : a ≠ b := by
  rintro rfl
  exact h.1 (List.prefix_refl a)

end Address

/-! ## The addresses of a tree -/

namespace Node

mutual

/-- The addresses of a node and of all nodes below it, in pre-order. -/
def addresses : Node → Address → List Address
  | leaf _ _, a => [a]
  | arrayOf _ _ item, a => a :: item.addresses (a ++ [0])
  | tuple _ _ positions, a => a :: positionAddresses positions a 0
  | object _ _ properties, a => a :: propertyAddresses properties a 0

/-- The addresses below a tuple, from the given position on. -/
def positionAddresses : List Node → Address → Nat → List Address
  | [], _, _ => []
  | node :: rest, a, i => node.addresses (a ++ [i]) ++ positionAddresses rest a (i + 1)

/-- The addresses below an object, counting its properties from `i`. -/
def propertyAddresses : List (String × Node) → Address → Nat → List Address
  | [], _, _ => []
  | (_, node) :: rest, a, i => node.addresses (a ++ [i]) ++ propertyAddresses rest a (i + 1)

end

mutual

/-- The number of leaves of a tree, a node without children counting as one. -/
def leaves : Node → Nat
  | leaf _ _ => 1
  | arrayOf _ _ item => max 1 item.leaves
  | tuple _ _ positions => max 1 (positionLeaves positions)
  | object _ _ properties => max 1 (propertyLeaves properties)

/-- The number of leaves of nodes. -/
def positionLeaves : List Node → Nat
  | [] => 0
  | node :: rest => node.leaves + positionLeaves rest

/-- The number of leaves of the nodes of properties. -/
def propertyLeaves : List (String × Node) → Nat
  | [] => 0
  | (_, node) :: rest => node.leaves + propertyLeaves rest

end

mutual

/-- All addresses of a tree begin with that of its root. -/
theorem prefix_of_mem_addresses (node : Node) (a b : Address) (h : b ∈ node.addresses a) :
    a <+: b := by
  cases node with
  | leaf attrs rule =>
    unfold addresses at h
    obtain rfl := List.mem_singleton.1 h
    exact List.prefix_refl b
  | arrayOf attrs lengths item =>
    unfold addresses at h
    rcases List.mem_cons.1 h with rfl | h
    · exact List.prefix_refl b
    · exact (List.prefix_append a [0]).trans (prefix_of_mem_addresses item _ b h)
  | tuple attrs lengths positions =>
    unfold addresses at h
    rcases List.mem_cons.1 h with rfl | h
    · exact List.prefix_refl b
    · obtain ⟨j, -, hj⟩ := child_of_mem_positionAddresses positions a 0 b h
      exact (List.prefix_append a [j]).trans hj
  | object attrs allowExtra properties =>
    unfold addresses at h
    rcases List.mem_cons.1 h with rfl | h
    · exact List.prefix_refl b
    · obtain ⟨j, -, hj⟩ := child_of_mem_propertyAddresses properties a 0 b h
      exact (List.prefix_append a [j]).trans hj

/-- An address below a tuple goes through one of the positions. -/
theorem child_of_mem_positionAddresses (positions : List Node) (a : Address) (i : Nat)
    (b : Address) (h : b ∈ positionAddresses positions a i) : ∃ j, i ≤ j ∧ a ++ [j] <+: b := by
  cases positions with
  | nil => cases h
  | cons node rest =>
    unfold positionAddresses at h
    rcases List.mem_append.1 h with h | h
    · exact ⟨i, Nat.le_refl i, prefix_of_mem_addresses node _ b h⟩
    · obtain ⟨j, hij, hj⟩ := child_of_mem_positionAddresses rest a (i + 1) b h
      exact ⟨j, Nat.le_of_succ_le hij, hj⟩

/-- An address below an object goes through one of the properties. -/
theorem child_of_mem_propertyAddresses (properties : List (String × Node)) (a : Address) (i : Nat)
    (b : Address) (h : b ∈ propertyAddresses properties a i) : ∃ j, i ≤ j ∧ a ++ [j] <+: b := by
  match properties with
  | [] => cases h
  | (name, node) :: rest =>
    unfold propertyAddresses at h
    rcases List.mem_append.1 h with h | h
    · exact ⟨i, Nat.le_refl i, prefix_of_mem_addresses node _ b h⟩
    · obtain ⟨j, hij, hj⟩ := child_of_mem_propertyAddresses rest a (i + 1) b h
      exact ⟨j, Nat.le_of_succ_le hij, hj⟩

end

/-- An address below one position stands apart from those below the later positions. -/
theorem apart_of_mem_positionAddresses (node : Node) (rest : List Node) (a : Address) (i : Nat)
    (b : Address) (hb : b ∈ node.addresses (a ++ [i])) (c : Address)
    (hc : c ∈ positionAddresses rest a (i + 1)) : b.Apart c := by
  obtain ⟨j, hij, hj⟩ := child_of_mem_positionAddresses rest a (i + 1) c hc
  exact Address.apart_of_child_ne a b c i j (by omega) (node.prefix_of_mem_addresses _ b hb) hj

/-- An address below one property stands apart from those below the later properties. -/
theorem apart_of_mem_propertyAddresses (node : Node) (rest : List (String × Node)) (a : Address)
    (i : Nat) (b : Address) (hb : b ∈ node.addresses (a ++ [i])) (c : Address)
    (hc : c ∈ propertyAddresses rest a (i + 1)) : b.Apart c := by
  obtain ⟨j, hij, hj⟩ := child_of_mem_propertyAddresses rest a (i + 1) c hc
  exact Address.apart_of_child_ne a b c i j (by omega) (node.prefix_of_mem_addresses _ b hb) hj

/-- A node's own address is not among those of its children. -/
theorem not_child_prefix_self (a : Address) (j : Nat) : ¬ a ++ [j] <+: a := by
  intro h
  have := h.length_le
  rw [List.length_append, List.length_singleton] at this
  omega

mutual

/-- No address stands twice. -/
theorem nodup_addresses (node : Node) (a : Address) : (node.addresses a).Nodup := by
  cases node with
  | leaf attrs rule =>
    unfold addresses
    exact List.nodup_cons.2 ⟨List.not_mem_nil, List.nodup_nil⟩
  | arrayOf attrs lengths item =>
    unfold addresses
    refine List.nodup_cons.2 ⟨fun h => ?_, nodup_addresses item _⟩
    exact not_child_prefix_self a 0 (item.prefix_of_mem_addresses _ a h)
  | tuple attrs lengths positions =>
    unfold addresses
    refine List.nodup_cons.2 ⟨fun h => ?_, nodup_positionAddresses positions a 0⟩
    obtain ⟨j, -, hj⟩ := child_of_mem_positionAddresses positions a 0 a h
    exact not_child_prefix_self a j hj
  | object attrs allowExtra properties =>
    unfold addresses
    refine List.nodup_cons.2 ⟨fun h => ?_, nodup_propertyAddresses properties a 0⟩
    obtain ⟨j, -, hj⟩ := child_of_mem_propertyAddresses properties a 0 a h
    exact not_child_prefix_self a j hj

/-- No address below a tuple stands twice. -/
theorem nodup_positionAddresses (positions : List Node) (a : Address) (i : Nat) :
    (positionAddresses positions a i).Nodup := by
  cases positions with
  | nil => exact List.nodup_nil
  | cons node rest =>
    unfold positionAddresses
    exact List.nodup_append.2 ⟨nodup_addresses node _, nodup_positionAddresses rest a (i + 1),
      fun b hb c hc => (apart_of_mem_positionAddresses node rest a i b hb c hc).ne⟩

/-- No address below an object stands twice. -/
theorem nodup_propertyAddresses (properties : List (String × Node)) (a : Address) (i : Nat) :
    (propertyAddresses properties a i).Nodup := by
  match properties with
  | [] => exact List.nodup_nil
  | (name, node) :: rest =>
    unfold propertyAddresses
    exact List.nodup_append.2 ⟨nodup_addresses node _, nodup_propertyAddresses rest a (i + 1),
      fun b hb c hc => (apart_of_mem_propertyAddresses node rest a i b hb c hc).ne⟩

end

end Node

/-! ## Labels -/

/-- The same node, reporting each constraint by the error that is given for it. -/
def Attributes.labelled (attrs : Attributes) (label : Constraint → ValidationError) : Attributes :=
  { attrs with errors := ⟨fun c => some (.literal (label c))⟩ }

namespace Node

mutual

/-- The same tree, each node reporting by the errors that are given for its address. -/
def labelled (label : Address → Constraint → ValidationError) : Node → Address → Node
  | leaf attrs rule, a => leaf (attrs.labelled (label a)) rule
  | arrayOf attrs lengths item, a =>
    arrayOf (attrs.labelled (label a)) lengths (item.labelled label (a ++ [0]))
  | tuple attrs lengths positions, a =>
    tuple (attrs.labelled (label a)) lengths (labelledPositions label positions a 0)
  | object attrs allowExtra properties, a =>
    object (attrs.labelled (label a)) allowExtra (labelledProperties label properties a 0)

/-- The positions of a tuple with labels. -/
def labelledPositions (label : Address → Constraint → ValidationError) :
    List Node → Address → Nat → List Node
  | [], _, _ => []
  | node :: rest, a, i => node.labelled label (a ++ [i]) :: labelledPositions label rest a (i + 1)

/-- The properties of an object with labels. -/
def labelledProperties (label : Address → Constraint → ValidationError) :
    List (String × Node) → Address → Nat → List (String × Node)
  | [], _, _ => []
  | (name, node) :: rest, a, i =>
    (name, node.labelled label (a ++ [i])) :: labelledProperties label rest a (i + 1)

end

end Node

namespace Schema

/-- The same schema, each node reporting by the errors that are given for its address. -/
def labelled (s : Schema) (label : Address → Constraint → ValidationError) : Schema :=
  { s with
    properties := Node.labelledProperties label s.properties [] 0
    errors := ⟨fun c => some (.literal (label [] c))⟩ }

/-- The addresses of the nodes of a schema in pre-order, that of the root being empty. -/
def addresses (s : Schema) : List Address := s.node.addresses []

/-- The number of leaves of a schema. -/
def leaves (s : Schema) : Nat := s.node.leaves

end Schema

section

variable (label : Address → Constraint → ValidationError)

namespace Node

/-- The attributes of a node with labels. -/
theorem attrs_labelled (node : Node) (a : Address) :
    (node.labelled label a).attrs = node.attrs.labelled (label a) := by
  cases node <;> (unfold labelled; rfl)

mutual

/-- Labels replace nothing but the producers of a tree. -/
theorem withoutErrors_labelled (node : Node) (a : Address) :
    (node.labelled label a).withoutErrors = node.withoutErrors := by
  cases node with
  | leaf attrs rule =>
    unfold labelled withoutErrors
    rfl
  | arrayOf attrs lengths item =>
    unfold labelled withoutErrors
    rw [withoutErrors_labelled item]
    rfl
  | tuple attrs lengths positions =>
    unfold labelled withoutErrors
    rw [positionsWithoutErrors_labelled positions]
    rfl
  | object attrs allowExtra properties =>
    unfold labelled withoutErrors
    rw [propertiesWithoutErrors_labelled properties]
    rfl

/-- The same for the positions of a tuple. -/
theorem positionsWithoutErrors_labelled (positions : List Node) (a : Address) (i : Nat) :
    positionsWithoutErrors (labelledPositions label positions a i) =
      positionsWithoutErrors positions := by
  cases positions with
  | nil => rfl
  | cons node rest =>
    unfold labelledPositions positionsWithoutErrors
    rw [withoutErrors_labelled node, positionsWithoutErrors_labelled rest]

/-- The same for the properties of an object. -/
theorem propertiesWithoutErrors_labelled (properties : List (String × Node)) (a : Address)
    (i : Nat) :
    propertiesWithoutErrors (labelledProperties label properties a i) =
      propertiesWithoutErrors properties := by
  match properties with
  | [] => rfl
  | (name, node) :: rest =>
    unfold labelledProperties propertiesWithoutErrors
    rw [withoutErrors_labelled node, propertiesWithoutErrors_labelled rest]

end

end Node

/-- The root of a schema with labels. -/
theorem Schema.node_labelled (s : Schema) :
    (s.labelled label).node = s.node.labelled label [] := by
  unfold node Node.labelled
  rfl

/-- Labels do not change the defects of a schema. -/
theorem Schema.defects_labelled [PatternLanguage] (s : Schema) (extraParams : List String) :
    (s.labelled label).defects extraParams = s.defects extraParams := by
  have hsame : (s.labelled label).withoutErrors = s.withoutErrors := by
    unfold withoutErrors labelled
    rw [Node.propertiesWithoutErrors_labelled]
  exact (s.labelled label).defects_eq_of_withoutErrors_eq s hsame extraParams

end

/-! ## Selections -/

/-- The last nonempty list is one of the lists, unless it is empty. -/
theorem lastNonempty_eq_nil_or_mem {α : Type} (lists : List (List α)) :
    lastNonempty lists = [] ∨ lastNonempty lists ∈ lists := by
  induction lists with
  | nil => exact Or.inl rfl
  | cons list lists ih =>
    rw [lastNonempty_cons]
    cases hlast : lastNonempty lists with
    | nil => exact Or.inr List.mem_cons_self
    | cons a found =>
      rw [hlast] at ih
      exact Or.inr (List.mem_cons_of_mem list (ih.resolve_left (List.cons_ne_nil a found)))

section

variable (label : Address → Constraint → ValidationError)
  (named : ValidationError → Address × Constraint)

/-- The addresses that errors name. -/
def namedBy (errors : List ValidationError) : List Address := errors.map fun e => (named e).1

/-- Errors are labels. They name some of the addresses of a list, in its order, that stand apart from
each other. -/
structure Spread (all : List Address) (errors : List ValidationError) : Prop where
  labels : ∀ e ∈ errors, ∃ a c, e = label a c
  sublist : (namedBy named errors).Sublist all
  apart : (namedBy named errors).Pairwise Address.Apart

namespace Spread

variable {label named}

/-- Without errors no address is named. -/
theorem nil (all : List Address) : Spread label named all [] where
  labels _ he := absurd he List.not_mem_nil
  sublist := List.nil_sublist all
  apart := .nil

/-- One label names its own address. -/
theorem singleton (hnamed : ∀ a c, named (label a c) = (a, c)) {all : List Address} {a : Address}
    (ha : a ∈ all) (c : Constraint) : Spread label named all [label a c] := by
  have hname : namedBy named [label a c] = [a] := by
    unfold namedBy
    rw [List.map_singleton, hnamed]
  refine ⟨fun e he => ⟨a, c, List.mem_singleton.1 he⟩, ?_, ?_⟩
  · rw [hname]
    exact List.singleton_sublist.2 ha
  · rw [hname]
    exact List.pairwise_singleton _ a

/-- More addresses may stand in front. -/
theorem cons {all : List Address} {errors : List ValidationError}
    (h : Spread label named all errors) (a : Address) : Spread label named (a :: all) errors :=
  ⟨h.labels, h.sublist.cons a, h.apart⟩

/-- Errors that name addresses of lists that stand apart are put together. -/
theorem append {all all' : List Address} {errors errors' : List ValidationError}
    (h : Spread label named all errors) (h' : Spread label named all' errors')
    (hapart : ∀ a ∈ all, ∀ b ∈ all', a.Apart b) :
    Spread label named (all ++ all') (errors ++ errors') := by
  have hname : namedBy named (errors ++ errors') =
      namedBy named errors ++ namedBy named errors' := List.map_append
  refine ⟨fun e he => (List.mem_append.1 he).elim (h.labels e) (h'.labels e), ?_, ?_⟩
  · rw [hname]
    exact h.sublist.append h'.sublist
  · rw [hname]
    exact List.pairwise_append.2 ⟨h.apart, h'.apart, fun a ha b hb =>
      hapart a (h.sublist.subset ha) b (h'.sublist.subset hb)⟩

/-- A child that is passed over reports nothing. -/
theorem unless_passed {all : List Address} {reports : List Report}
    (h : Spread label named all (reports.map Report.error)) (passed : Bool) :
    Spread label named all ((if passed then [] else reports).map Report.error) := by
  split_ifs
  · exact .nil _
  · exact h

end Spread

namespace Node

/-- A node that reports itself names its own address. -/
theorem spread_report? [PatternLanguage]
    (hnamed : ∀ a c, named (label a c) = (a, c)) (node : Node) (a : Address)
    (extras : Extras) (trail : Trail) (value? : Option Value) (r : Report)
    (hr : (node.labelled label a).report? extras trail value? = some r) :
    Spread label named (node.addresses a) [r.error] := by
  obtain ⟨c, -, hc⟩ := List.exists_of_findSome?_eq_some hr
  obtain ⟨fault, -, rfl⟩ := Option.map_eq_some_iff.1 hc
  have hself : a ∈ node.addresses a := by
    cases node <;> (unfold addresses; exact List.mem_cons_self)
  have herror : ((node.labelled label a).report extras trail value? c fault).error = label a c := by
    unfold report Report.error
    rw [attrs_labelled]
    rfl
  rw [herror]
  exact .singleton hnamed hself c

mutual

/-- The errors of a tree with labels name a selection of its addresses. -/
theorem spread_reports [PatternLanguage]
    (hnamed : ∀ a c, named (label a c) = (a, c)) (node : Node) (a : Address)
    (extras : Extras) (trail : Trail) (value? : Option Value) :
    Spread label named (node.addresses a)
      (((node.labelled label a).reports extras trail value?).map Report.error) := by
  have hown := node.spread_report? label named hnamed a extras trail value?
  cases node with
  | leaf attrs rule =>
    unfold labelled at hown ⊢
    unfold reports
    cases hreport : (leaf (attrs.labelled (label a)) rule).report? extras trail value? with
    | none => exact .nil _
    | some r => exact hown r hreport
  | arrayOf attrs lengths item =>
    unfold labelled at hown ⊢
    unfold reports
    cases hreport : (arrayOf (attrs.labelled (label a)) lengths
        (item.labelled label (a ++ [0]))).report? extras trail value? with
    | some r => exact hown r hreport
    | none =>
      -- However many items are read, the reports are those of one of them.
      unfold addresses
      refine Spread.cons ?_ a
      rcases lastNonempty_eq_nil_or_mem (((value?.bind Value.list?).getD []).mapIdx fun i x =>
        (item.labelled label (a ++ [0])).reports extras (trail ++ [.element i]) (some x))
        with hnil | hmem
      · simp only [hnil]
        exact .nil _
      · obtain ⟨i, hi, hlist⟩ := List.mem_mapIdx.1 hmem
        simp only [← hlist]
        exact spread_reports hnamed item _ extras _ _
  | tuple attrs lengths positions =>
    unfold labelled at hown ⊢
    unfold reports
    cases hreport : (tuple (attrs.labelled (label a)) lengths
        (labelledPositions label positions a 0)).report? extras trail value? with
    | some r => exact hown r hreport
    | none =>
      unfold addresses
      exact (spread_positionReports hnamed positions a 0 extras trail value? 0).cons a
  | object attrs allowExtra properties =>
    unfold labelled at hown ⊢
    unfold reports
    cases hreport : (object (attrs.labelled (label a)) allowExtra
        (labelledProperties label properties a 0)).report? extras trail value? with
    | some r => exact hown r hreport
    | none =>
      unfold addresses
      exact (spread_propertyReports hnamed properties a 0 extras trail value?).cons a

/-- The same for the positions of a tuple. -/
theorem spread_positionReports [PatternLanguage] (hnamed : ∀ a c, named (label a c) = (a, c))
    (positions : List Node) (a : Address) (i : Nat) (extras : Extras) (trail : Trail)
    (value? : Option Value) (j : Nat) :
    Spread label named (positionAddresses positions a i)
      ((positionReports extras (labelledPositions label positions a i) trail value? j).map
        Report.error) := by
  cases positions with
  | nil => exact .nil _
  | cons node rest =>
    have hfirst := spread_reports hnamed node (a ++ [i]) extras (trail ++ [.position j])
      (value?.bind (·.item? j))
    unfold positionAddresses labelledPositions positionReports
    rw [List.map_append]
    exact (hfirst.unless_passed _).append
      (spread_positionReports hnamed rest a (i + 1) extras trail value? (j + 1))
      (apart_of_mem_positionAddresses node rest a i)

/-- The same for the properties of an object. -/
theorem spread_propertyReports [PatternLanguage] (hnamed : ∀ a c, named (label a c) = (a, c))
    (properties : List (String × Node)) (a : Address) (i : Nat) (extras : Extras) (trail : Trail)
    (value? : Option Value) :
    Spread label named (propertyAddresses properties a i)
      ((propertyReports extras (labelledProperties label properties a i) trail value?).map
        Report.error) := by
  match properties with
  | [] => exact .nil _
  | (name, node) :: rest =>
    have hfirst := spread_reports hnamed node (a ++ [i]) extras (trail ++ [.property name])
      (value?.bind (·.get? name))
    unfold propertyAddresses labelledProperties propertyReports
    rw [List.map_append]
    exact (hfirst.unless_passed _).append
      (spread_propertyReports hnamed rest a (i + 1) extras trail value?)
      (apart_of_mem_propertyAddresses node rest a i)

end

end Node

end

/-! ## Counting -/

namespace Node

/-- A child that is passed over reports nothing. -/
theorem length_child_le (node : Node) (value? : Option Value) (reports : List Report) (n : Nat)
    (h : reports.length ≤ n) : (if node.passesOver value? then [] else reports).length ≤ n := by
  split_ifs
  · exact Nat.zero_le n
  · exact h

/-- A node and its children report at most one error, or what the children do. -/
theorem length_unless_le (report? : Option Report) (reports : List Report) (n : Nat)
    (h : reports.length ≤ n) :
    (match report? with
      | some r => [r]
      | none => reports).length ≤ max 1 n := by
  cases report? with
  | some r => exact Nat.le_max_left 1 n
  | none => exact Nat.le_trans h (Nat.le_max_right 1 n)

mutual

/-- A tree reports at most as many errors as it has leaves. -/
theorem length_reports_le_leaves [PatternLanguage] (node : Node) (extras : Extras) (trail : Trail)
    (value? : Option Value) : (node.reports extras trail value?).length ≤ node.leaves := by
  cases node with
  | leaf attrs rule =>
    unfold reports leaves
    exact Option.length_toList_le
  | arrayOf attrs lengths item =>
    unfold reports leaves
    refine length_unless_le _ _ _ ?_
    rcases lastNonempty_eq_nil_or_mem (((value?.bind Value.list?).getD []).mapIdx fun i x =>
      item.reports extras (trail ++ [.element i]) (some x)) with hnil | hmem
    · rw [hnil]
      exact Nat.zero_le _
    · obtain ⟨i, hi, hlist⟩ := List.mem_mapIdx.1 hmem
      rw [← hlist]
      exact length_reports_le_leaves item extras _ _
  | tuple attrs lengths positions =>
    unfold reports leaves
    exact length_unless_le _ _ _ (length_positionReports_le positions extras trail value? 0)
  | object attrs allowExtra properties =>
    unfold reports leaves
    exact length_unless_le _ _ _ (length_propertyReports_le properties extras trail value?)

/-- The same for the positions of a tuple. -/
theorem length_positionReports_le [PatternLanguage]
    (positions : List Node) (extras : Extras) (trail : Trail)
    (value? : Option Value) (i : Nat) :
    (positionReports extras positions trail value? i).length ≤ positionLeaves positions := by
  cases positions with
  | nil => exact Nat.le_refl 0
  | cons node rest =>
    unfold positionReports positionLeaves
    rw [List.length_append]
    exact Nat.add_le_add
      (node.length_child_le _ _ _ (length_reports_le_leaves node extras _ _))
      (length_positionReports_le rest extras trail value? (i + 1))

/-- The same for the properties of an object. -/
theorem length_propertyReports_le [PatternLanguage]
    (properties : List (String × Node)) (extras : Extras)
    (trail : Trail) (value? : Option Value) :
    (propertyReports extras properties trail value?).length ≤ propertyLeaves properties := by
  match properties with
  | [] => exact Nat.le_refl 0
  | (name, node) :: rest =>
    unfold propertyReports propertyLeaves
    rw [List.length_append]
    exact Nat.add_le_add
      (node.length_child_le _ _ _ (length_reports_le_leaves node extras _ _))
      (length_propertyReports_le rest extras trail value?)

end

end Node

/-! ## The errors of an input -/

/-- An input has at most as many errors as the schema has leaves. -/
theorem Schema.length_validate_le_leaves [PatternLanguage]
    (s : Schema) (extraParams : List String) (v : Validator)
    (h : s.compile extraParams = .ok v) (input : Value) (args : List Value) :
    (v.validate input args).length ≤ s.leaves := by
  rw [s.validate_eq extraParams v h, List.length_map]
  exact s.node.length_reports_le_leaves _ [] (some input)

/-- A schema with labels compiles when the schema does. -/
theorem Schema.compile_labelled [PatternLanguage]
    (s : Schema) (label : Address → Constraint → ValidationError)
    (extraParams : List String) (v : Validator) (h : s.compile extraParams = .ok v) :
    ∃ v', (s.labelled label).compile extraParams = .ok v' := by
  have hdefects := ((s.compile_eq_ok_iff extraParams v).1 h).1
  refine ⟨_, ((s.labelled label).compile_eq_ok_iff extraParams _).2 ⟨?_, rfl⟩⟩
  rw [defects_labelled, hdefects]

/-- Let a schema compile, and label each constraint of each node with an error of its own. The errors
of an input then name nodes in pre-order, none twice, and none that stands above or below another.
There are never more errors than leaves. -/
theorem Schema.errors_spread [PatternLanguage]
    (s : Schema) (label : Address → Constraint → ValidationError)
    (named : ValidationError → Address × Constraint)
    (hnamed : ∀ a c, named (label a c) = (a, c)) (extraParams : List String) (v : Validator)
    (h : s.compile extraParams = .ok v) (input : Value) (args : List Value) :
    (∃ v', (s.labelled label).compile extraParams = .ok v' ∧
      (∀ e ∈ v'.validate input args, ∃ a c, e = label a c) ∧
      ((v'.validate input args).map fun e => (named e).1).Sublist s.addresses ∧
      ((v'.validate input args).map fun e => (named e).1).Pairwise fun a b =>
        ¬ a <+: b ∧ ¬ b <+: a) ∧
    s.addresses.Nodup ∧ (v.validate input args).length ≤ s.leaves := by
  obtain ⟨v', hv'⟩ := s.compile_labelled label extraParams v h
  have hspread := s.node.spread_reports label named hnamed [] { names := extraParams, args } []
    (some input)
  rw [← node_labelled] at hspread
  have hvalidate := (s.labelled label).validate_eq extraParams v' hv' input args
  unfold reports at hvalidate
  rw [← hvalidate] at hspread
  exact ⟨⟨v', hv', hspread.labels, hspread.sublist, hspread.apart⟩,
    s.node.nodup_addresses [], s.length_validate_le_leaves extraParams v h input args⟩

namespace Demo

/-- A label that spells the constraint and the address: a detail for each level, whose key is as long
as the number of the child. -/
def label (a : Address) (c : Constraint) : ValidationError :=
  .structured 0 ((c.name, .null) :: a.map fun i => (String.ofList (List.replicate i '.'), .null))

/-- The address and the constraint that a label spells. -/
def named : ValidationError → Address × Constraint
  | .structured _ ((name, _) :: levels) =>
    (levels.map fun level => level.1.length, (Constraint.ofName? name).getD .type)
  | _ => ([], .type)

/-- A label spells the address and the constraint that it is made for. -/
theorem named_label (a : Address) (c : Constraint) : named (label a c) = (a, c) := by
  have hname : Constraint.ofName? c.name = some c := by cases c <;> decide
  have hlevels : (a.map fun i => (String.ofList (List.replicate i '.'), Value.null)).map
      (fun level => level.1.length) = a := by
    rw [List.map_map]
    exact List.map_id'' (fun i => String.length_ofList.trans List.length_replicate) a
  have hdecoded : (Constraint.ofName? c.name).getD .type = c := by rw [hname, Option.getD_some]
  exact Prod.ext hlevels hdecoded

/-- With a label for each constraint of each node, the errors of the sample of the demonstration name
nodes that stand apart. -/
theorem errors_spread_sample :
    (∀ a c, named (label a c) = (a, c)) ∧
    schema.compile ["limit"] = .ok { plan := schema.node.plan .root, extraParams := ["limit"] } ∧
    (∃ v', (schema.labelled label).compile ["limit"] = .ok v' ∧
      (∀ e ∈ v'.validate sample [toValue 3], ∃ a c, e = label a c) ∧
      ((v'.validate sample [toValue 3]).map fun e => (named e).1).Sublist schema.addresses ∧
      ((v'.validate sample [toValue 3]).map fun e => (named e).1).Pairwise fun a b =>
        ¬ a <+: b ∧ ¬ b <+: a) ∧
    schema.addresses.Nodup ∧
    (Validator.validate { plan := schema.node.plan .root, extraParams := ["limit"] } sample
      [toValue 3]).length ≤ schema.leaves :=
  ⟨named_label, compile_schema,
    schema.errors_spread label named named_label ["limit"] _ compile_schema sample [toValue 3]⟩

example :
    schema.addresses = [[], [0], [1], [2], [2, 0], [3], [3, 0], [3, 0, 0], [3, 0, 1]] ∧
      schema.leaves = 5 := by
  decide +kernel

example :
    (Validator.validate { plan := (schema.labelled label).node.plan .root, extraParams := [] }
      sample []).map (fun e => (named e).1) = [[0], [1], [2, 0], [3, 0, 0], [3, 0, 1]] := by
  decide +kernel

end Demo

end DataShape
