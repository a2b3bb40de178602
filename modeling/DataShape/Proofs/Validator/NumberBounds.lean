import DataShape.Proofs.Number.Order
import DataShape.Proofs.Validator.Conformance
import DataShape.Proofs.Validator.Location

/-!
# Accepted numbers lie within their bounds, except for NaN

The bounds of a number node are inclusive (`NumberRules.Within`). They are tested by their negation: a
number fails when it is below the least or above the greatest number. NaN is neither, so it passes
every bound. It passes the test of the kind as well, unless the kind is integral.

`NumberRules.accepted_iff_within` says so of every number node that compiles: it accepts the numbers
of its kind that lie within the bounds and, if the kind is not integral, NaN.
`Schema.valid_number_within` carries this over to the numbers anywhere in a valid input.
-/

namespace DataShape

/-- The number is at least the least and at most the greatest number. -/
def NumberRules.Within (rules : NumberRules) (x : Binary64) : Prop :=
  (∀ min ∈ rules.min?, min.le x = true) ∧ ∀ max ∈ rules.max?, x.le max = true

instance (rules : NumberRules) (x : Binary64) : Decidable (rules.Within x) :=
  inferInstanceAs (Decidable (_ ∧ _))

/-! ## One node -/

/-- A check fails at a present value unless its test passes. -/
theorem Check.failure?_eq_none_iff (check : Check) (extras : Extras) (path : FieldPath)
    (index? : Option Nat) (v : Value) :
    check.failure? extras path index? (some v) = none ↔ check.test.outcome extras v = .pass := by
  unfold failure? refusal?
  cases houtcome : check.test.outcome extras v <;> simp [houtcome]

/-- Nothing fails when all tests pass, whatever the position of the item is. -/
theorem Cascade.failure?_eq_none_iff (own : Cascade) (extras : Extras) (index? : Option Nat)
    (v : Value) :
    own.failure? extras index? (some v) = none ↔
      ∀ check ∈ own.checks, check.test.outcome extras v = .pass := by
  unfold failure?
  rw [List.findSome?_eq_none_iff]
  exact forall₂_congr fun check _ => check.failure?_eq_none_iff extras own.path index? v

/-- Nothing fails of the checks of a node when what the node asks of the value holds. -/
theorem Node.failure?_checks_eq_none_iff [PatternLanguage]
    (node : Node) (h : node.Configured) (path : FieldPath)
    (extras : Extras) (index? : Option Nat) (v : Value) :
    (node.checks path).failure? extras index? (some v) = none ↔ node.Holds extras v := by
  -- Every path is that of a trail, and the position of the item plays no part.
  let trail : Trail := [.property path.text]
  have hpath : trail.path = path := rfl
  have hsent := node.sent_failure? h extras trail (some v)
  rw [hpath] at hsent
  have hnone : (node.checks path).failure? extras trail.index? (some v) = none ↔
      node.report? extras trail (some v) = none := by
    rw [← Option.map_eq_none_iff (f := Failure.sent), hsent, Option.map_eq_none_iff]
  rw [Cascade.failure?_eq_none_iff, ← Cascade.failure?_eq_none_iff _ extras trail.index?, hnone,
    report?_eq_none_iff]

/-- A leaf that compiles has no defect, and its plan is made of its checks. -/
theorem Node.compile_leaf_eq_ok_iff [PatternLanguage]
    (attrs : Attributes) (rule : LeafRule) (path : FieldPath)
    (plan : Plan) :
    (leaf attrs rule).compile path = .ok plan ↔
      (leaf attrs rule).Configured ∧ .leaf ((leaf attrs rule).checks path) = plan := by
  unfold compile
  rw [cascade_eq_of_not_isEmptyTuple _ _ rfl, unlessDefect_map, unlessDefect_eq_ok_iff,
    ownDefects_eq_nil_iff]

/-- NaN is of the kinds that are not integral. -/
theorem NumberKind.admits_nan_iff (k : NumberKind) : k.Admits .nan ↔ k.isIntegral = false := by
  rw [← admits_iff]
  cases k <;> simp [admits, range?, isIntegral, Binary64.toInt?]

namespace NumberRules

/-- A number passes finite bounds when it is NaN or lies within them. -/
theorem passes_iff (rules : NumberRules) (hmin : ∀ min ∈ rules.min?, min.isFinite = true)
    (hmax : ∀ max ∈ rules.max?, max.isFinite = true) (x : Binary64) :
    ((∀ min ∈ rules.min?, x.lt min = false) ∧ ∀ max ∈ rules.max?, max.lt x = false) ↔
      x = .nan ∨ rules.Within x := by
  have hleast : (∀ min ∈ rules.min?, x.lt min = false) ↔
      ∀ min ∈ rules.min?, x = .nan ∨ min.le x = true :=
    forall₂_congr fun min h => x.not_lt_bound_iff min (hmin min h)
  have hgreatest : (∀ max ∈ rules.max?, max.lt x = false) ↔
      ∀ max ∈ rules.max?, x = .nan ∨ x.le max = true :=
    forall₂_congr fun max h => x.not_gt_bound_iff max (hmax max h)
  rw [hleast, hgreatest]
  unfold Within
  by_cases hx : x = .nan
  · simp [hx]
  · simp [hx]

/-- A rule with finite bounds holds of the numbers of its kind that lie within the bounds, and of NaN
if the kind is not integral. -/
theorem holds_iff [PatternLanguage]
    (rules : NumberRules) (hmin : ∀ min ∈ rules.min?, min.isFinite = true)
    (hmax : ∀ max ∈ rules.max?, max.isFinite = true) (v : Value) :
    (Rule.leaf (.number rules)).Holds v ↔
      ∃ x, v = .number x ∧
        (rules.kind.Admits x ∧ rules.Within x ∨ x = .nan ∧ rules.kind.isIntegral = false) := by
  refine exists_congr fun x => and_congr_right fun _ => ?_
  rw [rules.passes_iff hmin hmax]
  constructor
  · rintro ⟨hadmits, rfl | hwithin⟩
    · exact Or.inr ⟨rfl, (rules.kind.admits_nan_iff).1 hadmits⟩
    · exact Or.inl ⟨hadmits, hwithin⟩
  · rintro (⟨hadmits, hwithin⟩ | ⟨rfl, hkind⟩)
    · exact ⟨hadmits, Or.inr hwithin⟩
    · exact ⟨(rules.kind.admits_nan_iff).2 hkind, Or.inl rfl⟩

/-- A number node that compiles accepts the numbers of its kind that lie within its bounds, ends
included, and NaN if the kind is not integral, as far as its predicate does not refuse them. It
accepts nothing else. -/
theorem accepted_iff_within [PatternLanguage]
    (attrs : Attributes) (rules : NumberRules) (path : FieldPath)
    (plan : Plan) (h : (Node.leaf attrs (.number rules)).compile path = .ok plan) (extras : Extras)
    (index? : Option Nat) (v : Value) :
    plan.failures extras index? (some v) = [] ↔
      (∃ x, v = .number x ∧
        (rules.kind.Admits x ∧ rules.Within x ∨ x = .nan ∧ rules.kind.isIntegral = false)) ∧
      ∀ p ∈ attrs.validator?, p.refusal? v extras = none := by
  obtain ⟨hconfigured, rfl⟩ := (Node.compile_leaf_eq_ok_iff attrs _ path plan).1 h
  have hholds := rules.holds_iff hconfigured.minFinite hconfigured.maxFinite v
  unfold Plan.failures
  rw [Option.toList_eq_nil_iff, Node.failure?_checks_eq_none_iff _ hconfigured]
  exact and_congr_left' hholds

end NumberRules

namespace Demo

/-- A share of a whole: a number from 0 to 1. -/
def share : NumberRules := { kind := .float, min? := some (.ofNat 0), max? := some (.ofNat 1) }

/-- The node of a share. -/
def shareNode : Node := .leaf {} (.number share)

/-- The node of a share compiles. -/
theorem compile_shareNode : shareNode.compile .root = .ok (.leaf (shareNode.checks .root)) :=
  (Node.compile_leaf_eq_ok_iff _ _ _ _).2
    ⟨(shareNode.ownDefects_eq_nil_iff .root).1 (by decide +kernel), rfl⟩

/-- One half is a share. -/
theorem accepted_iff_within_half :
    shareNode.compile .root = .ok (.leaf (shareNode.checks .root)) ∧
      Plan.failures .none (.leaf (shareNode.checks .root)) none
        (some (.number (.ofRatio false 1 2))) = [] := by
  have haccepts := share.accepted_iff_within {} .root _ compile_shareNode .none none
    (.number (.ofRatio false 1 2))
  have hadmits : share.kind.Admits (.ofRatio false 1 2) :=
    ⟨fun h => (nomatch h), fun _ _ h => (nomatch h)⟩
  have hwithin : share.Within (.ofRatio false 1 2) := by decide +kernel
  exact ⟨compile_shareNode,
    haccepts.2 ⟨⟨_, rfl, .inl ⟨hadmits, hwithin⟩⟩, fun _ h => (nomatch h)⟩⟩

/-- NaN is accepted as a share, and lies on neither side of the bounds. -/
theorem share_accepts_nan :
    shareNode.compile .root = .ok (.leaf (shareNode.checks .root)) ∧
      Plan.failures .none (.leaf (shareNode.checks .root)) none (some (.number .nan)) = [] ∧
      share.min? = some (.ofNat 0) ∧ share.max? = some (.ofNat 1) ∧
      (Binary64.ofNat 0).le .nan = false ∧ Binary64.nan.le (.ofNat 1) = false :=
  ⟨compile_shareNode, by decide +kernel, rfl, rfl, by decide +kernel, by decide +kernel⟩

end Demo

/-! ## A whole input -/

namespace Node

/-- A value that is present fits in the place of a node when it conforms. -/
theorem conforms_of_fits_some [PatternLanguage] (node : Node) (extras : Extras) (x : Value)
    (h : node.Fits extras (some x)) : node.Conforms extras x := by
  cases h with
  | present _ _ conforms => exact conforms

/-- Where a trail leads from a node and through a value that conforms to it, the value conforms to
the node. -/
theorem Conforms.along [PatternLanguage]
    (node target : Node) (trail : Trail) (hreach : node.Reaches trail target)
    (extras : Extras) : ∀ v x : Value, node.Conforms extras v → v.Leads trail (some x) →
      target.Conforms extras x := by
  induction hreach with
  | here node =>
    intro v x hv hleads
    cases hleads with
    | here => exact hv
  | element attrs lengths item target i trail _ ih =>
    intro v x hv hleads
    cases hleads with
    | present _ y _ _ _ found below =>
      cases hv with
      | arrayOf _ _ _ items _ each =>
        exact ih y x (each y (List.mem_of_getElem? found)) below
  | position attrs lengths positions child target i trail declared _ ih =>
    intro v x hv hleads
    cases hleads with
    | present _ y _ _ _ found below =>
      cases hv with
      | tuple _ _ _ items _ each =>
        have hfits := each i child declared
        rw [show items[i]? = some y from found] at hfits
        exact ih y x (child.conforms_of_fits_some extras y hfits) below
  | property attrs allowExtra properties child target name trail declared _ ih =>
    intro v x hv hleads
    cases hleads with
    | present _ y _ _ _ found below =>
      cases hv with
      | object _ _ _ entries _ each =>
        have hfits := each name child declared
        rw [show Entries.find? entries name = some y from found] at hfits
        exact ih y x (child.conforms_of_fits_some extras y hfits) below

end Node

/-- Wherever a number node stands in a schema, a valid input has a number of its kind within its
bounds in its place, or nothing, or NaN if the kind is not integral. -/
theorem Schema.valid_number_within [PatternLanguage]
    (s : Schema) (extraParams : List String) (v : Validator)
    (h : s.compile extraParams = .ok v) (input : Value) (args : List Value)
    (hvalid : v.validate input args = []) (trail : Trail) (attrs : Attributes)
    (rules : NumberRules) (hreach : s.node.Reaches trail (.leaf attrs (.number rules))) (x : Value)
    (hleads : input.Leads trail (some x)) :
    ∃ n, x = .number n ∧
      (rules.kind.Admits n ∧ rules.Within n ∨ n = .nan ∧ rules.kind.isIntegral = false) := by
  have hconforms := (s.validate_eq_nil_iff extraParams v h input args).1 hvalid
  have hholds := (hconforms.along s.node _ trail hreach _ input x hleads).holds
  -- The schema compiles, so the bounds of all its nodes are finite.
  have hdefects := ((s.compile_eq_ok_iff extraParams v).1 h).1
  obtain ⟨-, -, hnodes⟩ := (s.defects_eq_nil_iff extraParams).1 hdefects
  have hconfigured := hnodes _ (s.node.mem_nodes_of_reaches _ trail hreach [])
  exact (rules.holds_iff hconfigured.minFinite hconfigured.maxFinite x).1 hholds.1

end DataShape
