import DataShape.Proofs.Schema.PathText
import DataShape.Proofs.Validator.PlanNodes

/-!
# The beginning of default messages

A default message begins with the subject of a path: "Input" at the path that has no text, and the
path in quotes at all others. That is the path of the root, but not of the root alone. A property with
an empty name right below it has no text in its path either, so its messages speak of the input as a
whole, and so do those of a property with an empty name below that one.

`Schema.default_messages_begin` says that there are no more such nodes, whatever the names: all other
messages begin with the path of their node.
-/

namespace DataShape

/-- The default message of a node for a constraint begins with "Input" if the steps to the node are
empty names alone, and else with the path of the node. -/
theorem Node.default_message_of_checkFor? [PatternLanguage]
    (node : Node) (steps : List PathStep) (c : Constraint)
    (check : Check) (h : node.checkFor? (.ofSteps steps) c = some check) :
    ∃ message, check.producer =
        (node.attrs.errors.find? c).getD (.literal (.message message)) ∧
      (message.startsWith "Input" = true ↔ ∀ step ∈ steps, step = .property "") ∧
      (message.startsWith s!"Property '{(FieldPath.ofSteps steps).text}'" = true ↔
        ∃ step ∈ steps, step ≠ .property "") := by
  obtain ⟨text, hproducer⟩ := node.producer_of_checkFor? _ c check h
  refine ⟨_, hproducer, ?_, ?_⟩
  · rw [FieldPath.startsWith_subject_input_iff, FieldPath.isRoot_ofSteps_iff]
  · have hroot := FieldPath.isRoot_ofSteps_iff steps
    rw [FieldPath.startsWith_subject_property_iff, ← Bool.not_eq_true, hroot]
    simp only [not_forall, exists_prop]

/-- The nodes of a compiled schema whose default messages speak of the input are those that are
reached from the root by properties with empty names alone, and theirs are the paths that pass for
that of the root. The default messages of all other nodes begin with the path of the node. What fails
in a run is a check of one of the nodes, under its path. -/
theorem Schema.default_messages_begin [PatternLanguage]
    (s : Schema) (extraParams : List String) (v : Validator)
    (h : s.compile extraParams = .ok v) :
    (∀ steps : List PathStep,
      (FieldPath.ofSteps steps).isRoot = true ↔ ∀ step ∈ steps, step = .property "") ∧
    v.plan.cascades = s.nodes.map placeCascade ∧
    (∀ place ∈ s.nodes, ∀ check ∈ (placeCascade place).checks, ∃ c message,
      place.2.checkFor? (.ofSteps place.1) c = some check ∧
      check.producer = (place.2.attrs.errors.find? c).getD (.literal (.message message)) ∧
      (message.startsWith "Input" = true ↔ ∀ step ∈ place.1, step = .property "") ∧
      (message.startsWith s!"Property '{(FieldPath.ofSteps place.1).text}'" = true ↔
        ∃ step ∈ place.1, step ≠ .property "")) ∧
    ∀ input args, ∀ f ∈ v.failures input args,
      ∃ place ∈ s.nodes, f.ComesFrom (placeCascade place) := by
  refine ⟨FieldPath.isRoot_ofSteps_iff, s.cascades_eq extraParams v h,
    fun place _ check hcheck => ?_, s.exists_place_of_mem_failures extraParams v h⟩
  obtain ⟨c, hc⟩ := (place.2.mem_checks_iff_checkFor? _ check).1 hcheck
  obtain ⟨message, hmessage⟩ := place.2.default_message_of_checkFor? place.1 c check hc
  exact ⟨c, message, hc, hmessage⟩

namespace Demo

/-- A property with an empty name below the root, and one below another property. -/
def blankNames : Schema :=
  .ofSettings
    [.property "" (.ofString []),
      .property "a" (.ofObject [.own (.property "" (.ofString []))])]

/-- The blank names compile. -/
theorem compile_blankNames :
    blankNames.compile [] = .ok { plan := blankNames.node.plan .root, extraParams := [] } :=
  (blankNames.compile_eq_ok_iff _ _).2 ⟨by decide +kernel, rfl⟩

/-- The blank name below another property is named in its messages. -/
theorem default_messages_begin_blankNames :
    blankNames.compile [] = .ok { plan := blankNames.node.plan .root, extraParams := [] } ∧
      ([.property "a", .property ""], .ofString []) ∈ blankNames.nodes ∧
      (FieldPath.ofSteps [.property "a", .property ""]).isRoot = false ∧
      ∀ check ∈ (placeCascade ([.property "a", .property ""], .ofString [])).checks,
        ∃ message, check.producer = .literal (.message message) ∧
          message.startsWith "Input" = false ∧ message.startsWith "Property 'a/'" = true := by
  obtain ⟨hroot, -, hmessages, -⟩ := blankNames.default_messages_begin [] _ compile_blankNames
  have hplace : ([.property "a", .property ""], .ofString []) ∈ blankNames.nodes :=
    List.mem_of_getElem? (i := 1) rfl
  refine ⟨compile_blankNames, hplace, ?_, fun check hcheck => ?_⟩
  · rw [← Bool.not_eq_true, hroot]
    decide
  · obtain ⟨c, message, -, hproducer, hinput, hproperty⟩ := hmessages _ hplace check hcheck
    refine ⟨message, hproducer, ?_, hproperty.2 (by decide)⟩
    rw [← Bool.not_eq_true, hinput]
    decide

/-- The blank name right below the root speaks of the input as a whole. -/
theorem input_blankNames :
    blankNames.compile [] = .ok { plan := blankNames.node.plan .root, extraParams := [] } ∧
      ([.property ""], .ofString []) ∈ blankNames.nodes ∧
      (FieldPath.root.child (.property "")).isRoot = true ∧
      (Validator.validate { plan := blankNames.node.plan .root, extraParams := [] }
        (.ofEntries [("", toValue 1), ("a", .ofEntries [("", toValue "b")])]) []).map
          ValidationError.text = ["Input must be a string."] :=
  ⟨compile_blankNames, List.mem_of_getElem? (i := 0) rfl, rfl, by decide +kernel⟩

end Demo

end DataShape
