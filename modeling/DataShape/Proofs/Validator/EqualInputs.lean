import DataShape.Proofs.Validator.Lockstep
import DataShape.Proofs.Value.Equality
import Mathlib.Data.List.Find

/-!
# Equal inputs have the same errors

Equality of values does not look at the order of the entries of a map, nor at the sign of a zero. A
validator looks at more: it goes through the keys of a map in their order, and its producers and
predicates are functions of the very value. `Schema.equal_inputs` says that this does not show. When
all producers are literals, and all predicates refuse equal values alike, equal inputs have the same
errors.

A rule finds the same wrong with equal values, in the same words (`Node.text_fault?_of_same`), and
below equal values stand equal values, whichever way the move goes. So the two readings go down in
lockstep.
-/

namespace DataShape

/-! ## One node -/

namespace Rule

variable (rule : Rule) (v w : Value)

/-- Equal values are of the kind of a rule alike. -/
theorem hasKind_eq_of_equals (h : v.equals w = true) : rule.hasKind v = rule.hasKind w := by
  have hkind := v.kind_eq_of_equals w h
  cases rule with
  | leaf rule =>
    cases rule with
    | number rules => exact v.any_number?_eq_of_equals w h _ rules.kind.admits_eq_of_equals
    | string rules => exact congrArg (· == ValueKind.string) hkind
    | bool => exact congrArg (· == ValueKind.bool) hkind
    | array lengths => exact congrArg (· == ValueKind.list) hkind
  | object only? => exact congrArg (· == ValueKind.map) hkind

/-- A rule finds the same wrong with equal values, in the same words, if it finds undeclared keys
alike. -/
theorem text_fault?_of_equals [PatternLanguage] (h : v.equals w = true)
    (hkeys : ∀ allowed, rule.only? = some allowed →
      (v.undeclaredKey? allowed).isSome = (w.undeclaredKey? allowed).isSome) (c : Constraint) :
    (rule.fault? v c).map Fault.text = (rule.fault? w c).map Fault.text := by
  cases c with
  | type =>
    unfold fault?
    rw [rule.hasKind_eq_of_equals v w h]
  | minLen | maxLen =>
    unfold fault?
    rw [v.length_eq_of_equals w h]
  | pattern =>
    unfold fault?
    rw [v.string?_eq_of_equals w h]
  | min =>
    have hlt (bound : Binary64) := v.any_number?_eq_of_equals w h (·.lt bound) fun x y hxy =>
      Binary64.lt_eq_of_equals_left x y bound hxy
    unfold fault?
    simp only [hlt]
  | max =>
    have hlt (bound : Binary64) := v.any_number?_eq_of_equals w h bound.lt fun x y hxy =>
      Binary64.lt_eq_of_equals_right x y bound hxy
    unfold fault?
    simp only [hlt]
  | extra =>
    unfold fault?
    cases honly : rule.only? with
    | none => rfl
    | some allowed =>
      have hsome := hkeys allowed honly
      show ((v.undeclaredKey? allowed).map _).map _ = ((w.undeclaredKey? allowed).map _).map _
      cases hv : v.undeclaredKey? allowed <;> cases hw : w.undeclaredKey? allowed <;> simp_all
  | validator => rfl

end Rule

/-- Equal maps have undeclared keys alike. -/
theorem Value.Same.isSome_undeclaredKey? (v w : Value) (h : Same v w) (allowed : List String) :
    (v.undeclaredKey? allowed).isSome = (w.undeclaredKey? allowed).isSome := by
  cases v with
  | map xs =>
    cases w with
    | map ys =>
      show (List.find? _ _).isSome = (List.find? _ _).isSome
      rw [Bool.eq_iff_iff, List.find?_isSome, List.find?_isSome]
      simp only [(h.keys_perm xs ys).mem_iff]
    | _ => cases h.equals
  | _ =>
    cases w with
    | map ys => cases h.equals
    | _ => rfl

namespace Node

/-- The predicate of a node refuses equal values alike, whatever it says of them. -/
def RefusesAlike (node : Node) : Prop :=
  ∀ v w, Value.Same v w → ∀ extras,
    (node.attrs.refusal? v extras).isSome = (node.attrs.refusal? w extras).isSome

/-- The faults of equal values have the same texts. -/
theorem text_fault?_of_same [PatternLanguage]
    (node : Node) (hpredicate : node.RefusesAlike) (extras : Extras)
    (v w : Value) (h : Value.Same v w) (c : Constraint) :
    (node.fault? extras (some v) c).map Fault.text =
      (node.fault? extras (some w) c).map Fault.text := by
  by_cases hc : c = .validator
  · have hrefusal := hpredicate v w h extras
    rw [hc, fault?_validator, fault?_validator, Option.map_map, Option.map_map]
    cases hv : node.attrs.refusal? v extras <;> cases hw : node.attrs.refusal? w extras <;> simp_all
  · rw [node.fault?_of_ne_validator extras v c hc, node.fault?_of_ne_validator extras w c hc]
    exact node.rule.text_fault?_of_equals v w h.equals
      (fun allowed _ => h.isSome_undeclaredKey? v w allowed) c

end Node

/-! ## Whole trees -/

/-- Moves from equal values find equal values. -/
theorem Value.Same.find? (v w : Value) (h : Same v w) (move : Move) :
    Option.Rel Same (move.find? v) (move.find? w) := by
  cases move with
  | property name => exact h.get? v w name
  | position i => exact h.item? v w i
  | element i => exact h.item? v w i

/-- Values are equal, and below the node all producers are literals and all predicates refuse equal
values alike. -/
structure Node.SameBelow (node : Node) (v w : Value) : Prop where
  literals : node.Throughout OnlyLiterals
  predicates : node.Throughout RefusesAlike
  same : Value.Same v w

/-- The readings of equal values go down in lockstep. -/
theorem Node.lockstep_sameBelow [PatternLanguage] (extras : Extras) :
    Lockstep extras Report.error fun node value? node' value?' =>
      node' = node ∧ Option.Rel node.SameBelow value? value?' := by
  refine .of_values SameBelow ?_ ?_ ?_
  · intro node v w trail h
    exact node.map_error_report?_congr h.literals.own extras trail (some v) (some w)
      (node.text_fault?_of_same h.predicates.own extras v w h.same)
  · intro node v w h _ _
    exact (h.same.list? v w).length_eq
  · intro node v w h _ p hp
    refine rel_imp (fun _ _ hsame => ?_) (h.same.find? v w p.move)
    exact ⟨h.literals.of_mem_slots v p hp, h.predicates.of_mem_slots v p hp, hsame⟩

/-- Equal inputs have the same errors: maps may have their entries in any order, at any depth, and
zeros either sign, if all producers are literals or defaults and all predicates refuse equal values
alike. -/
theorem Schema.equal_inputs [PatternLanguage]
    (s : Schema) (extraParams : List String) (v : Validator)
    (h : s.compile extraParams = .ok v) (hliterals : s.node.Throughout Node.OnlyLiterals)
    (hpredicates : s.node.Throughout Node.RefusesAlike) (input input' : Value)
    (hinput : input.WellFormed) (hinput' : input'.WellFormed)
    (hequals : input.equals input' = true) (args : List Value) :
    v.validate input args = v.validate input' args := by
  have hlockstep := Node.lockstep_sameBelow { names := extraParams, args }
  rw [s.validate_eq extraParams v h, s.validate_eq extraParams v h]
  exact hlockstep.reports_eq s.node s.node (some input) (some input') []
    ⟨rfl, .some ⟨hliterals, hpredicates, hinput, hinput', hequals⟩⟩

namespace Demo

/-- Refuses what is longer than two, and says what it was. -/
def atMostTwo : Predicate := { refusal? := fun v _ => if 2 < v.length then some v else none }

/-- A coordinate that has to be positive. -/
def coordinate : Node :=
  .ofNumber .plain
    [.own (.min (.ofNat 1)), .error .min (.literal (.message "A coordinate is not positive."))]

/-- A point with two coordinates and no other key. -/
def point : Node :=
  .ofObject [.own (.property "x" coordinate), .own (.property "y" coordinate), .own .denyExtra]

/-- The schema of places: a point and perhaps a label. -/
def place : Schema :=
  .ofSettings
    [.property "at" point, .property "label" (.ofString [.optional]), .denyExtra,
      .validator atMostTwo]

/-- A place on an axis. -/
def placeSample : Value :=
  .map [("at", .map [("x", toValue 0), ("y", toValue 2)]), ("label", toValue "here")]

/-- The same with the other zero and the entries in another order. -/
def placeSample' : Value :=
  .map [("label", toValue "here"),
    ("at", .map [("y", toValue 2), ("x", .number (.finite .negZero))])]

/-- What holds of coordinates, strings, points and the root holds throughout the schema of places.
-/
theorem throughout_place (P : Node → Prop) (hcoordinate : P coordinate)
    (hlabel : P (.ofString [.optional])) (hpoint : P point) (hroot : P place.node) :
    place.node.Throughout P := by
  have hleaf : coordinate.Throughout P := Node.throughout_leaf P _ _ hcoordinate
  refine (Node.throughout_iff _ _).2 ⟨hroot, ?_⟩
  rintro child (_ | ⟨_, _ | ⟨_, ⟨⟩⟩⟩)
  · refine (Node.throughout_iff _ _).2 ⟨hpoint, ?_⟩
    rintro child (_ | ⟨_, _ | ⟨_, ⟨⟩⟩⟩) <;> exact hleaf
  · exact Node.throughout_leaf P _ _ hlabel

/-- The only producer of a place is a literal. -/
theorem onlyLiterals_place : place.node.Throughout Node.OnlyLiterals := by
  have hnone (node : Node) (h : ∀ c, node.attrs.errors.find? c = none) : node.OnlyLiterals :=
    fun c producer hfind => nomatch (h c).symm.trans hfind
  refine throughout_place _ ?_ (hnone _ fun _ => rfl) (hnone _ fun _ => rfl) (hnone _ fun _ => rfl)
  intro c producer hfind
  cases c with
  | min => exact ⟨_, (Option.some.inj hfind).symm⟩
  | _ => cases hfind

/-- Equal values have one length, so the predicate refuses them alike. -/
theorem refusesAlike_place : place.node.Throughout Node.RefusesAlike := by
  refine throughout_place _ (fun _ _ _ _ => rfl) (fun _ _ _ _ => rfl) (fun _ _ _ _ => rfl) ?_
  intro v w h extras
  show (if 2 < v.length then some v else none).isSome =
    (if 2 < w.length then some w else none).isSome
  rw [v.length_eq_of_equals w h.equals]
  split_ifs <;> rfl

/-- The two places are equal and have the same errors. -/
theorem equal_inputs_place :
    place.compile [] = .ok { plan := place.node.plan .root, extraParams := [] } ∧
      placeSample.equals placeSample' = true ∧
      Validator.validate { plan := place.node.plan .root, extraParams := [] } placeSample [] =
        Validator.validate { plan := place.node.plan .root, extraParams := [] } placeSample'
          [] := by
  have hcompile : place.compile [] = .ok { plan := place.node.plan .root, extraParams := [] } :=
    (place.compile_eq_ok_iff _ _).2 ⟨by decide +kernel, rfl⟩
  have hequals : placeSample.equals placeSample' = true := by decide +kernel
  have hinput : placeSample.WellFormed :=
    ⟨by decide, ⟨by decide, trivial, trivial, trivial⟩, trivial, trivial⟩
  have hinput' : placeSample'.WellFormed :=
    ⟨by decide, trivial, ⟨by decide, trivial, trivial, trivial⟩, trivial⟩
  exact ⟨hcompile, hequals, place.equal_inputs [] _ hcompile onlyLiterals_place refusesAlike_place
    placeSample placeSample' hinput hinput' hequals []⟩

example :
    (Validator.validate { plan := place.node.plan .root, extraParams := [] } placeSample' []).map
        ValidationError.text = ["A coordinate is not positive."] := by
  decide +kernel

end Demo

end DataShape
