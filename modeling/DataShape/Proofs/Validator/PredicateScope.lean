import DataShape.Proofs.Entries
import DataShape.Proofs.Validator.Lockstep
import DataShape.Proofs.Validator.Visits

/-!
# What a predicate gets to see

A predicate of the caller runs when all other checks of its node have passed, and before anything
below the node is looked at. `Schema.predicates_see_checked_values` says what follows. Let two
schemas differ in their predicates alone, and at no node on a value of which the rule of the node
holds (`Node.AgreeUnderRules`). Then both compile or neither does, and all inputs have the same
errors: what the predicates do on other values has no effect. And once the predicate of a node
refuses a value, nothing is reported below that value.
-/

namespace DataShape

namespace Constraint

/-- The constraints of a rule, in order of priority: all but the predicate. -/
def builtIn : List Constraint := [type, minLen, maxLen, pattern, min, max, extra]

/-- The predicate comes last. -/
theorem all_eq_append : all = builtIn ++ [validator] := rfl

/-- Only the predicate is no constraint of a rule. -/
theorem mem_builtIn_iff (c : Constraint) : c ∈ builtIn ↔ c ≠ validator := by
  cases c <;> decide

end Constraint

/-- Attributes that differ in their predicates alone, and not where the rule holds. -/
structure Attributes.AgreeUnder [PatternLanguage]
    (rule : Rule) (attrs attrs' : Attributes) : Prop where
  optional : attrs.optional = attrs'.optional
  errors : attrs.errors = attrs'.errors
  refusal : ∀ v extras, rule.Holds v → attrs.refusal? v extras = attrs'.refusal? v extras

namespace Node

/-- Two trees that differ in the predicates of their nodes alone, and at no node where its rule
holds. -/
inductive AgreeUnderRules [PatternLanguage] : Node → Node → Prop
  | leaf (attrs attrs' : Attributes) (rule : LeafRule)
      (own : attrs.AgreeUnder (.leaf rule) attrs') :
      AgreeUnderRules (.leaf attrs rule) (.leaf attrs' rule)
  | arrayOf (attrs attrs' : Attributes) (lengths : LengthBounds) (item item' : Node)
      (own : attrs.AgreeUnder (.leaf (.array lengths)) attrs')
      (below : AgreeUnderRules item item') :
      AgreeUnderRules (.arrayOf attrs lengths item) (.arrayOf attrs' lengths item')
  | tuple (attrs attrs' : Attributes) (lengths : LengthBounds) (positions positions' : List Node)
      (own : attrs.AgreeUnder (.leaf (.array lengths)) attrs')
      (below : List.Forall₂ AgreeUnderRules positions positions') :
      AgreeUnderRules (.tuple attrs lengths positions) (.tuple attrs' lengths positions')
  | object (attrs attrs' : Attributes) (allowExtra : Bool)
      (properties properties' : List (String × Node))
      (own : attrs.AgreeUnder (object attrs allowExtra properties).rule attrs')
      (names : Entries.keys properties = Entries.keys properties')
      (below : List.Forall₂ AgreeUnderRules (properties.map Prod.snd) (properties'.map Prod.snd)) :
      AgreeUnderRules (.object attrs allowExtra properties) (.object attrs' allowExtra properties')

namespace AgreeUnderRules

variable [PatternLanguage] {node node' : Node} (h : AgreeUnderRules node node')

include h

/-- The rules are the same. -/
theorem rule_eq : node.rule = node'.rule := by
  cases h with
  | object attrs attrs' allowExtra properties properties' own names below =>
    show Rule.object (if allowExtra then none else some (Entries.keys properties)) = _
    rw [names]
    rfl
  | _ => rfl

/-- The attributes agree where the rule holds. -/
theorem attrs_agree : node.attrs.AgreeUnder node.rule node'.attrs := by
  cases h <;> assumption

/-- Slots are shared in both trees or in neither. -/
theorem sharesItem_eq : node.sharesItem = node'.sharesItem := by
  cases h <;> rfl

/-- The children go together. -/
theorem children_agree :
    List.Forall₂ AgreeUnderRules node.children node'.children := by
  cases h with
  | leaf => exact .nil
  | arrayOf _ _ _ _ _ _ below => exact .cons below .nil
  | tuple _ _ _ _ _ _ below => exact below
  | object _ _ _ _ _ _ _ below => exact below

/-- The slots below go together. -/
theorem slots_agree (v : Value) :
    List.Forall₂ (fun p p' : Slot => p.move = p'.move ∧ p'.value? = p.value? ∧
      AgreeUnderRules p.node p'.node) (node.slots v) (node'.slots v) := by
  cases h with
  | leaf => exact .nil
  | arrayOf _ _ _ item item' _ below =>
    exact forall₂_mapIdx _ _ (v.list?.getD []) fun _ _ _ => ⟨rfl, rfl, below⟩
  | tuple _ _ _ positions positions' _ below =>
    exact forall₂_mapIdx_of_forall₂ below fun _ _ _ hchild => ⟨rfl, rfl, hchild⟩
  | object _ _ _ properties properties' _ names below =>
    show List.Forall₂ _ (List.map _ _) (List.map _ _)
    rw [List.forall₂_map_left_iff, List.forall₂_map_right_iff]
    refine (Entries.forall₂_of_keys_eq properties properties' names below).imp ?_
    rintro ⟨name, child⟩ ⟨name', child'⟩ ⟨rfl, hchild⟩
    exact ⟨rfl, rfl, hchild⟩

end AgreeUnderRules

/-! ## One node -/

/-- What a node reports of a value under its rule: the first fault of the rule. -/
def ruleReport? [PatternLanguage]
    (node : Node) (extras : Extras) (trail : Trail) (v : Value) : Option Report :=
  Constraint.builtIn.findSome? fun c =>
    (node.rule.fault? v c).map (node.report extras trail (some v) c)

/-- What a node reports of a value itself is the first fault of its rule, or else what its predicate
says. -/
theorem report?_eq_or [PatternLanguage]
    (node : Node) (extras : Extras) (trail : Trail) (v : Value) :
    node.report? extras trail (some v) =
      (node.ruleReport? extras trail v).or ((node.attrs.refusal? v extras).map fun detail =>
        node.report extras trail (some v) .validator
          ⟨some detail, ": custom validator error."⟩) := by
  unfold report?
  rw [Constraint.all_eq_append, List.findSome?_append, List.findSome?_singleton,
    fault?_validator, Option.map_map]
  rfl

/-- Nothing is reported of a value under a rule when the rule holds of it. -/
theorem ruleReport?_eq_none_iff [PatternLanguage]
    (node : Node) (extras : Extras) (trail : Trail) (v : Value) :
    node.ruleReport? extras trail v = none ↔ node.rule.Holds v := by
  unfold ruleReport?
  rw [List.findSome?_eq_none_iff, ← Rule.fault?_eq_none_iff]
  simp only [Option.map_eq_none_iff, Constraint.mem_builtIn_iff]
  refine ⟨fun h c => ?_, fun h c _ => h c⟩
  by_cases hc : c = .validator
  · rw [hc]
    rfl
  · exact h c hc

/-- Nodes whose predicates agree where the rule holds report the same themselves. -/
theorem AgreeUnderRules.report?_eq [PatternLanguage]
    {node node' : Node} (h : AgreeUnderRules node node')
    (extras : Extras) (trail : Trail) (value? : Option Value) :
    node.report? extras trail value? = node'.report? extras trail value? := by
  have hattrs := h.attrs_agree
  cases value? with
  | none =>
    refine report?_congr node node' hattrs.errors extras trail none fun c => ?_
    rw [fault?_none, fault?_none, h.rule_eq]
  | some v =>
    have hreport := node.report_congr node' hattrs.errors extras trail (some v)
    have hrule : node.ruleReport? extras trail v = node'.ruleReport? extras trail v := by
      unfold ruleReport?
      rw [h.rule_eq]
      simp only [hreport]
    rw [report?_eq_or, report?_eq_or, ← hrule, ← hreport]
    -- The predicates are asked only if nothing is reported under the rule, and then they agree.
    cases hnone : node.ruleReport? extras trail v with
    | some r => rfl
    | none => rw [hattrs.refusal v extras ((node.ruleReport?_eq_none_iff extras trail v).1 hnone)]

/-! ## Whole trees -/

/-- The readings of trees whose predicates agree where the rules hold go down in lockstep. -/
theorem lockstep_agreeUnderRules [PatternLanguage] (extras : Extras) :
    Lockstep extras id fun node value? node' value?' =>
      value?' = value? ∧ AgreeUnderRules node node' where
  own node value? node' _ trail h := by
    obtain ⟨rfl, hagree⟩ := h
    rw [hagree.report?_eq]
  sharesItem _ _ _ _ h := h.2.sharesItem_eq
  below node v node' _ h _ := by
    obtain ⟨hv, hagree⟩ := h
    obtain rfl := Option.some.inj hv
    refine .of_forall₂ (node.forall₂_readSlots node' _ _ (hagree.slots_agree _) fun p p' hp => ?_)
    exact p.isPassedOver_congr p' hp.2.2.attrs_agree.optional (congrArg Option.isNone hp.2.1.symm)

/-- Both nodes are configured or neither is. -/
theorem AgreeUnderRules.configured_iff [PatternLanguage]
    {node node' : Node} (h : AgreeUnderRules node node') :
    node.Configured ↔ node'.Configured := by
  have hchildren := h.children_agree
  have hrule := h.rule_eq
  -- The children of a tuple go together, so both tuples have a position or neither has.
  refine ⟨fun hnode => hnode.of_rule_eq hrule.symm ?_, fun hnode => hnode.of_rule_eq hrule ?_⟩
  · rintro attrs lengths rfl
    cases h
    obtain rfl := List.forall₂_nil_right_iff.1 hchildren
    exact hnode.positions _ _ rfl
  · rintro attrs lengths rfl
    cases h
    obtain rfl := List.forall₂_nil_left_iff.1 hchildren
    exact hnode.positions _ _ rfl

/-- All nodes are configured in both trees or in neither. -/
theorem AgreeUnderRules.allConfigured_iff [PatternLanguage]
    (node : Node) : ∀ node', AgreeUnderRules node node' →
    (node.AllConfigured ↔ node'.AllConfigured) := by
  induction node using Node.inductionOnChildren with
  | step node ih =>
    intro node' h
    rw [node.allConfigured_iff, node'.allConfigured_iff, h.configured_iff]
    exact and_congr_right' (forall_mem_iff_of_forall₂ h.children_agree ih)

end Node

/-- What predicates get to see. Let two schemas differ in the predicates of their nodes alone, and
at no node on values of which the rule of the node holds. Then both compile or neither does, and
their validators return the same errors. Besides, wherever the predicate of a node refuses a value
below the input, all that is reported at that value or below it stands at the value itself. -/
theorem Schema.predicates_see_checked_values [PatternLanguage]
    (s s' : Schema) (extraParams : List String)
    (h : s.node.AgreeUnderRules s'.node) :
    ((∃ v, s.compile extraParams = .ok v) ↔ ∃ v', s'.compile extraParams = .ok v') ∧
    ∀ v, s.compile extraParams = .ok v →
      (∀ v', s'.compile extraParams = .ok v' →
        ∀ (input : Value) (args : List Value), v'.validate input args = v.validate input args) ∧
      (s.node.Throughout Node.HasDistinctNames →
        ∀ (input : Value) (args : List Value) (trail : Trail) (node : Node) (x detail : Value),
          s.node.Reaches trail node → input.Leads trail (some x) →
            node.attrs.refusal? x { names := extraParams, args } = some detail →
              (v.failures input args).map Failure.sent =
                  (s.reports { names := extraParams, args } input).map Report.sent ∧
                ∀ r ∈ s.reports { names := extraParams, args } input,
                  trail <+: r.trail → r.trail = trail) := by
  refine ⟨?_, fun v hv => ⟨fun v' hv' input args => ?_, ?_⟩⟩
  · rw [compiles_iff, compiles_iff, Node.AgreeUnderRules.allConfigured_iff s.node s'.node h]
  · have hlockstep := Node.lockstep_agreeUnderRules { names := extraParams, args }
    have hreports := hlockstep.reports_eq s.node s'.node (some input) (some input) [] ⟨rfl, h⟩
    rw [List.map_id, List.map_id] at hreports
    rw [s.validate_eq extraParams v hv, s'.validate_eq extraParams v' hv']
    exact congrArg (List.map Report.error) hreports.symm
  · intro hdistinct input args trail node x detail hreaches hleads hrefused
    refine ⟨s.sent_failures extraParams v hv input args, fun r hr hthrough => ?_⟩
    by_contra hne
    have hholds := s.node.holds_of_mem_reports trail node _ [] input x r hdistinct hreaches hleads
      hr hthrough hne
    -- A node that finds nothing wrong has no predicate that refuses.
    obtain ⟨p, hp, hdetail⟩ := Option.bind_eq_some_iff.1 hrefused
    rw [hholds.2 p hp] at hdetail
    cases hdetail

namespace Demo

/-- Refuses all but numbers. -/
def onlyNumbers : Predicate := { refusal? := fun v _ => if v.kind = .number then none else some v }

/-- Refuses everything. -/
def refuseAll : Predicate := { refusal? := fun _ _ => some .null }

/-- A schema of a count, with the given settings, and of a mark that is always refused. -/
def counted (settings : List (Setting NumberSetting)) : Schema :=
  .ofSettings
    [.property "count" (.ofNumber .integer settings),
      .property "mark" (.ofObject [.validator refuseAll, .own (.property "on" (.ofBool []))])]

/-- A count that is no number and a mark that is wrong further down. -/
def countedSample : Value :=
  .ofEntries [("count", toValue "3"), ("mark", .ofEntries [("on", toValue 3)])]

/-- An integer is a number, so the predicate of a count makes no difference where the rule holds. -/
theorem counted_agree :
    (counted [.validator onlyNumbers]).node.AgreeUnderRules (counted []).node := by
  refine .object _ _ _ _ _ ⟨rfl, rfl, fun _ _ _ => rfl⟩ rfl (.cons (.leaf _ _ _ ⟨rfl, rfl, ?_⟩)
    (.cons (.object _ _ _ _ _ ⟨rfl, rfl, fun _ _ _ => rfl⟩ rfl
      (.cons (.leaf _ _ _ ⟨rfl, rfl, fun _ _ _ => rfl⟩) .nil)) .nil))
  rintro _ extras ⟨x, rfl, -⟩
  rfl

/-- The schema of counts declares no name twice. -/
theorem throughout_distinct_counted :
    (counted [.validator onlyNumbers]).node.Throughout Node.HasDistinctNames :=
  Node.throughout_of_nodes _ _ (by decide +kernel)

/-- The predicate of the count plays no part, and nothing is reported inside the mark. -/
theorem predicates_see_checked_values_counted :
    (counted [.validator onlyNumbers]).compile [] =
        .ok { plan := (counted [.validator onlyNumbers]).node.plan .root, extraParams := [] } ∧
      (counted []).compile [] = .ok { plan := (counted []).node.plan .root, extraParams := [] } ∧
      Validator.validate { plan := (counted []).node.plan .root, extraParams := [] } countedSample
          [] =
        Validator.validate
          { plan := (counted [.validator onlyNumbers]).node.plan .root, extraParams := [] }
          countedSample [] ∧
      ∀ r ∈ (counted [.validator onlyNumbers]).reports { names := [], args := [] } countedSample,
        [.property "mark"] <+: r.trail → r.trail = [.property "mark"] := by
  have hcompile : (counted [.validator onlyNumbers]).compile [] =
      .ok { plan := (counted [.validator onlyNumbers]).node.plan .root, extraParams := [] } :=
    (Schema.compile_eq_ok_iff _ _ _).2 ⟨by decide +kernel, rfl⟩
  have hcompile' : (counted []).compile [] =
      .ok { plan := (counted []).node.plan .root, extraParams := [] } :=
    (Schema.compile_eq_ok_iff _ _ _).2 ⟨by decide +kernel, rfl⟩
  have hscope := (Schema.predicates_see_checked_values _ _ [] counted_agree).2 _ hcompile
  refine ⟨hcompile, hcompile', hscope.1 _ hcompile' countedSample [], ?_⟩
  refine (hscope.2 throughout_distinct_counted countedSample [] [.property "mark"] _ _ .null
    (.property _ _ _ _ _ "mark" [] (List.mem_cons_of_mem _ List.mem_cons_self) (.here _))
    (.present _ _ _ [] _ rfl (.here _)) rfl).2

example :
    (Validator.validate { plan := (counted []).node.plan .root, extraParams := [] } countedSample
      []).map ValidationError.text =
        ["Property 'count' must be an integer.", "Property 'mark': custom validator error."] := by
  decide +kernel

end Demo

end DataShape
