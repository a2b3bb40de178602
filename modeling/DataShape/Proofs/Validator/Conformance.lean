import DataShape.Proofs.Validator.Refinement

/-!
# Validation decides conformance

`Schema.Conforms` says what a valid input is, without an order of checks, a plan or a scan. A value
conforms to a node when the rule of the node holds of it, the predicate of the node does not refuse
it, and all values below it fit in their places: each item of an array, each position of a tuple and
each property of an object. A value that is absent fits where it is optional, and one that is present
fits where it conforms.

A compiled validator returns no errors exactly for the inputs that conform
(`Schema.validate_eq_nil_iff_conforms`). By the refinement of the run it is enough to see when a
reading of the schema reports nothing, which is an induction over the nodes of the schema.
-/

namespace DataShape

/-! ## What it is to conform -/

/-- A length within bounds. -/
def LengthBounds.Allow (lengths : LengthBounds) (n : Nat) : Prop :=
  (∀ min ∈ lengths.min?, min.toNat ≤ n) ∧ ∀ max ∈ lengths.max?, n ≤ max.toNat

/-- The numbers of a kind: those of an integral kind are integers, and those of a sized kind lie in
its range. -/
def NumberKind.Admits (k : NumberKind) (x : Binary64) : Prop :=
  (k.isIntegral = true → ∃ n, x.toInt? = some n) ∧
    ∀ lo hi, k.range? = some (lo, hi) → ∃ n, x.toInt? = some n ∧ lo ≤ n ∧ n ≤ hi

/-- What a rule asks of a value. -/
def Rule.Holds [PatternLanguage] : Rule → Value → Prop
  | leaf (.string rules), v => ∃ text, v = .string text ∧ rules.lengths.Allow text.length ∧
    ∀ source ∈ rules.pattern?, Pattern.finds source text = true
  | leaf (.number rules), v => ∃ x, v = .number x ∧ rules.kind.Admits x ∧
    (∀ min ∈ rules.min?, x.lt min = false) ∧ ∀ max ∈ rules.max?, max.lt x = false
  | leaf .bool, v => ∃ b, v = .bool b
  | leaf (.array lengths), v => ∃ items, v = .list items ∧ lengths.Allow items.length
  | object only?, v => ∃ entries, v = .map entries ∧
    ∀ allowed ∈ only?, ∀ key ∈ Entries.keys entries, key ∈ allowed

namespace Node

/-- What a node asks of the value itself: its rule holds, and its predicate does not refuse. -/
def Holds [PatternLanguage] (extras : Extras) (node : Node) (v : Value) : Prop :=
  node.rule.Holds v ∧ ∀ p ∈ node.attrs.validator?, p.refusal? v extras = none

mutual

/-- A value conforms to a node: what the node asks of it holds, and so for all values below. -/
inductive Conforms [PatternLanguage] (extras : Extras) : Node → Value → Prop
  | leaf (attrs : Attributes) (rule : LeafRule) (v : Value)
      (holds : Holds extras (.leaf attrs rule) v) : Conforms extras (.leaf attrs rule) v
  | arrayOf (attrs : Attributes) (lengths : LengthBounds) (item : Node) (items : List Value)
      (holds : Holds extras (.arrayOf attrs lengths item) (.list items))
      (each : ∀ x ∈ items, Conforms extras item x) :
      Conforms extras (.arrayOf attrs lengths item) (.list items)
  | tuple (attrs : Attributes) (lengths : LengthBounds) (positions : List Node)
      (items : List Value) (holds : Holds extras (.tuple attrs lengths positions) (.list items))
      (each : ∀ (i : Nat) (node : Node), positions[i]? = some node → Fits extras node items[i]?) :
      Conforms extras (.tuple attrs lengths positions) (.list items)
  | object (attrs : Attributes) (allowExtra : Bool) (properties : List (String × Node))
      (entries : List (String × Value))
      (holds : Holds extras (.object attrs allowExtra properties) (.map entries))
      (each : ∀ name node, (name, node) ∈ properties →
        Fits extras node (Entries.find? entries name)) :
      Conforms extras (.object attrs allowExtra properties) (.map entries)

/-- A value that may be absent fits in the place of a node. -/
inductive Fits [PatternLanguage] (extras : Extras) : Node → Option Value → Prop
  | absent (node : Node) (optional : node.attrs.optional = true) : Fits extras node none
  | present (node : Node) (x : Value) (conforms : Conforms extras node x) :
      Fits extras node (some x)

end

end Node

/-- An input conforms to a schema: it is a map, without undeclared keys unless they are allowed, the
predicate of the root does not refuse it, and each declared property is absent and optional or
present and conforming. -/
def Schema.Conforms [PatternLanguage] (s : Schema) (extras : Extras) (v : Value) : Prop :=
  ∃ entries, v = .map entries ∧
    (s.allowExtra = false → ∀ key ∈ Entries.keys entries, key ∈ Entries.keys s.properties) ∧
    (∀ p ∈ s.validator?, p.refusal? v extras = none) ∧
    ∀ name node, (name, node) ∈ s.properties →
      (Entries.find? entries name = none ∧ node.attrs.optional = true) ∨
      ∃ x, Entries.find? entries name = some x ∧ node.Conforms extras x

/-! ## One node -/

/-- Every constraint stands in the list of all constraints. -/
theorem Constraint.mem_all (c : Constraint) : c ∈ Constraint.all := by
  cases c <;> decide

/-- A kind admits the numbers that the exact test of the kind does. -/
theorem NumberKind.admits_iff (k : NumberKind) (x : Binary64) :
    k.admits x = true ↔ k.Admits x := by
  unfold admits Admits
  cases hr : k.range? with
  | none =>
    cases hi : k.isIntegral with
    | false => simp
    | true => simp [Option.isSome_iff_exists]
  | some range =>
    obtain ⟨lo, hi⟩ := range
    simp only [Option.any_eq_true, Bool.and_eq_true, decide_eq_true_eq]
    constructor
    · rintro ⟨n, hn, hlo, hhi⟩
      refine ⟨fun _ => ⟨n, hn⟩, ?_⟩
      rintro _ _ ⟨⟩
      exact ⟨n, hn, hlo, hhi⟩
    · rintro ⟨-, hrange⟩
      exact hrange lo hi rfl

/-- Nothing is wrong with a value when it is of the kind of the rule and meets each bound. -/
theorem Rule.forall_fault?_eq_none_iff [PatternLanguage] (rule : Rule) (v : Value) :
    (∀ c, rule.fault? v c = none) ↔
      rule.hasKind v = true ∧
        (∀ n ∈ rule.lengths.min?, n.toNat ≤ v.length) ∧
        (∀ n ∈ rule.lengths.max?, v.length ≤ n.toNat) ∧
        (∀ source ∈ rule.pattern?, v.string?.any (Pattern.finds source) = true) ∧
        (∀ x ∈ rule.min?, v.number?.any (·.lt x) = false) ∧
        (∀ x ∈ rule.max?, v.number?.any x.lt = false) ∧
        ∀ allowed ∈ rule.only?, v.undeclaredKey? allowed = none := by
  have hall : (∀ c, rule.fault? v c = none) ↔ ∀ c ∈ Constraint.all, rule.fault? v c = none :=
    ⟨fun h c _ => h c, fun h c => h c c.mem_all⟩
  rw [hall]
  simp [Constraint.all, fault?, Option.bind_eq_none_iff]

/-- A map has no undeclared key when each of its keys is declared. -/
theorem Value.undeclaredKey?_map (entries : List (String × Value)) (allowed : List String) :
    (Value.map entries).undeclaredKey? allowed = none ↔
      ∀ key ∈ Entries.keys entries, key ∈ allowed := by
  unfold undeclaredKey? map?
  rw [Option.bind_some, List.find?_eq_none]
  simp

/-- A rule finds nothing wrong with the values of which it holds. -/
theorem Rule.fault?_eq_none_iff [PatternLanguage] (rule : Rule) (v : Value) :
    (∀ c, rule.fault? v c = none) ↔ rule.Holds v := by
  rw [forall_fault?_eq_none_iff]
  -- A value of another kind meets neither side. For the others the two say the same, part by part.
  cases rule with
  | leaf rule =>
    cases rule with
    | string rules =>
      cases v with
      | string text =>
        simp [hasKind, Holds, Value.kind, lengths, pattern?, min?, max?, only?, Value.length,
          Value.string?, LengthBounds.Allow, and_assoc]
      | _ => simp [hasKind, Holds, Value.kind]
    | number rules =>
      cases v with
      | number x =>
        simp [hasKind, Holds, Value.number?, lengths, pattern?, min?, max?, only?,
          NumberKind.admits_iff]
      | _ => simp [hasKind, Holds, Value.number?]
    | bool =>
      cases v with
      | bool b => simp [hasKind, Holds, Value.kind, lengths, pattern?, min?, max?, only?]
      | _ => simp [hasKind, Holds, Value.kind]
    | array lengths =>
      cases v with
      | list items =>
        simp [hasKind, Holds, Value.kind, Rule.lengths, pattern?, min?, max?, only?, Value.length,
          LengthBounds.Allow]
      | _ => simp [hasKind, Holds, Value.kind]
  | object only? =>
    cases v with
    | map entries =>
      simp [hasKind, Holds, Value.kind, lengths, pattern?, min?, max?, Rule.only?,
        Value.undeclaredKey?_map]
    | _ => simp [hasKind, Holds, Value.kind]

namespace Node

/-- The constraints of a present value, but for the predicate, are those of the rule. -/
theorem fault?_of_ne_validator [PatternLanguage]
    (node : Node) (extras : Extras) (v : Value) (c : Constraint)
    (h : c ≠ .validator) : node.fault? extras (some v) c = node.rule.fault? v c := by
  cases c with
  | validator => exact absurd rfl h
  | _ => rfl

/-- The predicate finds nothing wrong when it does not refuse. -/
theorem fault?_validator_eq_none_iff [PatternLanguage] (node : Node) (extras : Extras) (v : Value) :
    node.fault? extras (some v) .validator = none ↔
      ∀ p ∈ node.attrs.validator?, p.refusal? v extras = none := by
  unfold fault?
  rw [Option.bind_eq_none_iff]
  simp only [Option.map_eq_none_iff, Option.mem_def]

/-- A node reports nothing of a value itself when what it asks holds. -/
theorem report?_eq_none_iff [PatternLanguage]
    (node : Node) (extras : Extras) (trail : Trail) (v : Value) :
    node.report? extras trail (some v) = none ↔ node.Holds extras v := by
  -- The predicate is the one constraint that is not a part of the rule.
  unfold report? Holds
  rw [List.findSome?_eq_none_iff, ← Rule.fault?_eq_none_iff,
    ← fault?_validator_eq_none_iff node extras v]
  simp only [Option.map_eq_none_iff]
  constructor
  · intro h
    refine ⟨fun c => ?_, h _ (Constraint.mem_all _)⟩
    by_cases hc : c = .validator
    · rw [hc]
      rfl
    · rw [← node.fault?_of_ne_validator extras v c hc]
      exact h c c.mem_all
  · rintro ⟨hrule, hvalidator⟩ c -
    by_cases hc : c = .validator
    · rw [hc]
      exact hvalidator
    · rw [node.fault?_of_ne_validator extras v c hc]
      exact hrule c

end Node

/-! ## Whole trees -/

/-- A node and its children report nothing when neither does. -/
theorem reports_unless_eq_nil_iff (report? : Option Report) (reports : List Report) :
    (match report? with
      | some r => [r]
      | none => reports) = [] ↔ report? = none ∧ reports = [] := by
  cases report? <;> simp

/-- A scan of items reports nothing when no item does. -/
theorem lastNonempty_mapIdx_eq_nil_iff {α β : Type} (f : Nat → α → List β) (xs : List α)
    (P : α → Prop) (h : ∀ i x, f i x = [] ↔ P x) :
    lastNonempty (xs.mapIdx f) = [] ↔ ∀ x ∈ xs, P x := by
  rw [lastNonempty_eq_nil_iff]
  constructor
  · intro hnil x hx
    obtain ⟨i, hi, rfl⟩ := List.mem_iff_getElem.1 hx
    exact (h i _).1 (hnil _ (List.mem_mapIdx.2 ⟨i, hi, rfl⟩))
  · intro hall list hlist
    obtain ⟨i, hi, rfl⟩ := List.mem_mapIdx.1 hlist
    exact (h i _).2 (hall _ (List.getElem_mem hi))

namespace Node

/-- Nothing is reported of a place exactly when the value fits in it, if this is so for the values
that are present. -/
theorem place_eq_nil_iff [PatternLanguage]
    (node : Node) (extras : Extras) (trail : Trail) (value? : Option Value)
    (h : ∀ v, node.reports extras trail (some v) = [] ↔ node.Conforms extras v) :
    (if node.passesOver value? then [] else node.reports extras trail value?) = [] ↔
      node.Fits extras value? := by
  cases value? with
  | some v =>
    constructor
    · intro hnil
      exact .present node v ((h v).1 hnil)
    · rintro (_ | ⟨_, _, hv⟩)
      exact (h v).2 hv
  | none =>
    -- What is absent is reported unless it is passed over.
    have hreports : node.reports extras trail none ≠ [] := by
      rw [reports_none]
      exact List.cons_ne_nil _ _
    cases hopt : node.attrs.optional with
    | true =>
      have hpass : node.passesOver none = true := hopt
      rw [hpass]
      exact ⟨fun _ => .absent node hopt, fun _ => rfl⟩
    | false =>
      have hpass : node.passesOver none = false := hopt
      rw [hpass]
      refine ⟨fun hnil => absurd hnil hreports, ?_⟩
      rintro ⟨_, hopt'⟩
      rw [hopt] at hopt'
      cases hopt'

mutual

/-- A node reports nothing of the values that conform to it. -/
theorem reports_eq_nil_iff [PatternLanguage]
    (node : Node) (extras : Extras) (trail : Trail) (v : Value) :
    node.reports extras trail (some v) = [] ↔ node.Conforms extras v := by
  cases node with
  | leaf attrs rule =>
    unfold reports
    rw [Option.toList_eq_nil_iff, report?_eq_none_iff]
    constructor
    · exact .leaf attrs rule v
    · intro hconforms
      cases hconforms with
      | leaf _ _ _ holds => exact holds
  | arrayOf attrs lengths item =>
    have hitems := fun items : List Value => lastNonempty_mapIdx_eq_nil_iff
      (fun i x => item.reports extras (trail ++ [.element i]) (some x)) items
      (item.Conforms extras) fun i x => reports_eq_nil_iff item extras (trail ++ [.element i]) x
    unfold reports
    refine (reports_unless_eq_nil_iff _ _).trans ?_
    rw [report?_eq_none_iff, hitems]
    -- An array that the rule holds of is a list, so its items are those that are scanned.
    constructor
    · rintro ⟨hholds, heach⟩
      obtain ⟨items, rfl, -⟩ := hholds.1
      exact .arrayOf attrs lengths item items hholds heach
    · intro hconforms
      cases hconforms with
      | arrayOf _ _ _ items holds each => exact ⟨holds, each⟩
  | tuple attrs lengths positions =>
    unfold reports
    refine (reports_unless_eq_nil_iff _ _).trans ?_
    rw [report?_eq_none_iff, positionReports_eq_nil_iff]
    simp only [Nat.zero_add]
    constructor
    · rintro ⟨hholds, heach⟩
      obtain ⟨items, rfl, -⟩ := hholds.1
      exact .tuple attrs lengths positions items hholds heach
    · intro hconforms
      cases hconforms with
      | tuple _ _ _ items holds each => exact ⟨holds, each⟩
  | object attrs allowExtra properties =>
    unfold reports
    refine (reports_unless_eq_nil_iff _ _).trans ?_
    rw [report?_eq_none_iff, propertyReports_eq_nil_iff]
    constructor
    · rintro ⟨hholds, heach⟩
      obtain ⟨entries, rfl, -⟩ := hholds.1
      exact .object attrs allowExtra properties entries hholds heach
    · intro hconforms
      cases hconforms with
      | object _ _ _ entries holds each => exact ⟨holds, each⟩

/-- The positions of a tuple report nothing when all items fit in their places. -/
theorem positionReports_eq_nil_iff [PatternLanguage]
    (positions : List Node) (extras : Extras) (trail : Trail)
    (v : Value) (i : Nat) :
    positionReports extras positions trail (some v) i = [] ↔
      ∀ (j : Nat) (node : Node), positions[j]? = some node → node.Fits extras (v.item? (i + j)) := by
  cases positions with
  | nil => simp [positionReports]
  | cons node rest =>
    unfold positionReports
    rw [List.append_eq_nil_iff, positionReports_eq_nil_iff rest,
      place_eq_nil_iff node extras _ _ fun x =>
        reports_eq_nil_iff node extras (trail ++ [.position i]) x]
    constructor
    · -- The first position stands at `i`, the others are counted from `i + 1`.
      rintro ⟨hfirst, hrest⟩ j node' hnode
      cases j with
      | zero =>
        obtain rfl := Option.some.inj hnode
        exact hfirst
      | succ j =>
        have hfits := hrest j node' hnode
        rw [Nat.add_right_comm, Nat.add_assoc] at hfits
        exact hfits
    · intro hall
      refine ⟨hall 0 node rfl, fun j node' hnode => ?_⟩
      rw [Nat.add_right_comm, Nat.add_assoc]
      exact hall (j + 1) node' hnode

/-- The properties of an object report nothing when all values fit in their places. -/
theorem propertyReports_eq_nil_iff [PatternLanguage]
    (properties : List (String × Node)) (extras : Extras)
    (trail : Trail) (v : Value) :
    propertyReports extras properties trail (some v) = [] ↔
      ∀ name node, (name, node) ∈ properties → node.Fits extras (v.get? name) := by
  match properties with
  | [] => simp [propertyReports]
  | (name, node) :: rest =>
    unfold propertyReports
    rw [List.append_eq_nil_iff, propertyReports_eq_nil_iff rest,
      place_eq_nil_iff node extras _ _ fun x =>
        reports_eq_nil_iff node extras (trail ++ [.property name]) x]
    constructor
    · rintro ⟨hfirst, hrest⟩ name' node' hmem
      rcases List.mem_cons.1 hmem with heq | hmem
      · obtain ⟨rfl, rfl⟩ := Prod.mk.inj heq
        exact hfirst
      · exact hrest name' node' hmem
    · intro hall
      exact ⟨hall name node List.mem_cons_self, fun name' node' hmem =>
        hall name' node' (List.mem_cons_of_mem _ hmem)⟩

end

/-- The own demands of a node hold of what conforms to it. -/
theorem Conforms.holds [PatternLanguage]
    (node : Node) (extras : Extras) (v : Value) (h : node.Conforms extras v) :
    node.Holds extras v := by
  cases h <;> assumption

/-- What fits is absent and optional, or present and conforming. -/
theorem fits_iff [PatternLanguage] (node : Node) (extras : Extras) (value? : Option Value) :
    node.Fits extras value? ↔
      (value? = none ∧ node.attrs.optional = true) ∨
        ∃ x, value? = some x ∧ node.Conforms extras x := by
  constructor
  · rintro (⟨_, hopt⟩ | ⟨_, x, hx⟩)
    · exact Or.inl ⟨rfl, hopt⟩
    · exact Or.inr ⟨x, rfl, hx⟩
  · rintro (⟨rfl, hopt⟩ | ⟨x, rfl, hx⟩)
    · exact .absent node hopt
    · exact .present node x hx

end Node

/-! ## The whole input -/

/-- An input conforms to a schema when it conforms to the root. -/
theorem Schema.node_conforms_iff [PatternLanguage] (s : Schema) (extras : Extras) (v : Value) :
    s.node.Conforms extras v ↔ s.Conforms extras v := by
  have hkeys (entries : List (String × Value)) :
      (∀ allowed ∈ (if s.allowExtra then none else some (Entries.keys s.properties)),
          ∀ key ∈ Entries.keys entries, key ∈ allowed) ↔
        (s.allowExtra = false →
          ∀ key ∈ Entries.keys entries, key ∈ Entries.keys s.properties) := by
    cases s.allowExtra <;> simp
  -- The root is an object that is never absent, so only the list of allowed keys has to be matched.
  unfold node Conforms
  constructor
  · intro hconforms
    cases hconforms with
    | object _ _ _ entries holds each =>
      obtain ⟨⟨_, ⟨⟩, hextra⟩, hvalidator⟩ := holds
      exact ⟨entries, rfl, (hkeys entries).1 hextra, hvalidator, fun name node hmem =>
        (node.fits_iff extras _).1 (each name node hmem)⟩
  · rintro ⟨entries, rfl, hextra, hvalidator, heach⟩
    exact .object _ _ _ entries ⟨⟨entries, rfl, (hkeys entries).2 hextra⟩, hvalidator⟩
      fun name node hmem => (node.fits_iff extras _).2 (heach name node hmem)

/-- A schema reports nothing of the inputs that conform to it. -/
theorem Schema.reports_eq_nil_iff [PatternLanguage] (s : Schema) (extras : Extras) (v : Value) :
    s.reports extras v = [] ↔ s.Conforms extras v := by
  unfold reports
  rw [Node.reports_eq_nil_iff, node_conforms_iff]

/-- A validator returns no errors exactly for the inputs that conform to the root. -/
theorem Schema.validate_eq_nil_iff [PatternLanguage]
    (s : Schema) (extraParams : List String) (v : Validator)
    (h : s.compile extraParams = .ok v) (value : Value) (args : List Value) :
    v.validate value args = [] ↔ s.node.Conforms { names := extraParams, args } value := by
  rw [s.validate_eq extraParams v h, List.map_eq_nil_iff]
  exact s.node.reports_eq_nil_iff _ [] value

/-- The validator of a schema returns no errors exactly for the inputs that conform to the schema,
whatever the extra arguments are. -/
theorem Schema.validate_eq_nil_iff_conforms [PatternLanguage]
    (s : Schema) (extraParams : List String)
    (v : Validator) (h : s.compile extraParams = .ok v) (value : Value) (args : List Value) :
    v.validate value args = [] ↔ s.Conforms { names := extraParams, args } value := by
  rw [s.validate_eq extraParams v h, List.map_eq_nil_iff, reports_eq_nil_iff]

/-- A record of the demonstration conforms, and the sample does not. -/
theorem Demo.validate_eq_nil_iff_conforms_sample :
    Demo.schema.compile ["limit"] =
        .ok { plan := Demo.schema.node.plan .root, extraParams := ["limit"] } ∧
      Demo.schema.Conforms { names := ["limit"], args := [toValue 3] }
        (.map [("name", .string "Ann"), ("age", toValue 44), ("users", .list [])]) ∧
      ¬ Demo.schema.Conforms { names := ["limit"], args := [toValue 3] } Demo.sample := by
  refine ⟨Demo.compile_schema, ?_, fun hconforms => ?_⟩
  · exact (Schema.validate_eq_nil_iff_conforms _ _ _ Demo.compile_schema _ _).1 (by decide +kernel)
  · exact absurd
      ((Schema.validate_eq_nil_iff_conforms _ _ _ Demo.compile_schema _ _).2 hconforms)
      (by decide +kernel)

end DataShape
