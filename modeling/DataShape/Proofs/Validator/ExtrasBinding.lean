import DataShape.Proofs.Schema.MappedAttributes
import DataShape.Proofs.Validator.Slots
import Mathlib.Data.List.Nodup

/-!
# Extra arguments are bound by position

A validator is compiled with names, and each call of it hands over arguments. A name is bound to the
argument at its own position, if there is one, and no other name is bound (`Extras.find?_getElem`,
`Extras.find?_of_not_mem`). This holds because a name that stands twice is refused.

To say what the predicates and producers are handed, `Schema.given` puts fixed extras into all of
them. A call gives the errors of the schema that is bound to the names and the arguments of the call
(`Node.map_error_reports_given`). Functions that look up the same under every name they ask for are
bound to the same functions (`Node.mapAttrs_given_congr`), so surplus arguments have no effect, nor
have arguments that nobody asks for (`Schema.extras_bind_by_position`).
-/

namespace DataShape

/-! ## Names and positions -/

namespace Extras

/-- A name is bound to the argument at its position. -/
theorem find?_getElem (names : List String) (args : List Value) (h : names.Nodup) (i : Nat)
    (hi : i < names.length) : find? ⟨names, args⟩ names[i] = args[i]? := by
  have hposition : names.idxOf? names[i] = some i := by
    refine List.idxOf?_eq_some_iff.2 ⟨hi, rfl, fun j hj heq => ?_⟩
    exact Nat.ne_of_lt hj ((List.Nodup.getElem_inj_iff h).1 heq)
  unfold find?
  rw [hposition]
  rfl

/-- Nothing is bound to another name. -/
theorem find?_of_not_mem (names : List String) (args : List Value) (name : String)
    (h : name ∉ names) : find? ⟨names, args⟩ name = Option.none := by
  unfold find?
  rw [List.idxOf?_eq_none_iff.2 h]
  rfl

/-- Nothing is bound without arguments. -/
theorem find?_nil (names : List String) (name : String) : find? ⟨names, []⟩ name = Option.none := by
  unfold find?
  cases names.idxOf? name <;> rfl

/-- What is bound to a name stays the same when arguments are added behind those for all names. -/
theorem find?_append (names : List String) (args more : List Value)
    (h : names.length ≤ args.length) (name : String) :
    find? ⟨names, args ++ more⟩ name = find? ⟨names, args⟩ name := by
  unfold find?
  cases hposition : names.idxOf? name with
  | none => rfl
  | some i =>
    obtain ⟨hi, -⟩ := List.idxOf?_eq_some_iff.1 hposition
    exact List.getElem?_append_left (Nat.lt_of_lt_of_le hi h)

/-- Two extras bind the same to the names of a property. -/
def AgreeOn (P : String → Prop) (extras extras' : Extras) : Prop :=
  ∀ name, P name → extras.find? name = extras'.find? name

end Extras

/-! ## Functions of the caller that are bound to extras -/

/-- The predicate, which is handed fixed extras in the place of others. -/
def Predicate.given (extras : Extras) (p : Predicate) : Predicate :=
  { p with refusal? := fun v _ => p.refusal? v extras }

/-- The producer, which is handed fixed extras in the place of others. -/
def Producer.given (extras : Extras) : Producer → Producer
  | literal e => literal e
  | closure run source? => closure (fun context => run { context with extras }) source?

/-- The attributes, with fixed extras for the predicate and all producers. -/
def Attributes.given (extras : Extras) (attrs : Attributes) : Attributes where
  optional := attrs.optional
  validator? := attrs.validator?.map (Predicate.given extras)
  errors := ⟨fun c => (attrs.errors.find? c).map (Producer.given extras)⟩

/-- The schema, with fixed extras for the predicates and producers of the root and of all nodes. -/
def Schema.given (extras : Extras) (s : Schema) : Schema :=
  let root := Attributes.given extras { validator? := s.validator?, errors := s.errors }
  { properties := Node.mapProperties (Attributes.given extras) s.properties
    allowExtra := s.allowExtra, validator? := root.validator?, errors := root.errors }

/-- The root of a bound schema is bound. -/
theorem Schema.node_given (extras : Extras) (s : Schema) :
    (s.given extras).node = s.node.mapAttrs (Attributes.given extras) := rfl

/-- The predicate reads no extras but by name, and only under names of a property. -/
def Predicate.ReadsOnly (P : String → Prop) (p : Predicate) : Prop :=
  ∀ v extras extras', Extras.AgreeOn P extras extras' → p.refusal? v extras = p.refusal? v extras'

/-- The producer reads no extras but by name, and only under names of a property. -/
def Producer.ReadsOnly (P : String → Prop) (p : Producer) : Prop :=
  ∀ (context : FailureContext) extras extras', Extras.AgreeOn P extras extras' →
    p.produce { context with extras } = p.produce { context with extras := extras' }

/-- The predicate and all producers of the node read extras by name, and only under names of a
property. -/
structure Node.ReadsOnly (P : String → Prop) (node : Node) : Prop where
  validator : ∀ p : Predicate, node.attrs.validator? = some p → p.ReadsOnly P
  errors : ∀ c (p : Producer), node.attrs.errors.find? c = some p → p.ReadsOnly P

/-! ## What is bound alike -/

section

variable {P : String → Prop} {extras extras' : Extras} (hagree : Extras.AgreeOn P extras extras')

include hagree

/-- A predicate is bound to the same by extras that agree where it reads them. -/
theorem Predicate.given_congr (p : Predicate) (h : p.ReadsOnly P) :
    p.given extras = p.given extras' := by
  have hrefusal : (fun (v : Value) (_ : Extras) => p.refusal? v extras) =
      fun v _ => p.refusal? v extras' :=
    funext fun v => funext fun _ => h v extras extras' hagree
  unfold given
  rw [hrefusal]

/-- So is a producer. -/
theorem Producer.given_congr (p : Producer) (h : p.ReadsOnly P) :
    p.given extras = p.given extras' := by
  cases p with
  | literal e => rfl
  | closure run source? =>
    have hrun : (fun context : FailureContext => run { context with extras }) =
        fun context => run { context with extras := extras' } :=
      funext fun context => h context extras extras' hagree
    exact congrArg (closure · source?) hrun

/-- So are the attributes of a node. -/
theorem Node.given_attrs_congr (node : Node) (h : node.ReadsOnly P) :
    node.attrs.given extras = node.attrs.given extras' := by
  have hvalidator : node.attrs.validator?.map (Predicate.given extras) =
      node.attrs.validator?.map (Predicate.given extras') :=
    Option.map_congr fun p hp => p.given_congr hagree (h.validator p hp)
  have herrors : (fun c => (node.attrs.errors.find? c).map (Producer.given extras)) =
      fun c => (node.attrs.errors.find? c).map (Producer.given extras') :=
    funext fun c => Option.map_congr fun p hp => p.given_congr hagree (h.errors c p hp)
  unfold Attributes.given
  rw [hvalidator, herrors]

end

namespace Node

/-- Functions that do the same to the attributes of all nodes make the same tree. -/
theorem mapAttrs_congr (f g : Attributes → Attributes) (node : Node) :
    node.Throughout (fun target => f target.attrs = g target.attrs) →
      node.mapAttrs f = node.mapAttrs g := by
  induction node using inductionOnChildren with
  | step node ih =>
    intro h
    obtain ⟨hown, hbelow⟩ := (throughout_iff _ node).1 h
    have hchildren (child : Node) (hchild : child ∈ node.children) :
        child.mapAttrs f = child.mapAttrs g := ih child hchild (hbelow child hchild)
    cases node with
    | leaf attrs rule => exact congrArg (leaf · rule) hown
    | arrayOf attrs lengths item =>
      exact congrArg₂ (arrayOf · lengths ·) hown (hchildren item (List.mem_singleton_self item))
    | tuple attrs lengths positions =>
      refine congrArg₂ (tuple · lengths ·) hown ?_
      rw [mapPositions_eq_map, mapPositions_eq_map]
      exact List.map_congr_left hchildren
    | object attrs allowExtra properties =>
      refine congrArg₂ (object · allowExtra ·) hown ?_
      rw [mapProperties_eq_map, mapProperties_eq_map]
      exact List.map_congr_left fun e he =>
        congrArg (e.1, ·) (hchildren e.2 (List.mem_map_of_mem he))

/-- A tree is bound to the same by extras that agree where its functions read them. -/
theorem mapAttrs_given_congr {P : String → Prop} {extras extras' : Extras}
    (hagree : Extras.AgreeOn P extras extras') (node : Node) (h : node.Throughout (ReadsOnly P)) :
    node.mapAttrs (Attributes.given extras) = node.mapAttrs (Attributes.given extras') :=
  mapAttrs_congr _ _ node fun trail target hreaches =>
    target.given_attrs_congr hagree (h trail target hreaches)

/-! ## Reading a bound tree -/

section

variable (f : Attributes → Attributes)

/-- Slots are shared as before. -/
theorem sharesItem_mapAttrs (node : Node) : (node.mapAttrs f).sharesItem = node.sharesItem := by
  cases node <;> rfl

/-- The slots are the same, with other nodes in them. -/
theorem slots_mapAttrs (node : Node) (v : Value) :
    (node.mapAttrs f).slots v = (node.slots v).map fun p => { p with node := p.node.mapAttrs f } := by
  cases node with
  | leaf attrs rule => rfl
  | arrayOf attrs lengths item =>
    exact List.mapIdx_eq_iff.2 fun i => by
      simp only [slots, List.getElem?_map, List.getElem?_mapIdx, Option.map_map]
      rfl
  | tuple attrs lengths positions =>
    exact List.mapIdx_eq_iff.2 fun i => by
      simp only [slots, mapPositions_eq_map, List.getElem?_map, List.getElem?_mapIdx, Option.map_map]
      rfl
  | object attrs allowExtra properties =>
    show List.map _ (mapProperties f properties) = List.map _ (List.map _ _)
    rw [mapProperties_eq_map, List.map_map, List.map_map]
    rfl

/-- The slots that are read are the same if nodes stay optional or required. -/
theorem readSlots_mapAttrs (hoptional : ∀ attrs, (f attrs).optional = attrs.optional) (node : Node)
    (v : Value) :
    (node.mapAttrs f).readSlots v =
      (node.readSlots v).map fun p => { p with node := p.node.mapAttrs f } := by
  have hpassed (p : Slot) :
      Slot.isPassedOver { p with node := p.node.mapAttrs f } = p.isPassedOver := by
    refine Slot.isPassedOver_congr _ p ?_ rfl
    show (p.node.mapAttrs f).attrs.optional = _
    rw [attrs_mapAttrs, hoptional]
  unfold readSlots
  rw [slots_mapAttrs, List.filter_map]
  simp only [Function.comp_def, hpassed]

end

/-- A bound node finds the same faults as the node that is handed the extras. -/
theorem fault?_given [PatternLanguage]
    (extras extras' : Extras) (node : Node) (value? : Option Value)
    (c : Constraint) :
    (node.mapAttrs (Attributes.given extras)).fault? extras' value? c =
      node.fault? extras value? c := by
  cases value? with
  | none => rw [fault?_none, fault?_none, rule_mapAttrs]
  | some v =>
    by_cases hc : c = .validator
    · subst hc
      unfold fault?
      rw [attrs_mapAttrs]
      show ((node.attrs.validator?.map _).bind _) = _
      cases node.attrs.validator? <;> rfl
    · rw [fault?_of_ne_validator _ extras' v c hc, fault?_of_ne_validator _ extras v c hc,
        rule_mapAttrs]

/-- A bound node makes the same error of a fault as the node that is handed the extras. -/
theorem error_report_given (extras extras' : Extras) (node : Node) (trail : Trail)
    (value? : Option Value) (c : Constraint) (fault : Fault) :
    ((node.mapAttrs (Attributes.given extras)).report extras' trail value? c fault).error =
      (node.report extras trail value? c fault).error := by
  have hfind : (node.mapAttrs (Attributes.given extras)).attrs.errors.find? c =
      (node.attrs.errors.find? c).map (Producer.given extras) := by
    rw [attrs_mapAttrs]
    rfl
  cases hdeclared : node.attrs.errors.find? c with
  | none =>
    rw [hdeclared] at hfind
    rw [error_report_of_undeclared _ _ _ _ _ _ hfind,
      error_report_of_undeclared _ _ _ _ _ _ hdeclared]
  | some producer =>
    rw [hdeclared] at hfind
    rw [error_report_of_declared _ _ _ _ _ _ _ hfind,
      error_report_of_declared _ _ _ _ _ _ _ hdeclared]
    cases producer <;> rfl

/-- A bound node reports the same error itself. -/
theorem map_error_report?_given [PatternLanguage]
    (extras extras' : Extras) (node : Node) (trail : Trail)
    (value? : Option Value) :
    ((node.mapAttrs (Attributes.given extras)).report? extras' trail value?).map Report.error =
      (node.report? extras trail value?).map Report.error := by
  unfold report?
  rw [List.map_findSome?, List.map_findSome?]
  refine congrArg (List.findSome? · _) (funext fun c => ?_)
  rw [Function.comp_apply, Function.comp_apply, fault?_given, Option.map_map, Option.map_map]
  exact congrArg (Option.map · _)
    (funext fun fault => node.error_report_given extras extras' trail value? c fault)

/-- A bound tree has the same errors, whatever extras it is handed, as the tree that is handed what
the other is bound to. -/
theorem map_error_reports_given [PatternLanguage]
    (extras extras' : Extras) (node : Node) : ∀ (trail : Trail)
    (value? : Option Value),
    ((node.mapAttrs (Attributes.given extras)).reports extras' trail value?).map Report.error =
      (node.reports extras trail value?).map Report.error := by
  induction node using inductionOnChildren with
  | step node ih =>
    intro trail value?
    have hown := node.map_error_report?_given extras extras' trail value?
    cases hreport : node.report? extras trail value? with
    | some r =>
      rw [hreport] at hown
      obtain ⟨r', hr', hsame⟩ := Option.map_eq_some_iff.1 hown
      rw [reports_of_report? _ _ _ _ r' hr', reports_of_report? _ _ _ _ r hreport,
        List.map_singleton, List.map_singleton, hsame]
    | none =>
      rw [hreport] at hown
      obtain ⟨v, rfl⟩ := node.exists_of_report?_eq_none extras trail value? hreport
      have hholds := (node.report?_eq_none_iff extras trail v).1 hreport
      have hholds' := (report?_eq_none_iff _ extras' trail v).1 (Option.map_eq_none_iff.1 hown)
      rw [reports_of_holds _ _ _ v hholds', reports_of_holds _ _ _ v hholds, sharesItem_mapAttrs,
        readSlots_mapAttrs (Attributes.given extras) fun _ => rfl]
      rw [map_gather, map_gather, List.map_map, List.map_map, List.map_map]
      -- The slots are the same, and what stands in them has the same errors by induction.
      refine congrArg (gather _) (List.map_congr_left fun p hp => ?_)
      have hchild := node.mem_children_of_mem_slots v p (node.mem_slots_of_mem_readSlots v p hp)
      exact ih p.node hchild (trail ++ [p.move]) p.value?

end Node

/-! ## Schemas -/

namespace Schema

/-- A schema has the same defects when it is given extras. -/
theorem defects_given [PatternLanguage] (s : Schema) (extras : Extras) (extraParams : List String) :
    (s.given extras).defects extraParams = s.defects extraParams := by
  unfold defects nodes
  rw [node_given, Node.defectsOf_mapAttrs]

/-- Extra arguments are bound by position. Let a schema be compiled with names for extra arguments.
In a call with some arguments each name is bound to the argument at its position, if there is one, and
no other name is bound. The predicates and producers are handed these extras and no others: the errors
are those of the schema that is given them, with whatever arguments that one is called. So if they
read extras by name only, surplus arguments have no effect. If they read only names that are not
bound, the call has the errors of one without arguments. -/
theorem extras_bind_by_position [PatternLanguage]
    (s : Schema) (extraParams : List String) (v : Validator)
    (h : s.compile extraParams = .ok v) (args : List Value) :
    (∀ i (hi : i < extraParams.length),
      Extras.find? { names := extraParams, args } extraParams[i] = args[i]?) ∧
    (∀ name ∉ extraParams, Extras.find? { names := extraParams, args } name = none) ∧
    (∃ w, (s.given { names := extraParams, args }).compile [] = .ok w ∧
      ∀ input args', w.validate input args' = v.validate input args) ∧
    (s.node.Throughout (Node.ReadsOnly fun _ => True) → extraParams.length ≤ args.length →
      ∀ input more, v.validate input (args ++ more) = v.validate input args) ∧
    (s.node.Throughout (Node.ReadsOnly fun name =>
        Extras.find? { names := extraParams, args } name = none) →
      ∀ input, v.validate input args = v.errors input) := by
  obtain ⟨-, hnodup, hconfigured⟩ := (s.compiles_iff extraParams).1 ⟨v, h⟩
  -- Schemas that are given the same have the same errors.
  have hsame (args' : List Value) (input : Value)
      (hgiven : s.node.mapAttrs (Attributes.given { names := extraParams, args := args' }) =
        s.node.mapAttrs (Attributes.given { names := extraParams, args })) :
      v.validate input args' = v.validate input args := by
    rw [s.validate_eq extraParams v h, s.validate_eq extraParams v h]
    unfold reports
    rw [← Node.map_error_reports_given _ .none, ← Node.map_error_reports_given _ .none s.node, hgiven]
  refine ⟨Extras.find?_getElem extraParams args hnodup, Extras.find?_of_not_mem extraParams args,
    ?_, ?_, ?_⟩
  · obtain ⟨w, hw⟩ := (s.compiles_iff []).2 ⟨List.forall_mem_nil _, List.nodup_nil, hconfigured⟩
    have hdefects := ((s.compile_eq_ok_iff [] w).1 hw).1
    rw [← s.defects_given { names := extraParams, args }] at hdefects
    have hw' := (compile_eq_ok_iff _ [] _).2 ⟨hdefects, rfl⟩
    refine ⟨_, hw', fun input args' => ?_⟩
    rw [validate_eq _ [] _ hw', s.validate_eq extraParams v h]
    exact Node.map_error_reports_given _ _ s.node [] (some input)
  · intro hreads hlength input more
    refine hsame (args ++ more) input (Node.mapAttrs_given_congr (fun name _ => ?_) s.node hreads)
    exact Extras.find?_append extraParams args more hlength name
  · intro hreads input
    refine (hsame [] input (Node.mapAttrs_given_congr (fun name hnone => ?_) s.node hreads)).symm
    rw [Extras.find?_nil, hnone]

end Schema

namespace Demo

/-- A weight of at least one, in a unit that has to be given. -/
def weight : Node :=
  .ofNumber .plain
    [.own (.min (.ofNat 1)),
      .validator { refusal? := fun v extras => if (extras.find? "unit").isNone then some v else none },
      .error .min (.closure (fun c => boundMessage "Less than one " (c.extras.find? "unit") ".") none)]

/-- A load has a weight. -/
def load : Schema := .ofSettings [.property "weight" weight]

/-- A load of half a unit. -/
def loadSample : Value := .ofEntries [("weight", toValue (Binary64.ofDecimal false 5 (-1)))]

/-- The functions of a load ask for nothing but the unit. -/
theorem readsOnly_load (P : String → Prop) (h : P "unit") :
    load.node.Throughout (Node.ReadsOnly P) := by
  have hweight : weight.ReadsOnly P := by
    constructor
    · intro p hp
      obtain rfl := Option.some.inj hp
      intro v extras extras' hagree
      show (if (extras.find? "unit").isNone then some v else none) = _
      rw [hagree "unit" h]
    · intro c p hp
      cases c with
      | min =>
        obtain rfl := Option.some.inj hp
        intro context extras extras' hagree
        show boundMessage _ (extras.find? "unit") _ = _
        rw [hagree "unit" h]
        rfl
      | _ => cases hp
  refine (Node.throughout_iff _ _).2 ⟨⟨(fun _ hp => nomatch hp), fun _ _ hp => nomatch hp⟩, ?_⟩
  exact List.forall_mem_singleton.2 (Node.throughout_leaf _ _ _ hweight)

/-- The unit is the second argument. A third one has no effect, nor has the first one alone. -/
theorem extras_bind_by_position_load :
    load.compile ["limit", "unit"] =
        .ok { plan := load.node.plan .root, extraParams := ["limit", "unit"] } ∧
      Extras.find? { names := ["limit", "unit"], args := [toValue 3, toValue "kg"] } "unit" =
        some (toValue "kg") ∧
      Validator.validate { plan := load.node.plan .root, extraParams := ["limit", "unit"] }
          loadSample [toValue 3, toValue "kg", toValue 7] =
        Validator.validate { plan := load.node.plan .root, extraParams := ["limit", "unit"] }
          loadSample [toValue 3, toValue "kg"] ∧
      Validator.validate { plan := load.node.plan .root, extraParams := ["limit", "unit"] }
          loadSample [toValue 3] =
        Validator.errors { plan := load.node.plan .root, extraParams := ["limit", "unit"] }
          loadSample := by
  have hcompile : load.compile ["limit", "unit"] =
      .ok { plan := load.node.plan .root, extraParams := ["limit", "unit"] } :=
    (load.compile_eq_ok_iff _ _).2 ⟨by decide +kernel, rfl⟩
  have hboth := load.extras_bind_by_position _ _ hcompile [toValue 3, toValue "kg"]
  have hone := load.extras_bind_by_position _ _ hcompile [toValue 3]
  refine ⟨hcompile, hboth.1 1 (by decide), ?_, ?_⟩
  · exact hboth.2.2.2.1 (readsOnly_load _ trivial) (by decide) loadSample [toValue 7]
  · exact hone.2.2.2.2 (readsOnly_load _ (hone.1 1 (by decide))) loadSample

example :
    (Validator.validate { plan := load.node.plan .root, extraParams := ["limit", "unit"] } loadSample
        [toValue 3, toValue "kg"]).map ValidationError.text = ["Less than one kg."] := by
  decide +kernel

end Demo

end DataShape
