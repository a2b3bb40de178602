import DataShape.Proofs.Schema.WithoutProperty
import DataShape.Proofs.Validator.Lockstep
import DataShape.Proofs.Validator.Visits
import Mathlib.Data.List.Find

/-!
# An absent property

An optional property that is absent is as if it were not declared: where no map that is visited at
an object has the key, removing the property from that object changes no error of the input, not
even if the object refuses other keys. A required property that is absent has one report, that of
its kind, and nothing below it is looked at. `Schema.absent_property` says both.

The two readings go down in lockstep (`Node.lockstep_sameButAbsent`). They are at the same node,
or at a node and the same without the property further down. The second case ends at the object,
where the slot of the property is passed over on one side and missing on the other.
-/

namespace DataShape

/-! ## Visits and trails -/

/-- The report stands at the end of a trail or below. -/
def Report.isWithin (trail : Trail) (r : Report) : Bool := trail.isPrefixOf r.trail

namespace Node

variable {extras : Extras} {node target : Node} {v x : Value} {trail : Trail}

/-- What is visited is reached. -/
theorem Visits.reaches [PatternLanguage]
    (h : node.Visits extras v trail target x) : node.Reaches trail target := by
  induction h with
  | here node v => exact .here node
  | through node target v x y p front back trail _ hread _ _ _ ih =>
    have hp : p ∈ node.readSlots v := hread ▸ List.mem_append_right front List.mem_cons_self
    exact node.reaches_of_mem_slots v p (node.mem_slots_of_mem_readSlots v p hp) trail target ih

/-- The trail of a visit leads to the visited value. -/
theorem Visits.leads [PatternLanguage]
    (h : node.Visits extras v trail target x) : v.Leads trail (some x) := by
  induction h with
  | here node v => exact .here v
  | through node target v x y p front back trail _ hread _ hfound _ ih =>
    have hp : p ∈ node.readSlots v := hread ▸ List.mem_append_right front List.mem_cons_self
    have hvalue := node.value?_of_mem_slots v p (node.mem_slots_of_mem_readSlots v p hp)
    exact .present v x p.move trail (some y) (hvalue ▸ hfound) ih

/-- No map has the key that is visited at a node at the end of the steps. -/
def LacksKeyAt [PatternLanguage]
    (extras : Extras) (node : Node) (value? : Option Value) (steps : List PathStep)
    (target : Node) (name : String) : Prop :=
  ∀ v, value? = some v → ∀ trail x, trail.map Move.step = steps →
    node.Visits extras v trail target x → x.get? name = none

/-- Maps that are visited below a slot are visited below the node, so they lack the key as well. -/
theorem LacksKeyAt.of_slot [PatternLanguage] {name : String} {rest : List PathStep} (p : Slot)
    (front back : List Slot)
    (h : node.LacksKeyAt extras (some v) (p.move.step :: rest) target name)
    (hholds : node.Holds extras v) (hread : node.readSlots v = front ++ p :: back)
    (hbehind : node.sharesItem = true → ∀ q ∈ back, q.node.Fits extras q.value?) :
    p.node.LacksKeyAt extras p.value? rest target name := by
  intro x hfound trail y hsteps hvisits
  exact h v rfl (p.move :: trail) y (congrArg (p.move.step :: ·) hsteps)
    (.through node target v x y p front back trail hholds hread hbehind hfound hvisits)

end Node

/-! ## The object without the property -/

/-- A key that a map lacks may be declared or not. -/
theorem Value.undeclaredKey?_erase (v : Value) (properties : List (String × Node)) (name : String)
    (child : Node) (hdeclared : Entries.find? properties name = some child)
    (h : v.get? name = none) :
    v.undeclaredKey? (Entries.keys (Entries.erase properties name)) =
      v.undeclaredKey? (Entries.keys properties) := by
  obtain ⟨front, back, rfl, hfront⟩ := Entries.exists_split_of_find? properties name child hdeclared
  rw [Entries.erase_append_cons front back name child hfront]
  cases v with
  | map entries =>
    refine List.find?_congr fun key hkey => ?_
    have hne : key ≠ name := fun heq => (Entries.find?_eq_none_iff entries name).1 h (heq ▸ hkey)
    simp [Entries.keys, hne]
  | _ => rfl

namespace Node

section

variable (attrs : Attributes) (allowExtra : Bool) (properties : List (String × Node))
  (name : String) (child : Node) (hdeclared : Entries.find? properties name = some child)
  (extras : Extras)

include hdeclared

/-- An object finds the same in a value that lacks a key when the property is removed. -/
theorem report?_withoutProperty [PatternLanguage] (trail : Trail) (value? : Option Value)
    (h : ∀ v, value? = some v → v.get? name = none) :
    ((object attrs allowExtra properties).withoutProperty name).report? extras trail value? =
      (object attrs allowExtra properties).report? extras trail value? := by
  have herrors : ((object attrs allowExtra properties).withoutProperty name).attrs.errors =
      (object attrs allowExtra properties).attrs.errors := rfl
  refine report?_congr _ _ herrors extras trail value? fun c => ?_
  cases value? with
  | none =>
    rw [fault?_none, fault?_none]
    rfl
  | some v =>
    cases c with
    | extra =>
      cases allowExtra with
      | true => rfl
      | false =>
        show ((v.undeclaredKey? _).map _) = ((v.undeclaredKey? _).map _)
        rw [v.undeclaredKey?_erase properties name child hdeclared (h v rfl)]
    | _ => rfl

/-- The slot of an optional property is passed over when the property is absent. -/
theorem readSlots_withoutProperty (hoptional : child.attrs.optional = true) (v : Value)
    (h : v.get? name = none) :
    ((object attrs allowExtra properties).withoutProperty name).readSlots v =
      (object attrs allowExtra properties).readSlots v := by
  obtain ⟨front, back, rfl, hfront⟩ := Entries.exists_split_of_find? properties name child hdeclared
  have hpassed : Slot.isPassedOver ⟨.property name, child, v.get? name⟩ = true := by
    unfold Slot.isPassedOver passesOver
    rw [h, hoptional]
    rfl
  show List.filter _ (List.map _ (Entries.erase _ _)) = List.filter _ (List.map _ _)
  rw [Entries.erase_append_cons front back name child hfront, List.map_append, List.map_append,
    List.map_cons, List.filter_append, List.filter_append, List.filter_cons, hpassed]
  rfl

end

/-! ## Two readings -/

/-- The same is read on both sides, or the second side lacks an optional property of an object that
is absent wherever the reading comes to the object. -/
inductive SameButAbsent [PatternLanguage] (extras : Extras) (name : String) :
    Node → Option Value → Node → Option Value → Prop
  | same (node : Node) (value? : Option Value) : SameButAbsent extras name node value? node value?
  | object (attrs : Attributes) (allowExtra : Bool) (properties : List (String × Node))
      (child : Node) (value? : Option Value)
      (declared : Entries.find? properties name = some child)
      (optional : child.attrs.optional = true)
      (absent : ∀ v, value? = some v → v.get? name = none) :
      SameButAbsent extras name (.object attrs allowExtra properties) value?
        ((Node.object attrs allowExtra properties).withoutProperty name) value?
  | below (node next : Node) (step : PathStep) (rest : List PathStep) (attrs : Attributes)
      (allowExtra : Bool) (properties : List (String × Node)) (child : Node) (value? : Option Value)
      (found : node.child? step = some next)
      (onward : next.at? rest = some (.object attrs allowExtra properties))
      (declared : Entries.find? properties name = some child)
      (optional : child.attrs.optional = true)
      (absent : node.LacksKeyAt extras value? (step :: rest)
        (.object attrs allowExtra properties) name) :
      SameButAbsent extras name node value?
        (node.replaceChild step (next.withoutPropertyAt name rest)) value?

/-- A tree is the same but for a property that is removed at the end of steps. -/
theorem SameButAbsent.of_at? [PatternLanguage]
    (extras : Extras) (name : String) (steps : List PathStep)
    (node child : Node) (attrs : Attributes) (allowExtra : Bool)
    (properties : List (String × Node)) (value? : Option Value)
    (hnode : node.at? steps = some (.object attrs allowExtra properties))
    (hdeclared : Entries.find? properties name = some child)
    (hoptional : child.attrs.optional = true)
    (habsent : node.LacksKeyAt extras value? steps (.object attrs allowExtra properties) name) :
    SameButAbsent extras name node value? (node.withoutPropertyAt name steps) value? := by
  cases steps with
  | nil =>
    obtain rfl := Option.some.inj hnode
    refine .object attrs allowExtra properties child value? hdeclared hoptional fun v hv => ?_
    exact habsent v hv [] v rfl (.here _ v)
  | cons step rest =>
    obtain ⟨next, hnext, honward⟩ := Option.bind_eq_some_iff.1 hnode
    rw [node.withoutPropertyAt_cons name next step rest hnext]
    exact .below node next step rest attrs allowExtra properties child value? hnext honward
      hdeclared hoptional habsent

/-- Slots go together with those below a node that has another child in the place of one, if the
child and the other are the same but for a property that is absent. -/
theorem matched_replaceChild [PatternLanguage]
    (extras : Extras) (name : String) (node next next' : Node)
    (step : PathStep) (v : Value) (hnext : node.child? step = some next)
    (hattrs : next'.attrs = next.attrs)
    (hbelow : ∀ front p back, node.readSlots v = front ++ p :: back → p.move.step = step →
      p.node = next → (node.sharesItem = true → ∀ q ∈ back, q.node.Fits extras q.value?) →
        SameButAbsent extras name next p.value? next' p.value?) :
    Matched extras (SameButAbsent extras name) node.sharesItem (node.readSlots v)
      ((node.replaceChild step next').readSlots v) := by
  -- An edited slot is passed over when the old one is, so the two are read together.
  have hpassed (p p' : Slot) (hreplaced : Slot.Replaced step next next' p p') :
      p.isPassedOver = p'.isPassedOver := by
    rcases hreplaced with rfl | ⟨-, rfl, rfl⟩
    · rfl
    · exact Slot.isPassedOver_congr _ _ (congrArg Attributes.optional hattrs.symm) rfl
  have hread := node.forall₂_readSlots (node.replaceChild step next') v v
    (node.forall₂_slots_replaceChild next step next' hnext v) hpassed
  refine .of_splits hread (fun p p' hreplaced => ?_) fun front p back p' hsplit hreplaced hfit => ?_
  · rcases hreplaced with rfl | ⟨-, -, rfl⟩ <;> rfl
  · rcases hreplaced with rfl | ⟨hstep, hp, rfl⟩
    · exact .same _ _
    · rw [hp]
      exact hbelow front p back hsplit hstep hp hfit

/-- The readings of a tree and of the tree without an absent property go down in lockstep. -/
theorem lockstep_sameButAbsent [PatternLanguage] (extras : Extras) (name : String) :
    Lockstep extras id (SameButAbsent extras name) where
  own node value? _ _ trail h := by
    rw [Option.map_id, id, id]
    cases h with
    | same => rfl
    | object attrs allowExtra properties child _ declared _ absent =>
      exact (report?_withoutProperty attrs allowExtra properties name child declared extras trail
        value? absent).symm
    | below _ next step rest _ _ _ _ _ found =>
      refine (report?_congr _ _ ?_ extras trail value? fun c => ?_).symm
      · rw [attrs_replaceChild]
      · unfold fault?
        rw [node.rule_replaceChild next step _ found, attrs_replaceChild]
  sharesItem node _ _ _ h := by
    cases h with
    | same => rfl
    | object => rfl
    | below _ next step => exact (node.sharesItem_replaceChild step _).symm
  below node v _ _ h hholds := by
    cases h with
    | same => exact .of_forall₂ (List.forall₂_same.2 fun p _ => ⟨rfl, .same p.node p.value?⟩)
    | object attrs allowExtra properties child _ declared optional absent =>
      rw [readSlots_withoutProperty attrs allowExtra properties name child declared optional v
        (absent v rfl)]
      exact .of_forall₂ (List.forall₂_same.2 fun p _ => ⟨rfl, .same p.node p.value?⟩)
    | below _ next step rest attrs allowExtra properties child _ found onward declared optional
        absent =>
      refine matched_replaceChild extras name node next _ step v found
        (attrs_withoutPropertyAt _ _ _) fun front p back hsplit hstep hp hfit => ?_
      subst hstep hp
      exact .of_at? extras name rest p.node child attrs allowExtra properties p.value? onward
        declared optional (absent.of_slot p front back hholds hsplit hfit)

/-- An object reports a required property that is absent, with its kind, and nothing below it. -/
theorem filter_reports_of_absent [PatternLanguage] (attrs : Attributes) (allowExtra : Bool)
    (properties : List (String × Node)) (name : String) (child : Node) (extras : Extras)
    (trail : Trail) (v : Value) (hdeclared : Entries.find? properties name = some child)
    (hrequired : child.attrs.optional = false) (habsent : v.get? name = none)
    (hdistinct : (object attrs allowExtra properties).HasDistinctNames)
    (hholds : (object attrs allowExtra properties).Holds extras v) :
    ((object attrs allowExtra properties).reports extras trail (some v)).filter
        (Report.isWithin (trail ++ [.property name])) =
      [child.report extras (trail ++ [.property name]) none .type ⟨none, child.rule.kindText⟩] := by
  have hpassed : Slot.isPassedOver ⟨.property name, child, v.get? name⟩ = false := by
    unfold Slot.isPassedOver passesOver
    rw [hrequired, Bool.and_false]
  have hslot :
      ⟨.property name, child, v.get? name⟩ ∈ (object attrs allowExtra properties).slots v :=
    List.mem_map_of_mem (Entries.mem_of_find? properties name child hdeclared)
  obtain ⟨front, back, hread⟩ :=
    List.append_of_mem ((mem_readSlots_iff _ v _).2 ⟨hslot, hpassed⟩)
  rw [filter_reports_of_slot _ extras trail v hdistinct hholds _ front back hread
    (fun h => nomatch h) (Report.isWithin _) fun r hr => List.isPrefixOf_iff_prefix.1 hr]
  -- The value is absent, so the kind is all that the child reports.
  unfold Slot.reports
  rw [habsent, reports_none]
  have hself : Report.isWithin (trail ++ [.property name])
      (child.report extras (trail ++ [.property name]) none .type ⟨none, child.rule.kindText⟩) =
        true :=
    List.isPrefixOf_iff_prefix.2 (List.prefix_refl _)
  exact List.filter_cons_of_pos hself

end Node

/-- An absent property. Steps lead from the root to an object that declares the property. If the
property is optional, the schema without it compiles as well, and its validator returns the same
errors for every input in which no map that is visited at the object has the key. If it is required,
a map without the key that is visited at the object, and with which the object finds nothing wrong
itself, has one report at the property or below it: that of its kind, of no value. -/
theorem Schema.absent_property [PatternLanguage]
    (s : Schema) (extraParams : List String) (v : Validator)
    (h : s.compile extraParams = .ok v) (steps : List PathStep) (attrs : Attributes)
    (allowExtra : Bool) (properties : List (String × Node)) (name : String) (child : Node)
    (hnode : s.node.at? steps = some (.object attrs allowExtra properties))
    (hdeclared : Entries.find? properties name = some child) :
    (child.attrs.optional = true →
      ∃ w, (s.withoutPropertyAt steps name).compile extraParams = .ok w ∧
        ∀ (input : Value) (args : List Value),
          s.node.LacksKeyAt { names := extraParams, args } (some input) steps
              (.object attrs allowExtra properties) name →
            w.validate input args = v.validate input args) ∧
    (child.attrs.optional = false → s.node.Throughout Node.HasDistinctNames →
      ∀ (input : Value) (args : List Value) (trail : Trail) (x : Value),
        s.node.Visits { names := extraParams, args } input trail
            (.object attrs allowExtra properties) x →
          x.get? name = none →
          (Node.object attrs allowExtra properties).Holds { names := extraParams, args } x →
            (v.failures input args).map Failure.sent =
                (s.reports { names := extraParams, args } input).map Report.sent ∧
              (s.reports { names := extraParams, args } input).filter
                  (Report.isWithin (trail ++ [.property name])) =
                [child.report { names := extraParams, args } (trail ++ [.property name]) none .type
                  ⟨none, child.rule.kindText⟩]) := by
  constructor
  · intro hoptional
    obtain ⟨w, hw⟩ := s.compiles_withoutPropertyAt extraParams steps name ⟨v, h⟩
    refine ⟨w, hw, fun input args habsent => ?_⟩
    have hlockstep := Node.lockstep_sameButAbsent { names := extraParams, args } name
    have hreports := hlockstep.reports_eq _ _ _ _ [] (.of_at? _ name steps s.node child attrs
      allowExtra properties (some input) hnode hdeclared hoptional habsent)
    rw [List.map_id, List.map_id, ← s.node_withoutPropertyAt steps name] at hreports
    rw [validate_eq _ extraParams w hw, s.validate_eq extraParams v h]
    exact congrArg (List.map Report.error) hreports.symm
  · intro hrequired hdistinct input args trail x hvisits habsent hholds
    refine ⟨s.sent_failures extraParams v h input args, ?_⟩
    have hbelow := s.node.filter_reports_of_visits _ _ input x trail hvisits []
      (Report.isWithin (trail ++ [.property name])) hdistinct fun r hr =>
        (List.prefix_append trail _).trans (List.isPrefixOf_iff_prefix.1 hr)
    refine hbelow.trans ?_
    exact Node.filter_reports_of_absent attrs allowExtra properties name child _ trail x hdeclared
      hrequired habsent (hdistinct trail _ hvisits.reaches) hholds

namespace Demo

/-- A member of a team: a name and perhaps a nickname, and no other key. -/
def member : Node :=
  .ofObject
    [.own (.property "name" name), .own (.property "nick" (.ofString [.optional])), .own .denyExtra]

/-- The schema of teams. -/
def team : Schema := .ofSettings [.property "members" (.ofArray (.each member) [])]

/-- A team of two, the second without a name. -/
def teamSample : Value :=
  .ofEntries [("members", toValue [Value.ofEntries [("name", toValue "Ann")], Value.ofEntries []])]

/-- No member of the sample has a nickname. -/
theorem lacksKeyAt_teamSample :
    team.node.LacksKeyAt { names := [], args := [] } (some teamSample)
      [.property "members", .items] member "nick" := by
  rintro _ ⟨⟩ trail x hsteps hvisits
  have hleads := hvisits.leads
  obtain ⟨first, rest, rfl, hfirst, hrest⟩ := List.map_eq_cons_iff.1 hsteps
  obtain ⟨second, rest, rfl, hsecond, hnil⟩ := List.map_eq_cons_iff.1 hrest
  obtain rfl := List.map_eq_nil_iff.1 hnil
  cases first with
  | property key =>
    cases hfirst
    cases hleads with
    | present _ members _ _ _ hmembers hbelow =>
      obtain rfl := Option.some.inj hmembers
      cases second with
      | element i =>
        cases hbelow with
        | present _ _ _ _ _ hitem hhere =>
          cases hhere
          match i with
          | 0 | 1 =>
            obtain rfl := Option.some.inj hitem
            rfl
      | property | position => cases hsecond
  | position | element => cases hfirst

/-- The second member of the sample is visited. -/
theorem visits_teamSample :
    team.node.Visits { names := [], args := [] } teamSample [.property "members", .element 1] member
      (.map []) := by
  refine .through _ _ _ _ _ ⟨.property "members", _, _⟩ [] [] _
    ⟨⟨_, rfl, fun _ h => nomatch h⟩, fun _ h => nomatch h⟩ rfl (fun h => nomatch h) rfl ?_
  refine .through _ _ _ _ _ ⟨.element 1, _, _⟩ [_] [] _
    ⟨⟨_, rfl, (fun _ h => nomatch h), fun _ h => nomatch h⟩, fun _ h => nomatch h⟩ rfl
    (fun _ _ h => nomatch h) rfl ?_
  exact .here member (.map [])

/-- No object of a team declares a name twice. -/
theorem throughout_distinct_team : team.node.Throughout Node.HasDistinctNames :=
  team.node.throughout_of_nodes _ (by decide +kernel)

/-- A team whose second member has no name: the nickname may be declared or not, and the name has
one report. -/
theorem absent_property_team :
    team.compile [] = .ok { plan := team.node.plan .root, extraParams := [] } ∧
      (∃ w, (team.withoutPropertyAt [.property "members", .items] "nick").compile [] = .ok w ∧
        w.validate teamSample [] =
          Validator.validate { plan := team.node.plan .root, extraParams := [] } teamSample []) ∧
      (team.reports { names := [], args := [] } teamSample).filter
          (Report.isWithin [.property "members", .element 1, .property "name"]) =
        [name.report { names := [], args := [] }
          [.property "members", .element 1, .property "name"] none .type
          ⟨none, name.rule.kindText⟩] := by
  have hcompile : team.compile [] = .ok { plan := team.node.plan .root, extraParams := [] } :=
    (team.compile_eq_ok_iff _ _).2 ⟨by decide +kernel, rfl⟩
  have hnick := team.absent_property [] _ hcompile [.property "members", .items] _ _ _ "nick" _ rfl
    rfl
  have hname := team.absent_property [] _ hcompile [.property "members", .items] _ _ _ "name" _ rfl
    rfl
  obtain ⟨w, hw, hsame⟩ := hnick.1 rfl
  refine ⟨hcompile, ⟨w, hw, hsame teamSample [] lacksKeyAt_teamSample⟩, ?_⟩
  refine (hname.2 rfl throughout_distinct_team teamSample [] _ _ visits_teamSample rfl ?_).2
  exact ⟨⟨_, rfl, fun _ _ _ h => nomatch h⟩, fun _ h => nomatch h⟩

example :
    (Validator.validate { plan := team.node.plan .root, extraParams := [] } teamSample []).map
        ValidationError.text = ["Property 'members/*/name' must be a string."] := by
  decide +kernel

end Demo

end DataShape
