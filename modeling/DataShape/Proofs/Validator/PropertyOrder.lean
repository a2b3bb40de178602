import DataShape.Proofs.Schema.Reordering
import DataShape.Proofs.Validator.Lockstep
import DataShape.Proofs.Validator.Visits
import Mathlib.Data.List.Perm.Basic

/-!
# The order of properties is the order of errors and nothing else

Two schemas that differ in the order of their properties have the same errors in another order
(`Schema.property_order`). Below an object the failing properties come in the order of declaration.
Anywhere else only it matters whether there are errors: a node reports itself, or the last item of an
array is chosen, alike on both sides. The list stays the same if, wherever the order of the properties
has been changed, at most one of them fails.

For the first part the reports are compared up to their order (`Node.reports_perm`), for the second as
they are (`Node.reports_eq_of_oneFails`). Both are inductions over the nodes of one schema, and both
take one step down to slots that are related one by one and then put into another order
(`Node.Reordered.readSlots_reordered`).
-/

namespace DataShape

/-! ## Lists in another order -/

/-- The keys that are not allowed are the same in any order of those that are. -/
theorem Value.undeclaredKey?_eq_of_perm (v : Value) (allowed allowed' : List String)
    (h : allowed.Perm allowed') : v.undeclaredKey? allowed = v.undeclaredKey? allowed' := by
  have hcontains (key : String) : allowed.contains key = allowed'.contains key := h.contains_eq
  unfold undeclaredKey?
  simp only [hcontains]

/-- The last nonempty lists are the same up to their order if the lists are, one by one. -/
theorem lastNonempty_perm {α : Type} (lists lists' : List (List α))
    (h : List.Forall₂ List.Perm lists lists') :
    (lastNonempty lists).Perm (lastNonempty lists') := by
  induction h with
  | nil => exact .nil
  | @cons list list' lists lists' hlist _ ih =>
    rw [lastNonempty_cons, lastNonempty_cons]
    -- A later list is chosen on both sides or on neither.
    cases hlast : lastNonempty lists with
    | nil =>
      rw [hlast, List.nil_perm] at ih
      rw [ih]
      exact hlist
    | cons a found =>
      rw [hlast] at ih
      cases hlast' : lastNonempty lists' with
      | nil =>
        rw [hlast', List.perm_nil] at ih
        cases ih
      | cons b found' =>
        rw [hlast'] at ih
        exact ih

/-- Lists put together in another order are the same if at most one of them is nonempty. -/
theorem flatten_eq_of_perm {α : Type} {lists lists' : List (List α)} (h : lists.Perm lists')
    (hone : lists.Pairwise fun a b => a = [] ∨ b = []) : lists.flatten = lists'.flatten := by
  induction h with
  | nil => rfl
  | cons list _ ih =>
    rw [List.flatten_cons, List.flatten_cons, ih (List.pairwise_cons.1 hone).2]
  | swap list list' lists =>
    -- Of the two that change places one is empty.
    have hnone := (List.pairwise_cons.1 hone).1 list List.mem_cons_self
    simp only [List.flatten_cons]
    rcases hnone with rfl | rfl
    · rfl
    · rfl
  | trans hfirst _ ih ih' =>
    have hsymm : ∀ {a b : List α}, a = [] ∨ b = [] → b = [] ∨ a = [] := Or.symm
    rw [ih hone, ih' (hfirst.pairwise hone hsymm)]

/-- A list that is put into another order stays the same if its images do and are all different. -/
theorem eq_of_perm_of_map_eq {α β : Type} (f : α → β) {l l' : List α} (h : l.Perm l')
    (hmap : l.map f = l'.map f) (hnodup : (l.map f).Nodup) : l = l' := by
  refine List.ext_getElem h.length_eq fun i hi hi' => ?_
  have himage : f l[i] = f l'[i] := by
    rw [← List.getElem_map f (h := by simpa using hi), ← List.getElem_map f (h := by simpa using hi')]
    simp only [hmap]
  exact List.inj_on_of_nodup_map hnodup (List.getElem_mem hi)
    (h.mem_iff.2 (List.getElem_mem hi')) himage

/-- Elements that go together one by one stand in their lists. -/
theorem forall₂_and_mem {α β : Type} {R : α → β → Prop} {l : List α} {l' : List β}
    (h : List.Forall₂ R l l') : List.Forall₂ (fun a b => R a b ∧ a ∈ l ∧ b ∈ l') l l' := by
  obtain ⟨hlength, hzip⟩ := List.forall₂_iff_zip.1 h
  exact List.forall₂_iff_zip.2 ⟨hlength, fun hab => ⟨hzip hab, List.of_mem_zip hab⟩⟩

/-! ## One node -/

namespace Node

/-- At most one of the slots below the node at a value holds what does not fit. -/
def AtMostOneFails [PatternLanguage] (extras : Extras) (node : Node) (v : Value) : Prop :=
  ∀ p ∈ node.slots v, ∀ q ∈ node.slots v,
    ¬ p.node.Fits extras p.value? → ¬ q.node.Fits extras q.value? → p.move = q.move

namespace Reordered

variable {node node' : Node} (h : Reordered node node')

include h

/-- Both nodes find the same fault under each constraint. -/
theorem fault?_eq [PatternLanguage] (extras : Extras) (value? : Option Value) (c : Constraint) :
    node.fault? extras value? c = node'.fault? extras value? c := by
  have hrule : node.rule.kindText = node'.rule.kindText ∧
      ∀ v c, node.rule.fault? v c = node'.rule.fault? v c := by
    rcases h.rule_eq_or with heq | ⟨allowed, allowed', heq, heq', hperm⟩
    · rw [heq]
      exact ⟨rfl, fun _ _ => rfl⟩
    · rw [heq, heq']
      refine ⟨rfl, fun v c => ?_⟩
      cases c with
      | extra =>
        show (v.undeclaredKey? allowed).map _ = (v.undeclaredKey? allowed').map _
        rw [v.undeclaredKey?_eq_of_perm allowed allowed' hperm]
      | _ => rfl
  cases value? with
  | none => rw [fault?_none, fault?_none, hrule.1]
  | some v =>
    by_cases hc : c = .validator
    · unfold fault?
      rw [hc, h.attrs_eq]
    · rw [node.fault?_of_ne_validator extras v c hc, node'.fault?_of_ne_validator extras v c hc,
        hrule.2]

/-- Both nodes report the same themselves. -/
theorem report?_eq [PatternLanguage] (extras : Extras) (trail : Trail) (value? : Option Value) :
    node.report? extras trail value? = node'.report? extras trail value? :=
  node.report?_congr node' (congrArg Attributes.errors h.attrs_eq) extras trail value?
    (h.fault?_eq extras value?)

/-- Both nodes find nothing wrong with a value itself, or neither does. -/
theorem holds_iff [PatternLanguage]
    (extras : Extras) (v : Value) : node.Holds extras v ↔ node'.Holds extras v := by
  rw [← node.report?_eq_none_iff extras [] v, ← node'.report?_eq_none_iff extras [] v, h.report?_eq]

/-- The slots go together one by one, and are then put into another order. If the names of the
properties stand in the same order, so do the slots. -/
theorem slots_reordered (v : Value) :
    ∃ between, List.Forall₂ (fun p p' : Slot => p.move = p'.move ∧ p'.value? = p.value? ∧
        Reordered p.node p'.node) (node.slots v) between ∧
      between.Perm (node'.slots v) ∧
      (node.HasDistinctNames → node.propertyNames = node'.propertyNames →
        between = node'.slots v) := by
  cases h with
  | leaf => exact ⟨[], .nil, .nil, fun _ _ => rfl⟩
  | arrayOf _ _ item item' below =>
    refine ⟨_, ?_, .refl _, fun _ _ => rfl⟩
    exact forall₂_mapIdx _ _ (v.list?.getD []) fun _ _ _ => ⟨rfl, rfl, below⟩
  | tuple _ _ positions positions' below =>
    refine ⟨_, ?_, .refl _, fun _ _ => rfl⟩
    exact forall₂_mapIdx_of_forall₂ below fun i child child' hchild => ⟨rfl, rfl, hchild⟩
  | object _ _ properties between properties' names below order =>
    refine ⟨between.map fun e => ⟨.property e.1, e.2, v.get? e.1⟩, ?_, order.map _, ?_⟩
    · show List.Forall₂ _ (List.map _ _) (List.map _ _)
      rw [List.forall₂_map_left_iff, List.forall₂_map_right_iff]
      refine (Entries.forall₂_of_keys_eq properties between names below).imp ?_
      rintro ⟨name, child⟩ ⟨name', child'⟩ ⟨rfl, hchild⟩
      exact ⟨rfl, rfl, hchild⟩
    · intro hdistinct hnames
      have hkeys : Entries.keys between = Entries.keys properties' := names.symm.trans hnames
      have hnodup : (Entries.keys between).Nodup := names ▸ hdistinct
      exact congrArg (List.map _) (eq_of_perm_of_map_eq Prod.fst order hkeys hnodup)

/-- The same for the slots that are read. -/
theorem readSlots_reordered (v : Value) :
    ∃ between, List.Forall₂ (fun p p' : Slot => p.move = p'.move ∧ p'.value? = p.value? ∧
        Reordered p.node p'.node) (node.readSlots v) between ∧
      between.Perm (node'.readSlots v) ∧
      (node.HasDistinctNames → node.propertyNames = node'.propertyNames →
        between = node'.readSlots v) := by
  obtain ⟨between, hslots, horder, hsame⟩ := h.slots_reordered v
  refine ⟨between.filter fun p => !p.isPassedOver, List.rel_filter (fun p p' hp => ?_) hslots,
    horder.filter _, fun hdistinct hnames => ?_⟩
  · show (!p.isPassedOver) = true ↔ (!p'.isPassedOver) = true
    rw [p.isPassedOver_congr p' (congrArg Attributes.optional hp.2.2.attrs_eq)
      (congrArg Option.isNone hp.2.1.symm)]
  · unfold readSlots
    rw [hsame hdistinct hnames]

/-- Slots that share their node stay in their order. -/
theorem propertyNames_eq_of_sharesItem (hshared : node.sharesItem = true) :
    node.HasDistinctNames ∧ node.propertyNames = node'.propertyNames := by
  cases h with
  | arrayOf => exact ⟨trivial, rfl⟩
  | _ => cases hshared

end Reordered

/-! ## Whole trees -/

/-- What comes of lists is the same up to its order, if the lists are the same up to theirs, and then,
unless they are shared, are put into another order. -/
theorem gather_perm {α : Type} (shared : Bool) (lists between lists' : List (List α))
    (h : List.Forall₂ List.Perm lists between) (horder : between.Perm lists')
    (hshared : shared = true → between = lists') :
    (gather shared lists).Perm (gather shared lists') := by
  cases shared with
  | true => exact hshared rfl ▸ lastNonempty_perm lists between h
  | false => exact (List.Perm.flatten_congr h).trans horder.flatten

/-- Trees that differ in the order of their properties have the same reports up to their order. -/
theorem reports_perm [PatternLanguage]
    (extras : Extras) (node : Node) : ∀ (node' : Node) (trail : Trail)
    (value? : Option Value), Reordered node node' →
      (node.reports extras trail value?).Perm (node'.reports extras trail value?) := by
  induction node using Node.inductionOnChildren with
  | step node ih =>
    intro node' trail value? h
    have hown := h.report?_eq extras trail value?
    cases hreport : node.report? extras trail value? with
    | some r =>
      rw [node.reports_of_report? extras trail value? r hreport,
        node'.reports_of_report? extras trail value? r (hown.symm.trans hreport)]
    | none =>
      obtain ⟨v, rfl⟩ := node.exists_of_report?_eq_none extras trail value? hreport
      have hholds := (node.report?_eq_none_iff extras trail v).1 hreport
      obtain ⟨between, hslots, horder, hsame⟩ := h.readSlots_reordered v
      rw [node.reports_of_holds extras trail v hholds,
        node'.reports_of_holds extras trail v ((h.holds_iff extras v).1 hholds), ← h.sharesItem_eq]
      refine gather_perm _ _ (between.map (Slot.reports extras trail)) _ ?_ (horder.map _)
        fun hshared => ?_
      · -- What goes together one by one is reported alike, by induction.
        rw [List.forall₂_map_left_iff, List.forall₂_map_right_iff]
        refine (forall₂_and_mem hslots).imp fun p p' hrelated => ?_
        obtain ⟨⟨hmove, hvalue, hbelow⟩, hp, -⟩ := hrelated
        have hchild := node.mem_children_of_mem_slots v p (node.mem_slots_of_mem_readSlots v p hp)
        unfold Slot.reports
        rw [← hmove, hvalue]
        exact ih p.node hchild p'.node (trail ++ [p.move]) p.value? hbelow
      · obtain ⟨hdistinct, hnames⟩ := h.propertyNames_eq_of_sharesItem hshared
        rw [hsame hdistinct hnames]

/-- Of the slots that are read at most one reports something, if at most one fails. -/
theorem AtMostOneFails.pairwise [PatternLanguage] {extras : Extras} {node : Node} {v : Value}
    (h : node.AtMostOneFails extras v) (hdistinct : node.HasDistinctNames) (trail : Trail) :
    ((node.readSlots v).map (Slot.reports extras trail)).Pairwise fun a b => a = [] ∨ b = [] := by
  have hmoves : ((node.readSlots v).map Slot.move).Nodup :=
    (node.nodup_moves hdistinct v).sublist (List.filter_sublist.map Slot.move)
  rw [List.pairwise_map]
  refine (List.pairwise_map.1 hmoves).imp_of_mem fun {p q} hp hq hne => ?_
  obtain ⟨hpslot, hpread⟩ := (node.mem_readSlots_iff v p).1 hp
  obtain ⟨hqslot, hqread⟩ := (node.mem_readSlots_iff v q).1 hq
  rw [p.reports_eq_nil_iff extras trail hpread, q.reports_eq_nil_iff extras trail hqread]
  by_contra hboth
  obtain ⟨hpfails, hqfails⟩ := not_or.1 hboth
  exact hne (h p hpslot q hqslot hpfails hqfails)

/-- Wherever two trees declare properties in different orders, at most one property fails at any value
that is visited there, unless something is wrong with the value itself. -/
def OneFailsWhereReordered [PatternLanguage]
    (extras : Extras) (node node' : Node) (v : Value) : Prop :=
  ∀ trail target target' x, node.Visits extras v trail target x → node'.Reaches trail target' →
    target.propertyNames ≠ target'.propertyNames → target.Holds extras x →
      target.AtMostOneFails extras x

/-- What goes wrong only once where orders are different does so below a slot that is read as well. -/
theorem OneFailsWhereReordered.of_slot [PatternLanguage]
    {extras : Extras} {node node' : Node} {v x : Value}
    (h : OneFailsWhereReordered extras node node' v) (p p' : Slot) (front back : List Slot)
    (hholds : node.Holds extras v) (hread : node.readSlots v = front ++ p :: back)
    (hbehind : node.sharesItem = true → ∀ q ∈ back, q.node.Fits extras q.value?)
    (hfound : p.value? = some x) (hp' : p' ∈ node'.slots v) (hmove : p.move = p'.move) :
    OneFailsWhereReordered extras p.node p'.node x := by
  intro trail target target' y hvisits hreaches
  have hreaches' : node'.Reaches (p.move :: trail) target' :=
    hmove ▸ node'.reaches_of_mem_slots v p' hp' trail target' hreaches
  exact h (p.move :: trail) target target' y
    (.through node target v x y p front back trail hholds hread hbehind hfound hvisits) hreaches'

/-- Trees that differ in the order of their properties have the same reports, if at most one property
fails wherever the orders are different. -/
theorem reports_eq_of_oneFails [PatternLanguage]
    (extras : Extras) (node : Node) : ∀ (node' : Node) (trail : Trail)
    (v : Value), Reordered node node' → node.Throughout HasDistinctNames →
      OneFailsWhereReordered extras node node' v →
      node.reports extras trail (some v) = node'.reports extras trail (some v) := by
  induction node using Node.inductionOnChildren with
  | step node ih =>
    intro node' trail v h hdistinct hone
    have hown := h.report?_eq extras trail (some v)
    cases hreport : node.report? extras trail (some v) with
    | some r =>
      rw [node.reports_of_report? extras trail _ r hreport,
        node'.reports_of_report? extras trail _ r (hown.symm.trans hreport)]
    | none =>
      have hholds := (node.report?_eq_none_iff extras trail v).1 hreport
      obtain ⟨between, hslots, horder, hsame⟩ := h.readSlots_reordered v
      rw [node.reports_of_holds extras trail v hholds,
        node'.reports_of_holds extras trail v ((h.holds_iff extras v).1 hholds), ← h.sharesItem_eq]
      -- Two slots that go together are reported alike, if what stands behind the first one fits.
      have hmatched : Matched extras (fun child value? child' value?' => ∀ trail,
          child.reports extras trail value? = child'.reports extras trail value?') node.sharesItem
          (node.readSlots v) between := by
        refine .of_splits (forall₂_and_mem hslots) (fun p p' hp => hp.1.1) ?_
        rintro front p back p' hread ⟨⟨hmove, hvalue, hnodes⟩, hp, hp'⟩ hbehind trail
        have hpslot := node.mem_slots_of_mem_readSlots v p hp
        have hpslot' := node'.mem_slots_of_mem_readSlots v p' (horder.mem_iff.1 hp')
        rw [hvalue]
        cases hfound : p.value? with
        | none => rw [reports_none, reports_none, hnodes.report?_eq]
        | some x =>
          exact ih p.node (node.mem_children_of_mem_slots v p hpslot) p'.node trail x hnodes
            (hdistinct.of_mem_slots v p hpslot)
            (hone.of_slot p p' front back hholds hread hbehind hfound hpslot' hmove)
      by_cases hnames : node.propertyNames = node'.propertyNames
      · -- The slots stand in the same order.
        have hgather := hmatched.gather_eq id trail
          (fun p hp => ((node.mem_readSlots_iff v p).1 hp).2) fun p hp p' hmove hreports => by
            unfold Slot.reports
            rw [hmove, hreports]
        simp only [List.map_id] at hgather
        rw [hgather, hsame hdistinct.own hnames]
      · -- The slots are those of an object, and at most one of them has anything to report.
        have hone' := hone [] node node' v (.here node v) (.here node') hnames hholds
        have hshared : node.sharesItem = false :=
          Bool.eq_false_iff.2 fun hshared => hnames (h.propertyNames_eq_of_sharesItem hshared).2
        rw [hshared] at hmatched ⊢
        have hlists : (node.readSlots v).map (Slot.reports extras trail) =
            between.map (Slot.reports extras trail) := by
          refine List.forall₂_eq_eq_eq ▸ ?_
          rw [List.forall₂_map_left_iff, List.forall₂_map_right_iff]
          refine hmatched.forall₂.imp fun p p' hp => ?_
          unfold Slot.reports
          rw [hp.1, hp.2]
        have hpairwise := hone'.pairwise hdistinct.own trail
        rw [hlists] at hpairwise ⊢
        exact flatten_eq_of_perm (horder.map _) hpairwise

end Node

/-! ## Schemas -/

/-- The order of properties. Let two schemas differ only in the order in which the root and the objects
below it declare their properties. Then both compile or neither does, and all inputs have the same
errors up to their order. The order is the same as well if, wherever the two schemas declare properties
in different orders, at most one property fails at any object that is visited there. -/
theorem Schema.property_order [PatternLanguage] (s s' : Schema) (extraParams : List String)
    (h : s.node.Reordered s'.node) :
    ((∃ v, s.compile extraParams = .ok v) ↔ ∃ v', s'.compile extraParams = .ok v') ∧
    ∀ v v', s.compile extraParams = .ok v → s'.compile extraParams = .ok v' →
      ∀ (input : Value) (args : List Value),
        (v.validate input args).Perm (v'.validate input args) ∧
        (s.node.Throughout Node.HasDistinctNames →
          Node.OneFailsWhereReordered { names := extraParams, args } s.node s'.node input →
            v.validate input args = v'.validate input args) := by
  constructor
  · rw [compiles_iff, compiles_iff, Node.Reordered.allConfigured_iff s.node s'.node h]
  · intro v v' hv hv' input args
    rw [s.validate_eq extraParams v hv, s'.validate_eq extraParams v' hv']
    constructor
    · have hreports := Node.reports_perm { names := extraParams, args } s.node s'.node [] (some input)
      exact (hreports h).map Report.error
    · intro hdistinct hone
      have hreports := s.node.reports_eq_of_oneFails { names := extraParams, args } s'.node [] input
      exact congrArg (List.map Report.error) (hreports h hdistinct hone)

namespace Demo

/-- The sizes of boxes, with their sides in a given order. -/
def sizes (sides : List String) : Node :=
  .ofArray (.each (.ofObject (sides.map fun side =>
    .own (.property side (.ofNumber .integer [.own (.min (.ofNat 1))]))))) [.optional]

/-- A parcel of a label and the sizes of the boxes in it. -/
def parcel : Schema :=
  .ofSettings [.property "label" name, .property "sizes" (sizes ["width", "height"])]

/-- The same with all properties the other way round. -/
def turnedParcel : Schema :=
  .ofSettings [.property "sizes" (sizes ["height", "width"]), .property "label" name]

/-- A parcel with a label that is too long. -/
def parcelSample : Value := .ofEntries [("label", toValue "A box with books")]

/-- The parcels differ in the order of their properties, at the root and below the items. -/
theorem reordered_parcel : parcel.node.Reordered turnedParcel.node := by
  have hsizes : (sizes ["width", "height"]).Reordered (sizes ["height", "width"]) :=
    .arrayOf _ _ _ _ (.object _ _ [(_, _), (_, _)] [(_, _), (_, _)] [(_, _), (_, _)] rfl
      (.cons (.leaf _ _) (.cons (.leaf _ _) .nil)) (.swap _ _ _))
  exact .object _ _ _ [("label", name), ("sizes", sizes ["height", "width"])] _ rfl
    (.cons (.leaf _ _) (.cons hsizes .nil)) (.swap _ _ _)

/-- The label is the only property of the parcel that fails. -/
theorem oneFailsWhereReordered_parcelSample : Node.OneFailsWhereReordered { names := [], args := [] }
    parcel.node turnedParcel.node parcelSample := by
  have hroot : ∀ p ∈ parcel.node.slots parcelSample,
      ¬ p.node.Fits { names := [], args := [] } p.value? → p.move = .property "label" := by
    rintro p (_ | ⟨_, _ | ⟨_, ⟨⟩⟩⟩) hfails
    · rfl
    · exact absurd (.absent _ rfl) hfails
  intro trail target target' x hvisits hreaches hnames hholds
  cases hvisits with
  | here => exact fun p hp q hq hpfails hqfails =>
      (hroot p hp hpfails).trans (hroot q hq hqfails).symm
  | through _ _ _ y _ p front back rest _ hread hbehind hfound hbelow =>
    -- Below the root only the label is visited, which declares nothing.
    refine absurd ?_ hnames
    have hp : p ∈ parcel.node.slots parcelSample :=
      Node.mem_slots_of_mem_readSlots _ _ _ (hread ▸ List.mem_append_right front List.mem_cons_self)
    have hlabel : ∀ e ∈ turnedParcel.properties, e.1 = "label" → e.2 = name := by
      rintro e (_ | ⟨_, _ | ⟨_, ⟨⟩⟩⟩) he
      · exact absurd he (by decide)
      · rfl
    obtain _ | ⟨_, _ | ⟨_, ⟨⟩⟩⟩ := hp
    · cases hbelow with
      | here =>
        cases hreaches with
        | property _ _ _ child _ _ _ hchild hreaches' =>
          cases hreaches' with
          | here => exact hlabel _ hchild rfl ▸ rfl
      | through _ _ _ _ _ q front' _ _ _ hread' => cases front' <;> cases hread'
    · cases hfound

/-- The parcels have the same errors up to their order, and those of the sample are the same. -/
theorem property_order_parcel :
    parcel.node.Reordered turnedParcel.node ∧
      parcel.compile [] = .ok { plan := parcel.node.plan .root, extraParams := [] } ∧
      turnedParcel.compile [] = .ok { plan := turnedParcel.node.plan .root, extraParams := [] } ∧
      (∀ input, (Validator.validate { plan := parcel.node.plan .root, extraParams := [] } input
          []).Perm
        (Validator.validate { plan := turnedParcel.node.plan .root, extraParams := [] } input [])) ∧
      Validator.validate { plan := parcel.node.plan .root, extraParams := [] } parcelSample [] =
        Validator.validate { plan := turnedParcel.node.plan .root, extraParams := [] } parcelSample
          [] := by
  have hcompile : parcel.compile [] = .ok { plan := parcel.node.plan .root, extraParams := [] } :=
    (parcel.compile_eq_ok_iff _ _).2 ⟨by decide +kernel, rfl⟩
  have hturned : turnedParcel.compile [] =
      .ok { plan := turnedParcel.node.plan .root, extraParams := [] } :=
    (turnedParcel.compile_eq_ok_iff _ _).2 ⟨by decide +kernel, rfl⟩
  have horder := (parcel.property_order turnedParcel [] reordered_parcel).2 _ _ hcompile hturned
  refine ⟨reordered_parcel, hcompile, hturned, fun input => (horder input []).1, ?_⟩
  have hsizes : (sizes ["width", "height"]).Throughout Node.HasDistinctNames := by
    refine (Node.throughout_iff _ _).2 ⟨trivial, List.forall_mem_singleton.2 ?_⟩
    refine (Node.throughout_iff _ _).2 ⟨by show List.Nodup _; decide, ?_⟩
    rintro child (_ | ⟨_, _ | ⟨_, ⟨⟩⟩⟩) <;> exact Node.throughout_leaf _ _ _ trivial
  have hdistinct : parcel.node.Throughout Node.HasDistinctNames := by
    refine (Node.throughout_iff _ _).2 ⟨by show List.Nodup _; decide, ?_⟩
    rintro child (_ | ⟨_, _ | ⟨_, ⟨⟩⟩⟩)
    · exact Node.throughout_leaf _ _ _ trivial
    · exact hsizes
  exact (horder parcelSample []).2 hdistinct oneFailsWhereReordered_parcelSample

end Demo

end DataShape
