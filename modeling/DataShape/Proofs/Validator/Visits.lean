import DataShape.Proofs.Entries
import DataShape.Proofs.Validator.Slots
import Mathlib.Data.List.Nodup

/-!
# The values that a reading visits

A reading visits a value below the input if it gets there (`Node.Visits`): every node on the way
finds nothing wrong with its value itself, and of the items of an array those behind the one that is
gone through all conform, since a scan begins at the end and stops at the first item with a report.

Reports carry trails, so those below a visited value can be picked out of the reports of an input.
They are what the node there reports of the value, no more and no less
(`Node.filter_reports_of_visits`). In the other direction, whatever is reported stands below nodes
that find nothing wrong with the values on the trail (`Node.holds_of_mem_reports`). Both need that a
trail leads to one node, so no object may declare a name twice.
-/

namespace DataShape

/-! ## Distinct names -/

/-- An object declares no name twice. -/
def Node.HasDistinctNames : Node → Prop
  | object _ _ properties => Entries.Distinct properties
  | _ => True

instance (node : Node) : Decidable node.HasDistinctNames :=
  match node with
  | .object _ _ properties => inferInstanceAs (Decidable (Entries.Distinct properties))
  | .leaf _ _ | .arrayOf _ _ _ | .tuple _ _ _ => isTrue trivial

/-- A row of moves that are made from the positions of a list has no move twice. -/
theorem nodup_map_mapIdx {α β γ : Type} (l : List α) (f : Nat → α → β) (g : β → γ) (h : Nat → γ)
    (hg : ∀ i a, g (f i a) = h i) (hinj : Function.Injective h) : ((l.mapIdx f).map g).Nodup := by
  have hrow : (l.mapIdx f).map g = (List.range' 0 l.length).map h := by
    rw [List.mapIdx_eq_zipIdx_map, List.map_map, ← List.zipIdx_map_snd 0 l, List.map_map]
    exact List.map_congr_left fun p _ => hg p.2 p.1
  rw [hrow]
  exact List.Nodup.map hinj List.nodup_range'

/-- The moves to the slots below a node are all different. -/
theorem Node.nodup_moves (node : Node) (h : node.HasDistinctNames) (v : Value) :
    ((node.slots v).map Slot.move).Nodup := by
  cases node with
  | leaf attrs rule => exact List.nodup_nil
  | arrayOf attrs lengths item =>
    exact nodup_map_mapIdx _ _ _ Move.element (fun _ _ => rfl) fun _ _ => Move.element.inj
  | tuple attrs lengths positions =>
    exact nodup_map_mapIdx _ _ _ Move.position (fun _ _ => rfl) fun _ _ => Move.position.inj
  | object attrs allowExtra properties =>
    have hnames : (properties.map Prod.fst).Nodup := h
    have hmoves := hnames.map (f := Move.property) fun _ _ => Move.property.inj
    rw [List.map_map] at hmoves
    show (List.map _ (List.map _ _)).Nodup
    rw [List.map_map]
    exact hmoves

/-- A move leads to one slot. -/
theorem Node.eq_of_move_eq (node : Node) (h : node.HasDistinctNames) (v : Value) (p q : Slot)
    (hp : p ∈ node.slots v) (hq : q ∈ node.slots v) (hmove : p.move = q.move) : p = q :=
  List.inj_on_of_nodup_map (node.nodup_moves h v) hp hq hmove

/-- A trail that goes on from a node goes through one of the slots below it, if what stands there is
present. -/
theorem Node.exists_slot_of_reaches (node target : Node) (move : Move) (below : Trail)
    (h : node.Reaches (move :: below) target) (v x : Value) (hfound : move.find? v = some x) :
    ∃ p ∈ node.slots v, p.move = move ∧ p.node.Reaches below target := by
  cases h with
  | element attrs lengths item _ i _ hbelow =>
    cases v with
    | list items =>
      obtain ⟨hi, -⟩ := List.getElem?_eq_some_iff.1 (show items[i]? = some x from hfound)
      exact ⟨_, List.mem_mapIdx.2 ⟨i, hi, rfl⟩, rfl, hbelow⟩
    | _ => cases hfound
  | position attrs lengths positions child _ i _ hchild hbelow =>
    obtain ⟨hi, rfl⟩ := List.getElem?_eq_some_iff.1 hchild
    exact ⟨_, List.mem_mapIdx.2 ⟨i, hi, rfl⟩, rfl, hbelow⟩
  | property attrs allowExtra properties child _ name _ hchild hbelow =>
    exact ⟨_, List.mem_map_of_mem hchild, rfl, hbelow⟩

/-! ## Reports and trails -/

/-- The report of a node itself stands at the end of the trail. -/
theorem Node.trail_of_report? [PatternLanguage] (node : Node) (extras : Extras) (trail : Trail)
    (value? : Option Value) (r : Report) (h : node.report? extras trail value? = some r) :
    r.trail = trail := by
  obtain ⟨c, fault, -, rfl⟩ := node.exists_fault_of_report? extras trail value? r h
  rfl

/-- Whatever is reported of a value stands at the end of its trail or below. -/
theorem Node.prefix_of_mem_reports [PatternLanguage] (node : Node) (extras : Extras) (trail : Trail)
    (value? : Option Value) (r : Report) (h : r ∈ node.reports extras trail value?) :
    trail <+: r.trail := by
  cases value? with
  | none =>
    rw [reports_none, Option.mem_toList] at h
    exact (node.trail_of_report? extras trail none r h).symm ▸ List.prefix_refl trail
  | some v =>
    obtain ⟨below, target, value?, c, fault, -, -, -, rfl⟩ :=
      node.madeBelow_of_mem_reports extras trail v r h
    exact List.prefix_append trail below

/-- Lists that go on differently after the same front are not in front of one list. -/
theorem next_eq_of_prefix {α : Type} (front whole : List α) (a b : α)
    (h : front ++ [a] <+: whole) (h' : front ++ [b] <+: whole) : a = b := by
  have hlength : (front ++ [a]).length = (front ++ [b]).length := by simp
  have heq := (List.prefix_of_prefix_length_le h h' (Nat.le_of_eq hlength)).eq_of_length hlength
  exact List.singleton_inj.1 (List.append_cancel_left heq)

/-- What comes of several lists is in one of them. -/
theorem exists_mem_of_mem_gather {α : Type} (shared : Bool) (lists : List (List α)) (a : α)
    (h : a ∈ gather shared lists) : ∃ list ∈ lists, a ∈ list := by
  cases shared with
  | false => exact List.mem_flatten.1 h
  | true => exact exists_mem_of_mem_lastNonempty lists a h

/-- What is reported below a node is reported of one of the slots that are read. -/
theorem Node.exists_slot_of_mem_reports [PatternLanguage]
    (node : Node) (extras : Extras) (trail : Trail) (v : Value)
    (r : Report) (hholds : node.Holds extras v) (h : r ∈ node.reports extras trail (some v)) :
    ∃ p ∈ node.readSlots v, r ∈ p.reports extras trail := by
  rw [node.reports_of_holds extras trail v hholds] at h
  obtain ⟨list, hlist, hr⟩ := exists_mem_of_mem_gather _ _ r h
  obtain ⟨p, hp, rfl⟩ := List.mem_map.1 hlist
  exact ⟨p, hp, hr⟩

/-- A report of a slot stands behind the move to it. -/
theorem Slot.prefix_of_mem_reports [PatternLanguage]
    (p : Slot) (extras : Extras) (trail : Trail) (r : Report)
    (h : r ∈ p.reports extras trail) : trail ++ [p.move] <+: r.trail :=
  p.node.prefix_of_mem_reports extras _ p.value? r h

/-- A node that reports itself reports nothing further down. -/
theorem Node.holds_of_mem_reports_further [PatternLanguage]
    (node : Node) (extras : Extras) (trail below : Trail)
    (v : Value) (r : Report) (hr : r ∈ node.reports extras trail (some v))
    (hthrough : trail ++ below <+: r.trail) (hne : r.trail ≠ trail ++ below) :
    node.Holds extras v := by
  rw [← node.report?_eq_none_iff extras trail v]
  cases hreport : node.report? extras trail (some v) with
  | none => rfl
  | some own =>
    rw [node.reports_of_report? extras trail _ own hreport, List.mem_singleton] at hr
    rw [hr, node.trail_of_report? extras trail _ own hreport] at hthrough hne
    -- The trail of the report is no longer than that of the node, so it is the same.
    exact absurd (hthrough.eq_of_length_le (List.prefix_append trail below).length_le).symm hne

/-- Nothing is reported below a value that the node there finds something wrong with itself. -/
theorem Node.holds_of_mem_reports [PatternLanguage]
    (below : Trail) : ∀ (node target : Node) (extras : Extras)
    (trail : Trail) (v x : Value) (r : Report), node.Throughout HasDistinctNames →
      node.Reaches below target → v.Leads below (some x) →
      r ∈ node.reports extras trail (some v) → trail ++ below <+: r.trail →
      r.trail ≠ trail ++ below → target.Holds extras x := by
  induction below with
  | nil =>
    intro node target extras trail v x r _ hreaches hleads hr hthrough hne
    cases hreaches
    cases hleads
    exact node.holds_of_mem_reports_further extras trail [] v r hr hthrough hne
  | cons move below ih =>
    intro node target extras trail v x r hdistinct hreaches hleads hr hthrough hne
    have hholds :=
      node.holds_of_mem_reports_further extras trail (move :: below) v r hr hthrough hne
    obtain ⟨p, hp, hrp⟩ := node.exists_slot_of_mem_reports extras trail v r hholds hr
    have hpslot := node.mem_slots_of_mem_readSlots v p hp
    cases hleads with
    | present _ y _ _ _ hfound hbelow =>
      obtain ⟨q, hq, rfl, hqreaches⟩ :=
        node.exists_slot_of_reaches target move below hreaches v y hfound
      rw [← List.singleton_append, ← List.append_assoc] at hthrough hne
      have hmove : p.move = q.move := next_eq_of_prefix trail r.trail _ _
        (p.prefix_of_mem_reports extras trail r hrp) ((List.prefix_append _ _).trans hthrough)
      obtain rfl := node.eq_of_move_eq hdistinct.own v p q hpslot hq hmove
      have hvalue := node.value?_of_mem_slots v p hpslot
      unfold Slot.reports at hrp
      rw [hvalue, hfound] at hrp
      exact ih p.node target extras (trail ++ [p.move]) y x r (hdistinct.of_mem_slots v p hpslot)
        hqreaches hbelow hrp hthrough hne

/-! ## Visits -/

/-- A reading of a node at a value visits a node below at a value below. -/
inductive Node.Visits [PatternLanguage]
    (extras : Extras) : Node → Value → Trail → Node → Value → Prop
  | here (node : Node) (v : Value) : Visits extras node v [] node v
  | through (node target : Node) (v x y : Value) (p : Slot) (front back : List Slot) (trail : Trail)
      (holds : node.Holds extras v) (read : node.readSlots v = front ++ p :: back)
      (behind : node.sharesItem = true → ∀ q ∈ back, q.node.Fits extras q.value?)
      (found : p.value? = some x) (onward : Visits extras p.node x trail target y) :
      Visits extras node v (p.move :: trail) target y

/-- Of the last nonempty list only what is in one of the lists passes, if nothing passes of those in
front and those behind are empty. -/
theorem filter_lastNonempty {α : Type} (f : α → Bool) (list : List α) (back : List (List α))
    (hback : ∀ l ∈ back, l = []) (front : List (List α)) (hfront : ∀ l ∈ front, l.filter f = []) :
    (lastNonempty (front ++ list :: back)).filter f = list.filter f := by
  induction front with
  | nil =>
    rw [List.nil_append, lastNonempty_cons, (lastNonempty_eq_nil_iff back).2 hback]
  | cons l front ih =>
    rw [List.forall_mem_cons] at hfront
    have hrest := ih hfront.2
    rw [List.cons_append, lastNonempty_cons]
    cases hlast : lastNonempty (front ++ list :: back) with
    | nil =>
      rw [hlast] at hrest
      exact hfront.1.trans hrest
    | cons a found =>
      rw [hlast] at hrest
      exact hrest

/-- Of lists put together only what is in one of them passes, if nothing passes of the others. -/
theorem filter_flatten_of_forall {α : Type} (f : α → Bool) (list : List α)
    (front back : List (List α)) (hfront : ∀ l ∈ front, l.filter f = [])
    (hback : ∀ l ∈ back, l.filter f = []) :
    (front ++ list :: back).flatten.filter f = list.filter f := by
  have hnone (lists : List (List α)) (h : ∀ l ∈ lists, l.filter f = []) :
      lists.flatten.filter f = [] := by
    rw [List.filter_flatten, List.flatten_eq_nil_iff, List.forall_mem_map]
    exact h
  rw [List.flatten_append, List.flatten_cons, List.filter_append, List.filter_append,
    hnone _ hfront, hnone _ hback, List.nil_append, List.append_nil]

/-- Of the reports of a node those behind a slot are the reports of the slot, if the slot is read
and, when it is shared, those behind it have nothing to report. -/
theorem Node.filter_reports_of_slot [PatternLanguage]
    (node : Node) (extras : Extras) (trail : Trail) (v : Value)
    (hdistinct : node.HasDistinctNames) (hholds : node.Holds extras v) (p : Slot)
    (front back : List Slot) (hread : node.readSlots v = front ++ p :: back)
    (hbehind : node.sharesItem = true → ∀ q ∈ back, q.node.Fits extras q.value?) (f : Report → Bool)
    (hf : ∀ r, f r = true → trail ++ [p.move] <+: r.trail) :
    (node.reports extras trail (some v)).filter f = (p.reports extras trail).filter f := by
  have hmem (q : Slot) (hq : q ∈ front ++ p :: back) : q ∈ node.slots v :=
    node.mem_slots_of_mem_readSlots v q (hread ▸ hq)
  have hmoves : ((front ++ p :: back).map Slot.move).Nodup :=
    hread ▸ (node.nodup_moves hdistinct v).sublist (List.filter_sublist.map Slot.move)
  rw [List.map_append, List.map_cons, List.nodup_append, List.nodup_cons] at hmoves
  -- The other slots report nothing behind the move to `p`.
  have hother (q : Slot) (hne : q.move ≠ p.move) : (q.reports extras trail).filter f = [] := by
    refine List.filter_eq_nil_iff.2 fun r hr hfr => hne ?_
    exact next_eq_of_prefix trail r.trail _ _ (q.prefix_of_mem_reports extras trail r hr) (hf r hfr)
  have hfront : ∀ l ∈ front.map (Slot.reports extras trail), l.filter f = [] := by
    refine List.forall_mem_map.2 fun q hq => hother q ?_
    exact hmoves.2.2 _ (List.mem_map_of_mem hq) _ List.mem_cons_self
  have hback : ∀ l ∈ back.map (Slot.reports extras trail), l.filter f = [] := by
    refine List.forall_mem_map.2 fun q hq => hother q fun heq => ?_
    exact hmoves.2.1.1 (heq ▸ List.mem_map_of_mem hq)
  rw [node.reports_of_holds extras trail v hholds, hread, List.map_append, List.map_cons]
  cases hshared : node.sharesItem with
  | false => exact filter_flatten_of_forall f _ _ _ hfront hback
  | true =>
    refine filter_lastNonempty f _ _ (List.forall_mem_map.2 fun q hq => ?_) _ hfront
    have hqread : q ∈ node.readSlots v :=
      hread ▸ List.mem_append_right front (List.mem_cons_of_mem p hq)
    exact (q.reports_eq_nil_iff extras trail ((node.mem_readSlots_iff v q).1 hqread).2).2
      (hbehind hshared q hq)

/-- Of the reports of a node those below a visited value are what the node there reports of it. -/
theorem Node.filter_reports_of_visits [PatternLanguage]
    (extras : Extras) (node target : Node) (v x : Value)
    (below : Trail) (h : node.Visits extras v below target x) : ∀ (trail : Trail)
      (f : Report → Bool), node.Throughout HasDistinctNames →
      (∀ r, f r = true → trail ++ below <+: r.trail) →
      (node.reports extras trail (some v)).filter f =
        (target.reports extras (trail ++ below) (some x)).filter f := by
  induction h with
  | here node v =>
    intro trail f _ _
    rw [List.append_nil]
  | through node target v x y p front back below hholds hread hbehind hfound _ ih =>
    intro trail f hdistinct hf
    have hp : p ∈ node.slots v :=
      node.mem_slots_of_mem_readSlots v p (hread ▸ List.mem_append_right front List.mem_cons_self)
    rw [← List.singleton_append, ← List.append_assoc] at hf ⊢
    rw [node.filter_reports_of_slot extras trail v hdistinct.own hholds p front back hread hbehind f
      fun r hr => (List.prefix_append _ _).trans (hf r hr)]
    unfold Slot.reports
    rw [hfound]
    exact ih (trail ++ [p.move]) f (hdistinct.of_mem_slots v p hp) hf

end DataShape
