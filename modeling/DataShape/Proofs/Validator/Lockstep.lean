import DataShape.Proofs.Validator.Slots
import Mathlib.Data.List.Forall2

/-!
# Two readings in lockstep

Two schemas are read against two inputs, and something is observed of each report: the report
itself, or only its error. Take a relation between a node with its value on one side and a node with
its value on the other. The relation is a `Lockstep` if related nodes report alike themselves, and
if, when they find nothing wrong, the slots that are read below them go together one by one and hold
related nodes and values again. Then the same is observed of both readings (`Lockstep.reports_eq`).

So a theorem about two readings needs a relation and what one step down does to it, and no induction
of its own. Slots that share a node are read from the last to the first, and those in front of a
report are not looked at. They need not be related: `Matched` asks for it only if all slots behind
fit.
-/

namespace DataShape

/-! ## What two nodes report themselves -/

/-- What the predicate of a node says of a value that it refuses, if there is a predicate. -/
def Attributes.refusal? (attrs : Attributes) (v : Value) (extras : Extras) : Option Value :=
  attrs.validator?.bind fun p => p.refusal? v extras

/-- The fault under a predicate is a refusal. -/
theorem Node.fault?_validator [PatternLanguage] (node : Node) (extras : Extras) (v : Value) :
    node.fault? extras (some v) .validator =
      (node.attrs.refusal? v extras).map fun detail =>
        ⟨some detail, ": custom validator error."⟩ := by
  unfold fault? Attributes.refusal?
  cases node.attrs.validator? <;> rfl

/-- Nodes with the same producers report a fault in the same way. -/
theorem Node.report_congr (node node' : Node) (herrors : node.attrs.errors = node'.attrs.errors)
    (extras : Extras) (trail : Trail) (value? : Option Value) (c : Constraint) :
    node.report extras trail value? c = node'.report extras trail value? c := by
  unfold report
  rw [herrors]

/-- Nodes with the same producers that find the same report the same themselves. -/
theorem Node.report?_congr [PatternLanguage]
    (node node' : Node) (herrors : node.attrs.errors = node'.attrs.errors)
    (extras : Extras) (trail : Trail) (value? : Option Value)
    (hfault : ∀ c, node.fault? extras value? c = node'.fault? extras value? c) :
    node.report? extras trail value? = node'.report? extras trail value? := by
  unfold report?
  refine congrArg (List.findSome? · _) (funext fun c => ?_)
  rw [hfault c, node.report_congr node' herrors]

/-- The producers of a node are literals. -/
def Node.OnlyLiterals (node : Node) : Prop :=
  ∀ c producer, node.attrs.errors.find? c = some producer → ∃ e, producer = .literal e

/-- The error of a fault at a node whose producers are literals: theirs, or the default message. -/
def Node.plainError (node : Node) (trail : Trail) (c : Constraint) (text : String) :
    ValidationError :=
  match node.attrs.errors.find? c with
  | some (.literal e) => e
  | _ => .message (trail.path.subject ++ text)

/-- With literals, the text of a fault is all that its error depends on. -/
theorem Node.error_report_of_onlyLiterals (node : Node) (h : node.OnlyLiterals) (extras : Extras)
    (trail : Trail) (value? : Option Value) (c : Constraint) (fault : Fault) :
    (node.report extras trail value? c fault).error = node.plainError trail c fault.text := by
  unfold plainError
  cases hfind : node.attrs.errors.find? c with
  | none => exact node.error_report_of_undeclared extras trail value? c fault hfind
  | some producer =>
    obtain ⟨e, rfl⟩ := h c producer hfind
    exact node.error_report_of_declared extras trail value? c fault _ hfind

/-- With literals, values with faults of the same texts have the same error. -/
theorem Node.map_error_report?_congr [PatternLanguage]
    (node : Node) (h : node.OnlyLiterals) (extras : Extras)
    (trail : Trail) (value? value?' : Option Value)
    (hfault : ∀ c, (node.fault? extras value? c).map Fault.text =
      (node.fault? extras value?' c).map Fault.text) :
    (node.report? extras trail value?).map Report.error =
      (node.report? extras trail value?').map Report.error := by
  have hplain (value? : Option Value) (c : Constraint) :
      ((node.fault? extras value? c).map (node.report extras trail value? c)).map Report.error =
        ((node.fault? extras value? c).map Fault.text).map (node.plainError trail c) := by
    rw [Option.map_map, Option.map_map]
    refine congrArg (Option.map · _) (funext fun fault => ?_)
    exact node.error_report_of_onlyLiterals h extras trail value? c fault
  unfold report?
  rw [List.map_findSome?, List.map_findSome?]
  refine congrArg (List.findSome? · _) (funext fun c => ?_)
  rw [Function.comp_apply, Function.comp_apply, hplain, hplain, hfault c]

/-- A value of another kind than the node asks for is reported for its kind. -/
theorem Node.report?_of_not_hasKind [PatternLanguage]
    (node : Node) (extras : Extras) (trail : Trail) (v : Value)
    (h : node.rule.hasKind v = false) :
    node.report? extras trail (some v) =
      some (node.report extras trail (some v) .type ⟨none, node.rule.kindText⟩) := by
  have hfault : node.fault? extras (some v) .type = some ⟨none, node.rule.kindText⟩ := by
    show (if node.rule.hasKind v then none else _) = _
    rw [h]
    rfl
  unfold report? Constraint.all
  rw [List.findSome?_cons, hfault]
  rfl

/-! ## Going down together -/

/-- Slots that are related one by one, and passed over alike, are related when they are read. -/
theorem Node.forall₂_readSlots {S : Slot → Slot → Prop} (node node' : Node) (v v' : Value)
    (h : List.Forall₂ S (node.slots v) (node'.slots v'))
    (hpassed : ∀ p p', S p p' → p.isPassedOver = p'.isPassedOver) :
    List.Forall₂ S (node.readSlots v) (node'.readSlots v') := by
  refine List.rel_filter (fun p p' hp => ?_) h
  show (!p.isPassedOver) = true ↔ (!p'.isPassedOver) = true
  rw [hpassed p p' hp]

section

variable {α : Type}

/-- Slots on two sides go together one by one: the moves are the same, and the nodes and values are
related, for shared slots only if what stands behind them fits. -/
inductive Matched [PatternLanguage]
    (extras : Extras) (R : Node → Option Value → Node → Option Value → Prop)
    (shared : Bool) : List Slot → List Slot → Prop
  | nil : Matched extras R shared [] []
  | cons (p p' : Slot) (ps ps' : List Slot) (move : p.move = p'.move)
      (related : (shared = true → ∀ q ∈ ps, q.node.Fits extras q.value?) →
        R p.node p.value? p'.node p'.value?)
      (others : Matched extras R shared ps ps') : Matched extras R shared (p :: ps) (p' :: ps')

/-- What is observed of two readings stays the same while they go down together. -/
structure Lockstep [PatternLanguage] (extras : Extras) (observe : Report → α)
    (R : Node → Option Value → Node → Option Value → Prop) : Prop where
  own : ∀ node value? node' value?' trail, R node value? node' value?' →
    (node.report? extras trail value?).map observe =
      (node'.report? extras trail value?').map observe
  sharesItem : ∀ node v node' v', R node (some v) node' (some v') →
    node.sharesItem = node'.sharesItem
  below : ∀ node v node' v', R node (some v) node' (some v') → node.Holds extras v →
    Matched extras R node.sharesItem (node.readSlots v) (node'.readSlots v')

/-- The last nonempty list of two rows is the same if the rest of the rows say so, and if the first
lists are the same whenever there is nothing behind them. -/
theorem lastNonempty_cons_congr (list list' : List α) (lists lists' : List (List α))
    (hrest : lastNonempty lists = lastNonempty lists')
    (hfirst : lastNonempty lists = [] → list = list') :
    lastNonempty (list :: lists) = lastNonempty (list' :: lists') := by
  rw [lastNonempty_cons, lastNonempty_cons, ← hrest]
  cases hlast : lastNonempty lists with
  | nil => exact hfirst hlast
  | cons a found => rfl

namespace Matched

variable {extras : Extras} {R : Node → Option Value → Node → Option Value → Prop} {shared : Bool}

/-- Slots go together if each is related to its partner when those behind it fit. -/
theorem of_splits [PatternLanguage]
    {S : Slot → Slot → Prop} {ps ps' : List Slot} (h : List.Forall₂ S ps ps')
    (hmove : ∀ p p', S p p' → p.move = p'.move)
    (hrelated : ∀ front p back p', ps = front ++ p :: back → S p p' →
      (shared = true → ∀ q ∈ back, q.node.Fits extras q.value?) →
        R p.node p.value? p'.node p'.value?) :
    Matched extras R shared ps ps' := by
  induction h with
  | nil => exact .nil
  | @cons p p' ps ps' hfirst _ ih =>
    refine .cons p p' ps ps' (hmove p p' hfirst) (hrelated [] p ps p' rfl hfirst) (ih ?_)
    rintro front q back q' rfl
    exact hrelated (p :: front) q back q' rfl

/-- Slots that are related one by one go together. -/
theorem of_forall₂ [PatternLanguage] {ps ps' : List Slot}
    (h : List.Forall₂ (fun p p' : Slot => p.move = p'.move ∧ R p.node p.value? p'.node p'.value?)
      ps ps') : Matched extras R shared ps ps' :=
  of_splits h (fun _ _ hrelated => hrelated.1) fun _ _ _ _ _ hrelated _ => hrelated.2

/-- Slots that do not share their node go together without a condition. -/
theorem forall₂ [PatternLanguage] {ps ps' : List Slot} (h : Matched extras R false ps ps') :
    List.Forall₂ (fun p p' : Slot => p.move = p'.move ∧ R p.node p.value? p'.node p'.value?)
      ps ps' := by
  induction h with
  | nil => exact .nil
  | cons p p' ps ps' hmove hrelated _ ih =>
    exact .cons ⟨hmove, hrelated fun hshared => nomatch hshared⟩ ih

/-- The same is observed of slots that go together, if it is observed of related nodes below. -/
theorem gather_eq [PatternLanguage] (observe : Report → α) (trail : Trail) {ps ps' : List Slot}
    (h : Matched extras R shared ps ps') (hread : ∀ p ∈ ps, p.isPassedOver = false)
    (hreports : ∀ p ∈ ps, ∀ p' : Slot, p.move = p'.move → R p.node p.value? p'.node p'.value? →
      (p.reports extras trail).map observe = (p'.reports extras trail).map observe) :
    gather shared (ps.map fun p => (p.reports extras trail).map observe) =
      gather shared (ps'.map fun p => (p.reports extras trail).map observe) := by
  induction h with
  | nil => rfl
  | cons p p' ps ps' hmove hrelated hothers ih =>
    rw [List.forall_mem_cons] at hread hreports
    have hrest := ih hread.2 hreports.2
    have hfirst := hreports.1 p' hmove
    cases shared with
    | false =>
      exact congrArg₂ (· ++ ·) (hfirst (hrelated fun hshared => nomatch hshared)) hrest
    | true =>
      refine lastNonempty_cons_congr _ _ _ _ hrest fun hnone => hfirst (hrelated fun _ q hq => ?_)
      -- Nothing was reported behind the slot, so what stands there fits.
      have hempty := (lastNonempty_eq_nil_iff _).1 hnone _ (List.mem_map_of_mem hq)
      exact (q.reports_eq_nil_iff extras trail (hread.2 q hq)).1 (List.map_eq_nil_iff.1 hempty)

end Matched

/-- Both of two related nodes report themselves, and the same is observed, or neither does. -/
theorem Lockstep.own_eq_none_iff [PatternLanguage] {extras : Extras} {observe : Report → α}
    {R : Node → Option Value → Node → Option Value → Prop} (h : Lockstep extras observe R)
    (node node' : Node) (value? value?' : Option Value) (trail : Trail)
    (hR : R node value? node' value?') :
    node.report? extras trail value? = none ↔ node'.report? extras trail value?' = none := by
  rw [← Option.map_eq_none_iff (f := observe), h.own _ _ _ _ trail hR, Option.map_eq_none_iff]

/-- Readings in lockstep are observed to be the same. -/
theorem Lockstep.reports_eq [PatternLanguage] {extras : Extras} {observe : Report → α}
    {R : Node → Option Value → Node → Option Value → Prop} (h : Lockstep extras observe R)
    (node : Node) : ∀ (node' : Node) (value? value?' : Option Value) (trail : Trail),
      R node value? node' value?' →
        (node.reports extras trail value?).map observe =
          (node'.reports extras trail value?').map observe := by
  induction node using Node.inductionOnChildren with
  | step node ih =>
    intro node' value? value?' trail hR
    have hown := h.own node value? node' value?' trail hR
    cases hreport : node.report? extras trail value? with
    | some r =>
      rw [hreport] at hown
      obtain ⟨r', hr', hsame⟩ := Option.map_eq_some_iff.1 hown.symm
      rw [node.reports_of_report? extras trail value? r hreport,
        node'.reports_of_report? extras trail value?' r' hr', List.map_singleton,
        List.map_singleton, hsame]
    | none =>
      have hreport' := (h.own_eq_none_iff node node' value? value?' trail hR).1 hreport
      obtain ⟨v, rfl⟩ := node.exists_of_report?_eq_none extras trail value? hreport
      obtain ⟨v', rfl⟩ := node'.exists_of_report?_eq_none extras trail value?' hreport'
      have hholds := (node.report?_eq_none_iff extras trail v).1 hreport
      have hholds' := (node'.report?_eq_none_iff extras trail v').1 hreport'
      have hmatched := h.below node v node' v' hR hholds
      rw [node.reports_of_holds extras trail v hholds,
        node'.reports_of_holds extras trail v' hholds', map_gather, map_gather, List.map_map,
        List.map_map, ← h.sharesItem _ _ _ _ hR]
      refine hmatched.gather_eq observe trail (fun p hp => ?_) fun p hp p' hmove hp' => ?_
      · exact ((node.mem_readSlots_iff v p).1 hp).2
      · have hchild := node.mem_children_of_mem_slots v p (node.mem_slots_of_mem_readSlots v p hp)
        unfold Slot.reports
        rw [← hmove]
        exact ih p.node hchild p'.node p.value? p'.value? (trail ++ [p.move]) hp'

/-! ## One schema and two inputs -/

/-- A node has the same slots at two values, if it has as many items at both. -/
theorem Node.forall₂_slots (node : Node) (v w : Value)
    (hlength : node.sharesItem = true → (v.list?.getD []).length = (w.list?.getD []).length) :
    List.Forall₂ (fun p p' : Slot => p.move = p'.move ∧ p.node = p'.node) (node.slots v)
      (node.slots w) := by
  cases node with
  | leaf attrs rule => exact .nil
  | arrayOf attrs lengths item =>
    show List.Forall₂ _ (List.mapIdx _ _) (List.mapIdx _ _)
    refine List.forall₂_iff_get.2 ⟨by simpa using hlength rfl, fun i hi hi' => ?_⟩
    simp only [List.get_eq_getElem, List.getElem_mapIdx]
    exact ⟨trivial, trivial⟩
  | tuple attrs lengths positions => exact forall₂_mapIdx _ _ positions fun _ _ _ => ⟨rfl, rfl⟩
  | object attrs allowExtra properties =>
    show List.Forall₂ _ (List.map _ _) (List.map _ _)
    rw [List.forall₂_map_left_iff, List.forall₂_map_right_iff, List.forall₂_same]
    exact fun _ _ => ⟨rfl, rfl⟩

/-- Of two values that are related both are absent or neither is. -/
theorem isNone_eq_of_rel {β : Type} {R : β → β → Prop} {b? b?' : Option β}
    (h : Option.Rel R b? b?') : b?.isNone = b?'.isNone := by
  cases h <;> rfl

/-- Values that are related in one way are related in another if the one says so. -/
theorem rel_imp {β : Type} {R S : β → β → Prop} (hRS : ∀ b b', R b b' → S b b') {b? b?' : Option β}
    (h : Option.Rel R b? b?') : Option.Rel S b? b?' := by
  cases h with
  | none => exact .none
  | some h => exact .some (hRS _ _ h)

/-- Readings of one schema go down in lockstep if values that are related are reported alike, and
if, when nothing is wrong with the first, the moves to its slots find related values in both. -/
theorem Lockstep.of_values [PatternLanguage] {extras : Extras} {observe : Report → α}
    (A : Node → Value → Value → Prop)
    (hown : ∀ node v w trail, A node v w →
      (node.report? extras trail (some v)).map observe =
        (node.report? extras trail (some w)).map observe)
    (hlength : ∀ node v w, A node v w → node.Holds extras v → node.sharesItem = true →
      (v.list?.getD []).length = (w.list?.getD []).length)
    (hbelow : ∀ node v w, A node v w → node.Holds extras v → ∀ p ∈ node.slots v,
      Option.Rel (A p.node) (p.move.find? v) (p.move.find? w)) :
    Lockstep extras observe fun node value? node' value?' =>
      node' = node ∧ Option.Rel (A node) value? value?' where
  own _ _ _ _ trail h := by
    obtain ⟨rfl, hrel⟩ := h
    cases hrel with
    | none => rfl
    | some hA => exact hown _ _ _ trail hA
  sharesItem _ _ _ _ h := by rw [h.1]
  below _ v node w h hholds := by
    obtain ⟨rfl, hrel⟩ := h
    cases hrel with
    | some hA =>
      have hslots := node.forall₂_slots v w (hlength node v w hA hholds)
      -- Both sides have the same moves, which find what stands in the slots.
      have hrelated : List.Forall₂ (fun p p' : Slot => p.move = p'.move ∧ p'.node = p.node ∧
          Option.Rel (A p.node) p.value? p'.value?) (node.slots v) (node.slots w) := by
        refine List.forall₂_iff_zip.2 ⟨hslots.length_eq, fun {p p'} hzip => ?_⟩
        obtain ⟨hp, hp'⟩ := List.of_mem_zip hzip
        obtain ⟨hmove, hnode⟩ := (List.forall₂_iff_zip.1 hslots).2 hzip
        rw [node.value?_of_mem_slots v p hp, node.value?_of_mem_slots w p' hp', ← hmove]
        exact ⟨rfl, hnode.symm, hbelow node v w hA hholds p hp⟩
      refine .of_forall₂ (node.forall₂_readSlots node v w hrelated fun p p' hp => ?_)
      exact p.isPassedOver_congr p' (hp.2.1 ▸ rfl) (isNone_eq_of_rel hp.2.2)

end

end DataShape
