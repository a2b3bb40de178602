import DataShape.Proofs.Validator.FetchedPlan

/-!
# What a walk writes down

Which actions belong to a walk is said here without a log (`FetchPlan.Makes`). A node makes its
checks up to the first one that fails. If all pass, it gives up at an absent value, and at a present
one it goes on to what stands below: it fetches the value of each of several children and visits all
but the optional ones that are absent, or goes through the items of a list from the end to the first
one at which something is found. The log of a walk has these actions and no others
(`FetchPlan.mem_actions_walk_iff`), and the check that found a failure is among them
(`FetchPlan.checked_walk`).

All children and items add to one list of failures, and a scan stops when the list has grown. So
what a walk adds must not depend on what it starts from (`FetchPlan.walk_followedBy`).
-/

namespace DataShape

/-! ## The actions that are made -/

/-- The plans of the children that are fetched one by one. -/
def FetchChildren.several : FetchChildren → List FetchPlan
  | none => []
  | properties plans => plans
  | positions plans => plans
  | uniform _ => []

/-- The child is optional and its value is absent. -/
def FetchPlan.skips (plan : FetchPlan) (value? : Option Value) : Bool :=
  value?.isNone && plan.own.optional

mutual

/-- The action belongs to a walk through the plan with the value. -/
inductive FetchPlan.Makes (extras : Extras) :
    FetchPlan → Option Nat → Option Value → Action → Prop
  | check (fetch : Fetch) (own : Cascade) (below : FetchChildren) (index? : Option Nat)
      (value? : Option Value) (front : List Check) (c : Check) (back : List Check)
      (checks : own.checks = front ++ c :: back)
      (passed : ∀ d ∈ front, d.failure? extras own.path index? value? = none) :
      FetchPlan.Makes extras (.node fetch own below) index? value? (.check c.test value?)
  | giveUp (fetch : Fetch) (own : Cascade) (below : FetchChildren) (index? : Option Nat)
      (passed : own.failure? extras index? none = none) :
      FetchPlan.Makes extras (.node fetch own below) index? none .giveUp
  | further (fetch : Fetch) (own : Cascade) (below : FetchChildren) (index? : Option Nat)
      (v : Value) (action : Action) (passed : own.failure? extras index? (some v) = none)
      (made : below.Makes extras index? v action) :
      FetchPlan.Makes extras (.node fetch own below) index? (some v) action

/-- The action belongs to a walk through what stands below a node with the value. -/
inductive FetchChildren.Makes (extras : Extras) :
    FetchChildren → Option Nat → Value → Action → Prop
  | scan (item : FetchPlan) (index? : Option Nat) (v : Value) :
      FetchChildren.Makes extras (.uniform item) index? v (.scan v)
  | item (item : FetchPlan) (index? : Option Nat) (v : Value) (items : List Value)
      (front back : List (Value × Nat)) (x : Value) (i : Nat) (action : Action)
      (list : v.list? = some items) (split : items.zipIdx = front ++ (x, i) :: back)
      (behind : ∀ p ∈ back, (item.walk extras (some p.2) (some p.1) {}).failures = [])
      (made : item.Makes extras (some i) (some x) action) :
      FetchChildren.Makes extras (.uniform item) index? v action
  | fetch (below : FetchChildren) (index? : Option Nat) (v : Value) (plan : FetchPlan)
      (child : plan ∈ below.several) :
      FetchChildren.Makes extras below index? v (.fetch plan.fetch v)
  | child (below : FetchChildren) (index? : Option Nat) (v : Value) (plan : FetchPlan)
      (action : Action) (child : plan ∈ below.several)
      (visited : plan.skips (plan.fetch.find? v) = false)
      (made : plan.Makes extras index? (plan.fetch.find? v) action) :
      FetchChildren.Makes extras below index? v action

end

/-- At a node the checks are made that stand behind checks that all pass, and if all of them pass,
the walk gives up or goes on. -/
theorem FetchPlan.makes_node_iff (extras : Extras) (fetch : Fetch) (own : Cascade)
    (below : FetchChildren) (index? : Option Nat) (value? : Option Value) (action : Action) :
    (node fetch own below).Makes extras index? value? action ↔
      (∃ front c back, own.checks = front ++ c :: back ∧
        (∀ d ∈ front, d.failure? extras own.path index? value? = none) ∧
        action = .check c.test value?) ∨
      own.failure? extras index? value? = none ∧
        match value? with
        | none => action = .giveUp
        | some v => below.Makes extras index? v action := by
  constructor
  · intro h
    cases h with
    | check _ _ _ _ _ front c back hchecks hpassed =>
      exact .inl ⟨front, c, back, hchecks, hpassed, rfl⟩
    | giveUp _ _ _ _ hpassed => exact .inr ⟨hpassed, rfl⟩
    | further _ _ _ _ v _ hpassed hmade => exact .inr ⟨hpassed, hmade⟩
  · rintro (⟨front, c, back, hchecks, hpassed, rfl⟩ | ⟨hpassed, hmade⟩)
    · exact .check fetch own below index? value? front c back hchecks hpassed
    · cases value? with
      | none =>
        obtain rfl := hmade
        exact .giveUp fetch own below index? hpassed
      | some v => exact .further fetch own below index? v action hpassed hmade

namespace FetchChildren

/-- At several children each value is fetched, and all children are visited that are not skipped. -/
theorem makes_several_iff (extras : Extras) (below : FetchChildren)
    (hbelow : ∀ item, below ≠ .uniform item) (index? : Option Nat) (v : Value) (action : Action) :
    below.Makes extras index? v action ↔
      ∃ plan ∈ below.several, action = .fetch plan.fetch v ∨
        plan.skips (plan.fetch.find? v) = false ∧
          plan.Makes extras index? (plan.fetch.find? v) action := by
  constructor
  · intro h
    cases h with
    | scan item => exact absurd rfl (hbelow item)
    | item item => exact absurd rfl (hbelow item)
    | fetch _ _ _ plan hplan => exact ⟨plan, hplan, .inl rfl⟩
    | child _ _ _ plan _ hplan hvisited hmade => exact ⟨plan, hplan, .inr ⟨hvisited, hmade⟩⟩
  · rintro ⟨plan, hplan, rfl | ⟨hvisited, hmade⟩⟩
    · exact .fetch below index? v plan hplan
    · exact .child below index? v plan action hplan hvisited hmade

/-- Of one plan for all items those are visited behind which nothing is found. -/
theorem makes_uniform_iff (extras : Extras) (item : FetchPlan) (index? : Option Nat) (v : Value)
    (action : Action) : (uniform item).Makes extras index? v action ↔
      action = .scan v ∨ ∃ items, v.list? = some items ∧
        ∃ front p back, items.zipIdx = front ++ p :: back ∧
          (∀ q ∈ back, (item.walk extras (some q.2) (some q.1) {}).failures = []) ∧
          item.Makes extras (some p.2) (some p.1) action := by
  constructor
  · intro h
    cases h with
    | scan => exact .inl rfl
    | item _ _ _ items front back x i _ hlist hsplit hbehind hmade =>
      exact .inr ⟨items, hlist, front, (x, i), back, hsplit, hbehind, hmade⟩
    | fetch _ _ _ plan hplan => cases hplan
    | child _ _ _ plan _ hplan => cases hplan
  · rintro (rfl | ⟨items, hlist, front, p, back, hsplit, hbehind, hmade⟩)
    · exact .scan item index? v
    · exact .item item index? v items front back p.1 p.2 action hlist hsplit hbehind hmade

end FetchChildren

/-! ## Where a walk starts from -/

namespace Walk

/-- The walk with what another one has done behind it. -/
def followedBy (w later : Walk) : Walk :=
  { actions := w.actions ++ later.actions, failures := w.failures ++ later.failures }

@[simp] theorem followedBy_empty (w : Walk) : w.followedBy {} = w := by
  unfold followedBy
  rw [List.append_nil, List.append_nil]

/-- An action at the end of both walks is one at the end of the second. -/
theorem followedBy_act (w later : Walk) (action : Action) :
    (w.followedBy later).act action = w.followedBy (later.act action) := by
  unfold followedBy act
  rw [List.append_assoc]

/-- A failure at the end of both walks is one at the end of the second. -/
theorem followedBy_fail (w later : Walk) (f : Failure) :
    (w.followedBy later).fail f = w.followedBy (later.fail f) := by
  unfold followedBy fail
  rw [List.append_assoc]

/-- The checks that are made do not depend on what has been done before. -/
theorem followedBy_check (extras : Extras) (path : FieldPath) (index? : Option Nat)
    (value? : Option Value) (w : Walk) (checks : List Check) : ∀ later : Walk,
      (w.followedBy later).check extras path index? value? checks =
        (w.followedBy (later.check extras path index? value? checks).1,
          (later.check extras path index? value? checks).2) := by
  induction checks with
  | nil =>
    intro later
    rfl
  | cons c rest ih =>
    intro later
    unfold check
    rw [followedBy_act]
    cases c.failure? extras path index? value? with
    | some f => exact congrArg (·, false) (followedBy_fail w _ f)
    | none => exact ih _

/-- The items that are visited do not depend on what has been done before, if that is so for each of
them. -/
theorem followedBy_scan (visit : Nat → Value → Walk → Walk) (w : Walk)
    (hvisit : ∀ i x later, visit i x (w.followedBy later) = w.followedBy (visit i x later))
    (before : Nat) (items : List (Value × Nat)) : ∀ later : Walk,
      (w.followedBy later).scan visit (w.failures.length + before) items =
        w.followedBy (later.scan visit before items) := by
  induction items with
  | nil =>
    intro later
    rfl
  | cons item rest ih =>
    intro later
    -- What was found before counts for both scans, so they stop at the same item.
    have hlength : (w.followedBy (visit item.2 item.1 later)).failures.length =
        w.failures.length + (visit item.2 item.1 later).failures.length := List.length_append
    rw [scan_cons, scan_cons, hvisit, hlength, ih]
    by_cases hgrown : before < (visit item.2 item.1 later).failures.length
    · rw [if_pos hgrown, if_pos (Nat.add_lt_add_left hgrown _)]
    · rw [if_neg hgrown, if_neg fun h => hgrown (Nat.lt_of_add_lt_add_left h)]

end Walk

namespace FetchPlan

variable (extras : Extras)

mutual

/-- What a walk through a plan adds does not depend on what has been done before. -/
theorem walk_followedBy (plan : FetchPlan) (index? : Option Nat) (value? : Option Value)
    (w later : Walk) : plan.walk extras index? value? (w.followedBy later) =
      w.followedBy (plan.walk extras index? value? later) := by
  obtain ⟨fetch, own, below⟩ := plan
  unfold walk
  rw [Walk.followedBy_check]
  obtain ⟨later, passed⟩ := later.check extras own.path index? value? own.checks
  cases passed with
  | false => rfl
  | true =>
    cases value? with
    | none => exact Walk.followedBy_act w later .giveUp
    | some v => exact walkBelow_followedBy below index? v w later

/-- The same for what stands below a node. -/
theorem walkBelow_followedBy (below : FetchChildren) (index? : Option Nat) (v : Value)
    (w later : Walk) : walkBelow extras below index? v (w.followedBy later) =
      w.followedBy (walkBelow extras below index? v later) := by
  cases below with
  | none => rfl
  | properties plans => exact walkAll_followedBy plans index? v w later
  | positions plans => exact walkAll_followedBy plans index? v w later
  | uniform item =>
    unfold walkBelow
    rw [Walk.followedBy_act]
    cases v.list? with
    | none => rfl
    | some items =>
      have hlength : (w.followedBy later).failures.length =
          w.failures.length + later.failures.length := List.length_append
      rw [hlength]
      exact Walk.followedBy_scan _ w
        (fun i x later => walk_followedBy item (some i) (some x) w later) _ _ _

/-- The same for several children. -/
theorem walkAll_followedBy (plans : List FetchPlan) (index? : Option Nat) (v : Value)
    (w later : Walk) : walkAll extras plans index? v (w.followedBy later) =
      w.followedBy (walkAll extras plans index? v later) := by
  cases plans with
  | nil => rfl
  | cons plan rest =>
    unfold walkAll
    rw [Walk.followedBy_act, walk_followedBy plan, walkAll_followedBy rest,
      walkAll_followedBy rest]
    exact (apply_ite w.followedBy _ _ _).symm

end

/-- A walk adds what it finds when it starts from nothing. -/
theorem failures_walk_eq (plan : FetchPlan) (index? : Option Nat) (value? : Option Value)
    (w : Walk) : (plan.walk extras index? value? w).failures =
      w.failures ++ (plan.walk extras index? value? {}).failures := by
  conv_lhs => rw [← w.followedBy_empty, walk_followedBy]
  rfl

end FetchPlan

/-! ## The log -/

/-- Something with the property stands in a list behind elements that all pass if it is the first
element, or if that passes and it stands so in the rest. -/
theorem exists_behind_cons_iff {α : Type} (passes found : α → Prop) (a : α) (l : List α) :
    (∃ front b back, a :: l = front ++ b :: back ∧ (∀ d ∈ front, passes d) ∧ found b) ↔
      found a ∨ passes a ∧
        ∃ front b back, l = front ++ b :: back ∧ (∀ d ∈ front, passes d) ∧ found b := by
  constructor
  · rintro ⟨front, b, back, hsplit, hfront, hfound⟩
    cases front with
    | nil =>
      cases hsplit
      exact .inl hfound
    | cons first front =>
      cases hsplit
      rw [List.forall_mem_cons] at hfront
      exact .inr ⟨hfront.1, front, b, back, rfl, hfront.2, hfound⟩
  · rintro (hfound | ⟨hpasses, front, b, back, rfl, hfront, hfound⟩)
    · exact ⟨[], a, l, rfl, List.forall_mem_nil _, hfound⟩
    · exact ⟨a :: front, b, back, rfl, List.forall_mem_cons.2 ⟨hpasses, hfront⟩, hfound⟩

/-- Nothing stands in the empty list. -/
theorem not_exists_behind_nil {α : Type} (passes found : α → Prop) :
    ¬∃ front b back, [] = front ++ b :: back ∧ (∀ d ∈ front, passes d) ∧ found b := by
  rintro ⟨front, b, back, hsplit, -⟩
  cases front <;> cases hsplit

/-- In the reversed list what stands in front stands behind. -/
theorem exists_behind_reverse_iff {α : Type} (passes found : α → Prop) (l : List α) :
    (∃ front b back, l.reverse = front ++ b :: back ∧ (∀ d ∈ front, passes d) ∧ found b) ↔
      ∃ front b back, l = front ++ b :: back ∧ (∀ d ∈ back, passes d) ∧ found b := by
  constructor
  · rintro ⟨front, b, back, hsplit, hpasses, hfound⟩
    refine ⟨back.reverse, b, front.reverse, ?_, fun d hd => hpasses d (List.mem_reverse.1 hd),
      hfound⟩
    rw [← l.reverse_reverse, hsplit, List.reverse_append, List.reverse_cons, List.append_assoc,
      List.singleton_append]
  · rintro ⟨front, b, back, rfl, hpasses, hfound⟩
    refine ⟨back.reverse, b, front.reverse, ?_, fun d hd => hpasses d (List.mem_reverse.1 hd),
      hfound⟩
    rw [List.reverse_append, List.reverse_cons, List.append_assoc, List.singleton_append]

namespace Walk

/-- An action is added to those before. -/
theorem mem_actions_act_iff (w : Walk) (made action : Action) :
    action ∈ (w.act made).actions ↔ action ∈ w.actions ∨ action = made := by
  unfold act
  rw [List.mem_append, List.mem_singleton]

/-- The checks that are written down are those that stand behind checks that all pass. -/
theorem mem_actions_check_iff (extras : Extras) (path : FieldPath) (index? : Option Nat)
    (value? : Option Value) (action : Action) (checks : List Check) : ∀ w : Walk,
      action ∈ (w.check extras path index? value? checks).1.actions ↔ action ∈ w.actions ∨
        ∃ front c back, checks = front ++ c :: back ∧
          (∀ d ∈ front, d.failure? extras path index? value? = none) ∧
          action = .check c.test value? := by
  induction checks with
  | nil =>
    intro w
    exact (or_iff_left (not_exists_behind_nil _ _)).symm
  | cons c rest ih =>
    intro w
    rw [exists_behind_cons_iff, ← or_assoc, ← mem_actions_act_iff]
    unfold check
    cases c.failure? extras path index? value? with
    | some f =>
      -- None of the checks behind one that fails is made.
      exact (or_iff_left fun h => Option.some_ne_none f h.1).symm
    | none => rw [ih, and_iff_right rfl]

/-- The visits of items that are written down are those behind items at which nothing is found. -/
theorem mem_actions_scan_iff (visit : Nat → Value → Walk → Walk) (action : Action)
    (made : Nat → Value → Prop)
    (hfailures : ∀ i x w, (visit i x w).failures = w.failures ++ (visit i x {}).failures)
    (hactions : ∀ i x w, action ∈ (visit i x w).actions ↔ action ∈ w.actions ∨ made i x)
    (items : List (Value × Nat)) : ∀ w : Walk,
      action ∈ (w.scan visit w.failures.length items).actions ↔ action ∈ w.actions ∨
        ∃ front p back, items = front ++ p :: back ∧
          (∀ q ∈ front, (visit q.2 q.1 {}).failures = []) ∧ made p.2 p.1 := by
  induction items with
  | nil =>
    intro w
    exact (or_iff_left (not_exists_behind_nil _ _)).symm
  | cons p rest ih =>
    intro w
    have hlength : (visit p.2 p.1 w).failures.length =
        w.failures.length + (visit p.2 p.1 {}).failures.length := by
      rw [hfailures, List.length_append]
    rw [exists_behind_cons_iff, ← or_assoc, ← hactions, scan_cons]
    cases hfound : (visit p.2 p.1 {}).failures with
    | cons f found =>
      -- The list has grown, so no item behind this one is visited.
      have hgrown : w.failures.length < (visit p.2 p.1 w).failures.length := by
        rw [hlength, hfound, List.length_cons]
        omega
      rw [if_pos hgrown]
      exact (or_iff_left fun h => List.cons_ne_nil f found h.1).symm
    | nil =>
      -- The list is as long as before, so the scan goes on as if it began here.
      rw [hfound, List.length_nil, Nat.add_zero] at hlength
      rw [← hlength, if_neg (Nat.lt_irrefl _), ih, and_iff_right rfl]

end Walk

namespace FetchPlan

variable (extras : Extras)

/-- At several children each value is fetched, and all children are visited that are not skipped. -/
theorem mem_actions_walkAll_iff (index? : Option Nat) (v : Value) (action : Action)
    (plans : List FetchPlan)
    (hplans : ∀ plan ∈ plans, ∀ (value? : Option Value) (w : Walk),
      action ∈ (plan.walk extras index? value? w).actions ↔
        action ∈ w.actions ∨ plan.Makes extras index? value? action) : ∀ w : Walk,
      action ∈ (walkAll extras plans index? v w).actions ↔ action ∈ w.actions ∨
        ∃ plan ∈ plans, action = .fetch plan.fetch v ∨
          plan.skips (plan.fetch.find? v) = false ∧
            plan.Makes extras index? (plan.fetch.find? v) action := by
  induction plans with
  | nil =>
    intro w
    exact (or_iff_left fun h => List.not_mem_nil h.choose_spec.1).symm
  | cons plan rest ih =>
    intro w
    rw [List.forall_mem_cons] at hplans
    have hrest := ih hplans.2
    rw [List.exists_mem_cons_iff, ← or_assoc, ← or_assoc, ← Walk.mem_actions_act_iff]
    show action ∈ (if plan.skips (plan.fetch.find? v) = true then _ else _ : Walk).actions ↔ _
    cases hskips : plan.skips (plan.fetch.find? v) with
    | true =>
      rw [if_pos rfl, hrest]
      exact or_congr_left (or_iff_left fun h => Bool.noConfusion h.1).symm
    | false =>
      rw [if_neg Bool.false_ne_true, hrest, hplans.1, and_iff_right rfl]

mutual

/-- A walk writes down the actions that belong to it, and no others. -/
theorem mem_actions_walk_iff (plan : FetchPlan) (index? : Option Nat) (value? : Option Value)
    (action : Action) (w : Walk) : action ∈ (plan.walk extras index? value? w).actions ↔
      action ∈ w.actions ∨ plan.Makes extras index? value? action := by
  obtain ⟨fetch, own, below⟩ := plan
  have hchecks := w.mem_actions_check_iff extras own.path index? value? action own.checks
  obtain ⟨-, hpassed⟩ := w.check_eq extras own.path index? value? own.checks
  unfold walk
  generalize w.check extras own.path index? value? own.checks = checked at hchecks hpassed ⊢
  obtain ⟨w', passed⟩ := checked
  -- What is left is said of the walk that has made the checks of the node.
  rw [makes_node_iff, ← or_assoc, ← hchecks]
  cases hfailure : own.failure? extras index? value? with
  | some f =>
    obtain rfl : passed = false := hpassed.trans (congrArg Option.isNone hfailure)
    exact (or_iff_left fun h => Option.some_ne_none f h.1).symm
  | none =>
    obtain rfl : passed = true := hpassed.trans (congrArg Option.isNone hfailure)
    rw [and_iff_right rfl]
    cases value? with
    | none => exact Walk.mem_actions_act_iff w' .giveUp action
    | some v => exact mem_actions_walkBelow_iff below index? v action w'

/-- The same for what stands below a node. -/
theorem mem_actions_walkBelow_iff (below : FetchChildren) (index? : Option Nat) (v : Value)
    (action : Action) (w : Walk) : action ∈ (walkBelow extras below index? v w).actions ↔
      action ∈ w.actions ∨ below.Makes extras index? v action := by
  cases below with
  | none =>
    rw [FetchChildren.makes_several_iff extras _ fun _ h => FetchChildren.noConfusion h]
    exact (or_iff_left fun h => List.not_mem_nil h.choose_spec.1).symm
  | properties plans =>
    rw [FetchChildren.makes_several_iff extras _ fun _ h => FetchChildren.noConfusion h]
    exact mem_actions_walkAll_iff extras index? v action plans
      (fun plan _ value? w => mem_actions_walk_iff plan index? value? action w) w
  | positions plans =>
    rw [FetchChildren.makes_several_iff extras _ fun _ h => FetchChildren.noConfusion h]
    exact mem_actions_walkAll_iff extras index? v action plans
      (fun plan _ value? w => mem_actions_walk_iff plan index? value? action w) w
  | uniform item =>
    rw [FetchChildren.makes_uniform_iff, ← or_assoc, ← Walk.mem_actions_act_iff]
    unfold walkBelow
    cases v.list? with
    | none => exact (or_iff_left fun ⟨items, hlist, _⟩ => Option.some_ne_none items hlist.symm).symm
    | some items =>
      have hscan := Walk.mem_actions_scan_iff
        (fun i x => item.walk extras (some i) (some x)) action
        (fun i x => item.Makes extras (some i) (some x) action)
        (fun i x w => failures_walk_eq extras item (some i) (some x) w)
        (fun i x w => mem_actions_walk_iff item (some i) (some x) action w)
        items.zipIdx.reverse (w.act (.scan v))
      rw [exists_behind_reverse_iff] at hscan
      refine hscan.trans (or_congr_right ⟨fun h => ⟨items, rfl, h⟩, ?_⟩)
      rintro ⟨_, hlist, h⟩
      cases hlist
      exact h

end

end FetchPlan

/-! ## What is found has been checked -/

namespace Walk

/-- Every failure that the walk has found is one of a check that it has made. -/
def Checked (w : Walk) : Prop :=
  ∀ f ∈ w.failures, .check f.check.test f.context.value? ∈ w.actions

/-- One more action changes nothing about that. -/
theorem Checked.act {w : Walk} (h : w.Checked) (action : Action) : (w.act action).Checked :=
  fun f hf => (mem_actions_act_iff w action _).2 (.inl (h f hf))

/-- A check that fails is written down before its failure is. -/
theorem Checked.check {extras : Extras} {path : FieldPath} {index? : Option Nat}
    {value? : Option Value} (checks : List Check) : ∀ {w : Walk}, w.Checked →
      (w.check extras path index? value? checks).1.Checked := by
  induction checks with
  | nil =>
    intro w hw
    exact hw
  | cons c rest ih =>
    intro w hw
    have hact := hw.act (.check c.test value?)
    unfold Walk.check
    cases hfailure : c.failure? extras path index? value? with
    | none => exact ih hact
    | some f =>
      obtain ⟨param?, -, rfl⟩ := Option.map_eq_some_iff.1 hfailure
      refine List.forall_mem_append.2 ⟨hact, List.forall_mem_singleton.2 ?_⟩
      exact (mem_actions_act_iff w _ _).2 (.inr rfl)

end Walk

namespace FetchPlan

variable (extras : Extras)

mutual

/-- Whatever a walk finds, it has made the check that fails. -/
theorem checked_walk (plan : FetchPlan) (index? : Option Nat) (value? : Option Value) (w : Walk)
    (hw : w.Checked) : (plan.walk extras index? value? w).Checked := by
  obtain ⟨fetch, own, below⟩ := plan
  have hchecked : (w.check extras own.path index? value? own.checks).1.Checked :=
    hw.check own.checks
  unfold walk
  generalize w.check extras own.path index? value? own.checks = checked at hchecked ⊢
  obtain ⟨w, passed⟩ := checked
  cases passed with
  | false => exact hchecked
  | true =>
    cases value? with
    | none => exact hchecked.act .giveUp
    | some v => exact checked_walkBelow below index? v w hchecked

/-- The same for what stands below a node. -/
theorem checked_walkBelow (below : FetchChildren) (index? : Option Nat) (v : Value) (w : Walk)
    (hw : w.Checked) : (walkBelow extras below index? v w).Checked := by
  cases below with
  | none => exact hw
  | properties plans => exact checked_walkAll plans index? v w hw
  | positions plans => exact checked_walkAll plans index? v w hw
  | uniform item =>
    unfold walkBelow
    split
    · exact hw.act (.scan v)
    · exact Walk.scan_preserves
        (fun i x w hw => checked_walk item (some i) (some x) w hw) _ _ (hw.act (.scan v))

/-- The same for several children. -/
theorem checked_walkAll (plans : List FetchPlan) (index? : Option Nat) (v : Value) (w : Walk)
    (hw : w.Checked) : (walkAll extras plans index? v w).Checked := by
  cases plans with
  | nil => exact hw
  | cons plan rest =>
    have hact := hw.act (.fetch plan.fetch v)
    unfold walkAll
    split
    · exact checked_walkAll rest index? v _ hact
    · exact checked_walkAll rest index? v _ (checked_walk plan index? _ _ hact)

end

end FetchPlan

/-- The log of a walk with an input through the plan of a schema has the actions that belong to it
and no others. With every failure of the validator it has the check that fails. -/
theorem Schema.walk_logged [PatternLanguage] (s : Schema) (extraParams : List String)
    (v : Validator) (h : s.compile extraParams = .ok v) :
    ∃ plan, s.lower = .ok plan ∧ ∀ (input : Value) (args : List Value),
      (∀ action,
        action ∈ (plan.walk { names := extraParams, args } none (some input) {}).actions ↔
          plan.Makes { names := extraParams, args } none (some input) action) ∧
        ∀ f ∈ v.failures input args, .check f.check.test f.context.value? ∈
          (plan.walk { names := extraParams, args } none (some input) {}).actions := by
  have hlower := s.lower_eq extraParams v h
  obtain ⟨-, rfl⟩ := (s.compile_eq_ok_iff extraParams v).1 h
  refine ⟨_, hlower, fun input args => ⟨fun action => ?_, ?_⟩⟩
  · rw [FetchPlan.mem_actions_walk_iff]
    exact or_iff_right List.not_mem_nil
  · have hchecked := FetchPlan.checked_walk { names := extraParams, args }
      ((s.node.plan .root).withFetch .root) none (some input) {} (List.forall_mem_nil _)
    unfold Walk.Checked at hchecked
    rw [Plan.failures_walk] at hchecked
    exact hchecked

end DataShape
