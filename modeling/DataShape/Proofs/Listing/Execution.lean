import DataShape.Proofs.Listing.Meaning
import DataShape.Proofs.Validator.Refinement

/-!
# Running the program of a plan

`Node.blockRun?_plan` says that the program of a compiled plan is never stuck and pushes what a run
of the plan finds: the same failures with the same contexts, in the same order. The induction is
over the node; it carries that the expression for the node's value denotes the value, and that no
variable in it is that of a further loop.

Two things keep a program from being stuck. The test of the kind stands first in each chain and can
be asked even of an absent part, and every other question of the chain has an answer at a value of
that kind (`Node.isSome_answer?_of_checkFor?`). A pattern is asked for by its source, which is what
it was read from (`Node.isRead_of_checkFor?`).
-/

namespace DataShape

/-! ## Conditions -/

/-- What has a length has the length that tests look at. -/
theorem Value.length_of_length? (v : Value) (n : Nat) (h : v.length? = some n) : v.length = n := by
  cases v with
  | string s => exact Option.some.inj h
  | list items => exact Option.some.inj h
  | map entries => exact Option.some.inj h
  | null => cases h
  | bool b => cases h
  | number x => cases h

/-- The question of a test of the kind has the answer yes where the test fails. -/
theorem KindTest.answer?_question [PatternLanguage] (test : KindTest) (extras : Extras)
    (validator? : Option Predicate) (part? : Option Value) :
    test.question.answer? extras validator? part? = some !(part?.any test.accepts) := by
  cases test with
  | sized min stop =>
    cases part? with
    | none => rfl
    | some v =>
      cases v with
      | number x => exact congrArg (fun b => some !b) (Bool.and_assoc _ _ _).symm
      | _ => rfl
  | _ => rfl

/-- The pattern of a test is the one that its source spells. -/
def Test.IsRead [PatternLanguage] (test : Test) : Prop :=
  ∀ p, test = .pattern p → PatternLanguage.read p.source = .ok p.isMatch

namespace Check

/-- A test that fails under a condition refuses with the bound of the check. -/
theorem refusal?_of_failIf (check : Check) (extras : Extras) (v : Value) (fails : Bool)
    (h : check.test.outcome extras v = .failIf fails) :
    check.refusal? extras (some v) = if fails then some check.param? else none := by
  simp only [refusal?, h]
  cases fails <;> rfl

/-- A test that fails with a detail refuses with the detail. -/
theorem refusal?_of_failWith? (check : Check) (extras : Extras) (v : Value)
    (detail? : Option Value) (h : check.test.outcome extras v = .failWith? detail?) :
    check.refusal? extras (some v) = if detail?.isSome then some detail? else none := by
  simp only [refusal?, h]
  cases detail? <;> rfl

/-- Where the question of a check has an answer at a value, the check fails there if the answer is
yes, and hands over what the branch does. -/
theorem refusal?_of_answer? [PatternLanguage] (check : Check) (extras : Extras) (v : Value)
    (fails : Bool) (hread : check.test.IsRead)
    (h : check.test.question.answer? extras check.test.validator? (some v) = some fails) :
    check.refusal? extras (some v) =
      if fails then some (check.given? extras (some v)) else none := by
  obtain ⟨test, param?, producer⟩ := check
  cases test with
  | kind test =>
    obtain rfl := Option.some.inj ((test.answer?_question extras _ (some v)).symm.trans h)
    exact refusal?_of_failIf _ extras v _ rfl
  | minLen n =>
    obtain ⟨length, hlength, hfails⟩ := Option.bind_eq_some_iff.1 h
    obtain rfl := Option.some.inj hfails
    obtain rfl := v.length_of_length? length hlength
    exact refusal?_of_failIf _ extras v _ rfl
  | maxLen n =>
    obtain ⟨length, hlength, hfails⟩ := Option.bind_eq_some_iff.1 h
    obtain rfl := Option.some.inj hfails
    obtain rfl := v.length_of_length? length hlength
    exact refusal?_of_failIf _ extras v _ rfl
  | pattern p =>
    have hanswer : (PatternLanguage.read p.source).toOption.bind (fun isMatch =>
        v.string?.bind fun text => some !isMatch text) = some fails := h
    rw [hread p rfl] at hanswer
    obtain ⟨text, htext, hfails⟩ :
        ∃ text, v.string? = some text ∧ some (!p.isMatch text) = some fails :=
      Option.bind_eq_some_iff.1 hanswer
    obtain rfl := Option.some.inj hfails
    refine refusal?_of_failIf _ extras v _ ?_
    show Outcome.failIf (!v.string?.any p.isMatch) = _
    rw [htext]
    rfl
  | min x =>
    obtain ⟨number, hnumber, hfails⟩ := Option.bind_eq_some_iff.1 h
    obtain rfl := Option.some.inj hfails
    refine refusal?_of_failIf _ extras v _ ?_
    show Outcome.failIf (v.number?.any (·.lt x)) = _
    rw [show v.number? = some number from hnumber]
    rfl
  | max x =>
    obtain ⟨number, hnumber, hfails⟩ := Option.bind_eq_some_iff.1 h
    obtain rfl := Option.some.inj hfails
    refine refusal?_of_failIf _ extras v _ ?_
    show Outcome.failIf (v.number?.any x.lt) = _
    rw [show v.number? = some number from hnumber]
    rfl
  | onlyKeys allowed =>
    obtain ⟨entries, hentries, hfails⟩ := Option.bind_eq_some_iff.1 h
    obtain rfl := Option.some.inj hfails
    cases v with
    | map entries' =>
      obtain rfl := Option.some.inj hentries
      refine (refusal?_of_failWith? _ extras _ _ rfl).trans ?_
      rw [Option.isSome_map, ← List.isSome_find?]
      rfl
    | _ => cases hentries
  | predicate p =>
    obtain rfl := Option.some.inj h
    exact refusal?_of_failWith? _ extras v _ rfl

end Check

/-! ## Guards -/

/-- What is accepted as a number is one. -/
theorem NumberKind.isSome_number?_of_accepts (k : NumberKind) (v : Value)
    (h : k.test.accepts v = true) : v.number?.isSome := by
  unfold NumberKind.test at h
  cases v with
  | number x => rfl
  | _ => revert h; cases k.range? <;> cases k.isIntegral <;> exact id

namespace Rule

/-- A rule with bounds on a length only accepts what has a length. -/
theorem isSome_length?_of_accepts (rule : Rule) (v : Value) (hlengths : rule.lengths ≠ {})
    (h : rule.kindTest.accepts v = true) : v.length?.isSome := by
  cases rule with
  | object only? => exact absurd rfl hlengths
  | leaf rule =>
    cases rule with
    | number rules => exact absurd rfl hlengths
    | bool => exact absurd rfl hlengths
    | string rules =>
      cases v with
      | string s => rfl
      | _ => cases h
    | array lengths =>
      cases v with
      | list items => rfl
      | _ => cases h

/-- A rule with a pattern only accepts strings. -/
theorem isSome_string?_of_accepts (rule : Rule) (v : Value) (source : String)
    (hpattern : rule.pattern? = some source) (h : rule.kindTest.accepts v = true) :
    v.string?.isSome := by
  cases rule with
  | object only? => cases hpattern
  | leaf rule =>
    cases rule with
    | string rules =>
      cases v with
      | string s => rfl
      | _ => cases h
    | _ => cases hpattern

/-- A rule with a bound on a number only accepts numbers. -/
theorem isSome_number?_of_accepts (rule : Rule) (v : Value) (x : Binary64)
    (hbound : rule.min? = some x ∨ rule.max? = some x) (h : rule.kindTest.accepts v = true) :
    v.number?.isSome := by
  cases rule with
  | object only? => rcases hbound with hbound | hbound <;> cases hbound
  | leaf rule =>
    cases rule with
    | number rules => exact rules.kind.isSome_number?_of_accepts v h
    | _ => rcases hbound with hbound | hbound <;> cases hbound

/-- A rule that refuses other keys only accepts maps. -/
theorem isSome_map?_of_accepts (rule : Rule) (v : Value) (allowed : List String)
    (honly : rule.only? = some allowed) (h : rule.kindTest.accepts v = true) : v.map?.isSome := by
  cases rule with
  | leaf rule => cases honly
  | object only? =>
    cases v with
    | map entries => rfl
    | _ => cases h

end Rule

namespace Node

/-- The pattern of a check of a node is the one that its source spells. -/
theorem isRead_of_checkFor? [PatternLanguage] (node : Node) (path : FieldPath) (c : Constraint)
    (check : Check) (hcheck : node.checkFor? path c = some check) : check.test.IsRead := by
  intro p hp
  cases c with
  | pattern =>
    obtain ⟨source, -, hcheck⟩ := Option.bind_eq_some_iff.1 hcheck
    split at hcheck
    next q hread =>
      obtain rfl := Option.some.inj hcheck
      obtain rfl := Test.pattern.inj hp
      exact q.read_of_ofString source hread
    next => cases hcheck
  | type =>
    obtain rfl := Option.some.inj hcheck
    cases hp
  | minLen | maxLen | min | max | extra | validator =>
    obtain ⟨_, -, rfl⟩ := Option.map_eq_some_iff.1 hcheck
    cases hp

/-- Past the test of its kind, the question of every check of a node has an answer. -/
theorem isSome_answer?_of_checkFor? [PatternLanguage]
    (node : Node) (path : FieldPath) (extras : Extras) (v : Value)
    (c : Constraint) (check : Check) (hcheck : node.checkFor? path c = some check)
    (h : node.rule.kindTest.accepts v = true) :
    (check.test.question.answer? extras check.test.validator? (some v)).isSome := by
  have hread := node.isRead_of_checkFor? path c check hcheck
  -- A question about what a part has is answered if the part has it.
  have hbind {α β : Type} (x? : Option α) (f : α → β) (hx : x?.isSome) :
      (x?.bind fun x => some (f x)).isSome := by
    rw [Option.isSome_bind]
    cases x? with
    | some x => rfl
    | none => cases hx
  cases c with
  | type =>
    obtain rfl := Option.some.inj hcheck
    exact Option.isSome_of_eq_some (KindTest.answer?_question _ extras _ _)
  | minLen =>
    obtain ⟨n, hn, rfl⟩ := Option.map_eq_some_iff.1 hcheck
    have hlengths : node.rule.lengths ≠ {} := fun heq => by rw [heq] at hn; cases hn
    exact hbind _ _ (node.rule.isSome_length?_of_accepts v hlengths h)
  | maxLen =>
    obtain ⟨n, hn, rfl⟩ := Option.map_eq_some_iff.1 hcheck
    have hlengths : node.rule.lengths ≠ {} := fun heq => by rw [heq] at hn; cases hn
    exact hbind _ _ (node.rule.isSome_length?_of_accepts v hlengths h)
  | pattern =>
    obtain ⟨source, hsource, hcheck⟩ := Option.bind_eq_some_iff.1 hcheck
    have hstring := node.rule.isSome_string?_of_accepts v source hsource h
    split at hcheck
    next p _ =>
      obtain rfl := Option.some.inj hcheck
      show ((PatternLanguage.read p.source).toOption.bind fun isMatch =>
        v.string?.bind fun text => some !isMatch text).isSome
      rw [hread p rfl]
      exact hbind _ _ hstring
    next => cases hcheck
  | min =>
    obtain ⟨x, hx, rfl⟩ := Option.map_eq_some_iff.1 hcheck
    exact hbind _ _ (node.rule.isSome_number?_of_accepts v x (.inl hx) h)
  | max =>
    obtain ⟨x, hx, rfl⟩ := Option.map_eq_some_iff.1 hcheck
    exact hbind _ _ (node.rule.isSome_number?_of_accepts v x (.inr hx) h)
  | extra =>
    obtain ⟨allowed, hallowed, rfl⟩ := Option.map_eq_some_iff.1 hcheck
    exact hbind _ _ (node.rule.isSome_map?_of_accepts v allowed hallowed h)
  | validator =>
    obtain ⟨p, hp, rfl⟩ := Option.map_eq_some_iff.1 hcheck
    rfl

end Node

/-! ## One node -/

/-- A condition is asked about the part that its expression denotes. -/
theorem Condition.holds?_asks [PatternLanguage] (call : Call) (st : Progress)
    (validator? : Option Predicate) (of : Access) (question : Question) (part? : Option Value)
    (h : of.denotes? call.input st.loops = some part?) :
    (asks of question).holds? call st validator? =
      question.answer? call.extras validator? part? := by
  show (of.denotes? call.input st.loops).bind _ = _
  rw [h]
  rfl

namespace Branch

/-- A branch whose question has an answer at a value pushes what its check finds there. -/
theorem failure?_of_isSome [PatternLanguage] (call : Call) (st : Progress) (check : Check)
    (subject : Access) (path : FieldPath) (v : Value) (hread : check.test.IsRead)
    (hsubject : subject.denotes? call.input st.loops = some (some v))
    (h : (check.test.question.answer? call.extras check.test.validator? (some v)).isSome) :
    failure? call st { check, subject, path } =
      some (check.failure? call.extras path st.index? (some v)) := by
  obtain ⟨fails, hfails⟩ := Option.isSome_iff_exists.1 h
  have hholds := Condition.holds?_asks call st check.test.validator? subject check.test.question
    (some v) hsubject
  unfold failure? Check.failure? condition
  rw [hsubject, Option.bind_eq_bind, Option.bind_some, hholds, hfails, Option.bind_eq_bind,
    Option.bind_some, check.refusal?_of_answer? call.extras v fails hread hfails]
  cases fails <;> rfl

/-- If a branch pushes what `found` says, and those after it what `later` says when it pushes
nothing, then all of them together push the first of these. -/
theorem firstFailure?_cons [PatternLanguage] (call : Call) (st : Progress) (b : Branch)
    (rest : List Branch)
    (found later : Option Failure) (hfirst : b.failure? call st = some found)
    (hrest : found = none → firstFailure? call st rest = some later) :
    firstFailure? call st (b :: rest) = some (found.or later) := by
  unfold firstFailure?
  rw [hfirst]
  cases found with
  | some f => rfl
  | none => exact hrest rfl

/-- If each branch pushes what its check finds, the first branch that pushes anything does what the
first check does that finds anything. -/
theorem firstFailure?_map [PatternLanguage] (call : Call) (st : Progress)
    (checks : List Check) (branch : Check → Branch) (found : Check → Option Failure)
    (h : ∀ check ∈ checks, (branch check).failure? call st = some (found check)) :
    firstFailure? call st (checks.map branch) = some (checks.findSome? found) := by
  induction checks with
  | nil => rfl
  | cons check rest ih =>
    rw [← List.singleton_append, List.findSome?_append, List.findSome?_singleton]
    exact firstFailure?_cons call st (branch check) _ _ _ (h check List.mem_cons_self)
      fun _ => ih fun other hother => h other (List.mem_cons_of_mem _ hother)

end Branch

/-- The branch of a test of the kind pushes what the check finds, also at an absent value. -/
theorem Branch.failure?_kind [PatternLanguage] (call : Call) (st : Progress) (test : KindTest)
    (producer : Producer) (subject : Access) (path : FieldPath) (value? : Option Value)
    (hsubject : subject.denotes? call.input st.loops = some value?) :
    Branch.failure? call st
        { check := { test := .kind test, param? := none, producer }, subject, path } =
      some (Check.failure? { test := .kind test, param? := none, producer } call.extras path
        st.index? value?) := by
  cases value? with
  | some v =>
    exact failure?_of_isSome call st _ subject path v (fun p hp => by cases hp) hsubject
      (Option.isSome_of_eq_some (test.answer?_question call.extras none (some v)))
  | none =>
    have hholds := Condition.holds?_asks call st none subject test.question none hsubject
    unfold failure? Check.failure? condition
    rw [hsubject, Option.bind_eq_bind, Option.bind_some]
    show ((Condition.asks subject test.question).holds? call st none).bind _ = _
    rw [hholds, test.answer?_question]
    rfl

/-- A test of the kind finds nothing wrong with what it accepts alone. -/
theorem Check.accepts_of_failure?_kind (extras : Extras) (path : FieldPath) (index? : Option Nat)
    (test : KindTest) (producer : Producer) (value? : Option Value)
    (h : Check.failure? { test := .kind test, param? := none, producer } extras path index? value? =
      none) :
    ∃ v, value? = some v ∧ test.accepts v = true := by
  cases value? with
  | none => cases h
  | some v =>
    refine ⟨v, rfl, ?_⟩
    unfold failure? at h
    rw [refusal?_of_failIf _ extras v _ rfl] at h
    cases haccepts : test.accepts v with
    | true => rfl
    | false =>
      rw [haccepts] at h
      cases h

namespace Node

/-- The check of the kind of a node. -/
def kindCheck (node : Node) (path : FieldPath) : Check :=
  .of node.attrs.errors path .type (.kind node.rule.kindTest) none node.rule.kindText

/-- The test of the kind stands first. -/
theorem checks_eq_append [PatternLanguage] (node : Node) (path : FieldPath) :
    (node.checks path).checks =
      [node.kindCheck path] ++
        Constraint.all.tail.flatMap fun c => (node.checkFor? path c).toList := rfl

/-- If a node finds nothing wrong with a value, it is there and of the right kind. -/
theorem accepts_of_failure?_checks [PatternLanguage]
    (node : Node) (path : FieldPath) (extras : Extras)
    (index? : Option Nat) (value? : Option Value)
    (h : (node.checks path).failure? extras index? value? = none) :
    ∃ v, value? = some v ∧ node.rule.kindTest.accepts v = true :=
  Check.accepts_of_failure?_kind extras path index? node.rule.kindTest
    (node.kindCheck path).producer value?
    (List.findSome?_eq_none_iff.1 h (node.kindCheck path) List.mem_cons_self)

/-- The branches of a node push what the first failing check of its plan finds. The test of the kind
stands first, so the others only see a value of that kind. -/
theorem firstFailure?_branches [PatternLanguage]
    (node : Node) (path : FieldPath) (call : Call) (st : Progress)
    (subject : Access) (value? : Option Value)
    (hsubject : subject.denotes? call.input st.loops = some value?) :
    Branch.firstFailure? call st (Plan.branches (node.checks path) subject) =
      some ((node.checks path).failure? call.extras st.index? value?) := by
  unfold Plan.branches Cascade.failure?
  rw [checks_eq_append, List.findSome?_append, List.findSome?_singleton]
  refine Branch.firstFailure?_cons call st _ _ _ _
    (Branch.failure?_kind call st node.rule.kindTest _ subject path value? hsubject) fun hfound => ?_
  obtain ⟨v, rfl, haccepts⟩ := Check.accepts_of_failure?_kind _ _ _ _ _ value? hfound
  refine Branch.firstFailure?_map call st _ _ _ fun check hcheck => ?_
  obtain ⟨c, -, hc⟩ := List.mem_flatMap.1 hcheck
  have hc := Option.mem_toList.1 hc
  exact Branch.failure?_of_isSome call st check subject path v
    (node.isRead_of_checkFor? path c check hc) hsubject
    (node.isSome_answer?_of_checkFor? path call.extras v c check hc haccepts)

end Node

/-! ## Blocks and loops -/

namespace Progress

/-- Pushing nothing changes nothing. -/
@[simp] theorem push_nil (st : Progress) : st.push [] = st := by
  unfold push
  rw [List.append_nil]

/-- Pushing twice is pushing both. -/
@[simp] theorem push_push (st : Progress) (fs gs : List Failure) :
    (st.push fs).push gs = st.push (fs ++ gs) := by
  unfold push
  rw [List.append_assoc]

/-- What was pushed in a block stays. -/
theorem leave_eq_push (st inner : Progress) (fs : List Failure)
    (h : inner.errors = st.errors ++ fs) : st.leave inner = st.push fs := by
  unfold leave push
  rw [h]

end Progress

/-- The last finding in a list with one more element at the end is that of the element, if it has
any. -/
theorem lastFinding_concat {α β : Type} (f : Nat → α → List β) (xs : List α) (x : α) :
    ∀ i, lastFinding f i (xs ++ [x]) =
      match f (i + xs.length) x with
      | [] => lastFinding f i xs
      | found => found := by
  induction xs with
  | nil =>
    intro i
    show f i x = _
    rw [List.length_nil, Nat.add_zero]
    cases f i x <;> rfl
  | cons y ys ih =>
    intro i
    have hplace : i + 1 + ys.length = i + (y :: ys).length := by
      rw [List.length_cons, Nat.add_assoc, Nat.add_comm 1]
    rw [List.cons_append]
    unfold lastFinding
    rw [ih (i + 1), hplace]
    cases f (i + (y :: ys).length) x <;> rfl

/-- A round of a loop that began with as many errors as are remembered: the loop goes on as before
if the body has pushed nothing, and else it stops. -/
theorem Progress.countDown_succ (body : Nat → Progress → Option Progress) (st inner : Progress)
    (i : Nat) (fs : List Failure) (hbody : body i st = some inner)
    (hbefore : inner.before? = some st.errors.length) (herrors : inner.errors = st.errors ++ fs) :
    countDown body (i + 1) st =
      if fs.isEmpty then countDown body i st else some (st.push fs) := by
  have hgrown : inner.grown? = some !fs.isEmpty := by
    unfold grown?
    rw [hbefore, Option.map_some, herrors, List.length_append, Option.some_inj, Bool.eq_iff_iff]
    cases fs <;> simp
  rw [countDown, hbody, Option.bind_eq_bind, Option.bind_some, hgrown, Option.bind_eq_bind,
    Option.bind_some, st.leave_eq_push inner fs herrors]
  cases fs with
  | nil =>
    rw [st.push_nil]
    rfl
  | cons f fs => rfl

/-- A loop that has remembered the errors at its beginning pushes the last finding of its body.
Until the body finds anything, each round begins as the first one did. -/
theorem Progress.countDown_eq {α : Type} (body : Nat → Progress → Option Progress) (st : Progress)
    (loop : Nat) (items : List α) (found : Nat → α → List Failure)
    (hbefore : st.before? = some st.errors.length)
    (hbody : ∀ i x, items[i]? = some x → body i st = some ((st.enter loop i).push (found i x))) :
    countDown body items.length st = some (st.push (lastFinding found 0 items)) := by
  have hrounds : ∀ n ≤ items.length,
      countDown body n st = some (st.push (lastFinding found 0 (items.take n))) := by
    intro n
    induction n with
    | zero =>
      intro _
      unfold countDown
      rw [List.take_zero]
      exact congrArg some st.push_nil.symm
    | succ n ih =>
      intro hn
      rw [countDown_succ body st _ n _ (hbody n items[n] (List.getElem?_eq_getElem hn)) hbefore rfl,
        ih (Nat.le_of_lt hn), List.take_succ_eq_append_getElem hn, lastFinding_concat,
        List.length_take, Nat.min_eq_left (Nat.le_of_lt hn), Nat.zero_add]
      cases found n items[n] <;> rfl
  rw [hrounds items.length (Nat.le_refl _), List.take_length]

namespace Statement

/-- Running statements and then others. -/
theorem blockRun?_append [PatternLanguage] (call : Call) (block rest : List Statement)
    (st : Progress) :
    blockRun? call (block ++ rest) st = (blockRun? call block st).bind (blockRun? call rest) := by
  induction block generalizing st with
  | nil => rfl
  | cons s block ih =>
    rw [List.cons_append, blockRun?, blockRun?]
    cases s.run? call st with
    | none => rfl
    | some inner => exact ih inner

/-- A loop over a list behind a remembered number pushes the last finding of its body. -/
theorem blockRun?_scan [PatternLanguage] (call : Call) (st : Progress) (list : Access)
    (loop : Nat) (body : List Statement) (items : List Value) (found : Nat → Value → List Failure)
    (hlist : list.denotes? call.input st.loops = some (some (.list items)))
    (hbody : ∀ i x, items[i]? = some x →
      blockRun? call body (st.remember.enter loop i) =
        some ((st.remember.enter loop i).push (found i x))) :
    blockRun? call [.remember, .scan list loop body] st =
      some (st.remember.push (lastFinding found 0 items)) := by
  have hloop := Progress.countDown_eq (fun i inner => blockRun? call body (inner.enter loop i))
    st.remember loop items found rfl hbody
  show ((list.denotes? call.input st.loops).bind _).bind _ = _
  rw [hlist]
  show (Progress.countDown _ items.length st.remember).bind _ = _
  rw [hloop]
  rfl

/-- A guarded child is passed over if it is absent, and one without a guard never is. -/
theorem blockRun?_guardIf [PatternLanguage] (call : Call) (st : Progress) (optional : Bool)
    (present : Presence) (body : List Statement) (part? : Option Value) (fs : List Failure)
    (hpresent : present.condition.holds? call st none = some part?.isSome)
    (hbody : blockRun? call body st = some (st.push fs)) :
    blockRun? call (Plan.guardIf optional present body) st =
      some (st.push (if part?.isNone && optional then [] else fs)) := by
  cases optional with
  | false =>
    rw [Bool.and_false]
    exact hbody
  | true =>
    show ((present.condition.holds? call st none).bind _).bind _ = _
    rw [hpresent]
    cases part? with
    | none => exact congrArg some st.push_nil.symm
    | some v =>
      show ((blockRun? call body st).bind _).bind _ = _
      rw [hbody]
      rfl

end Statement

/-! ## Whole programs -/

/-- What is accepted as a list is one. -/
theorem Value.exists_list_of_accepts (v : Value) (h : KindTest.list.accepts v = true) :
    ∃ items, v = list items := by
  cases v with
  | list items => exact ⟨items, rfl⟩
  | _ => cases h

/-- What is accepted as a map is one. -/
theorem Value.exists_map_of_accepts (v : Value) (h : KindTest.map.accepts v = true) :
    ∃ entries, v = map entries := by
  cases v with
  | map entries => exact ⟨entries, rfl⟩
  | _ => cases h

/-- A list is longer than a position if there is an item at it. -/
theorem Presence.holds?_longerThan [PatternLanguage] (call : Call) (st : Progress)
    (subject : Access) (i : Nat) (items : List Value)
    (hsubject : subject.denotes? call.input st.loops = some (some (.list items))) :
    (longerThan subject i).condition.holds? call st none =
      some ((Value.list items).item? i).isSome := by
  refine (Condition.holds?_asks call st none subject _ _ hsubject).trans ?_
  show some (decide (i < items.length)) = some (items[i]?).isSome
  rw [Option.some_inj, Bool.eq_iff_iff]
  simp

/-- A map contains a key if there is a value under it. -/
theorem Presence.holds?_hasKey [PatternLanguage] (call : Call) (st : Progress) (subject : Access)
    (name : String) (entries : List (String × Value))
    (hsubject : subject.denotes? call.input st.loops = some (some (.map entries))) :
    (hasKey subject name).condition.holds? call st none =
      some ((Value.map entries).get? name).isSome :=
  (Condition.holds?_asks call st none subject _ _ hsubject).trans rfl

/-- What a plan of positions finds: what its own checks do, or else what the positions do. -/
theorem Plan.failures_eq_positions (own : Cascade) (plans : List Plan) (extras : Extras)
    (index? : Option Nat) (value? : Option Value) :
    (positions own plans).failures extras index? value? =
      match own.failure? extras index? value? with
      | some f => [f]
      | none => (value?.map fun v => positionFailures extras plans index? v 0).getD [] := by
  unfold failures
  cases own.failure? extras index? value? <;> cases value? <;> rfl

/-- What a plan of properties finds: what its own checks do, or else what the properties do. -/
theorem Plan.failures_eq_properties (own : Cascade) (plans : List (String × Plan)) (extras : Extras)
    (index? : Option Nat) (value? : Option Value) :
    (properties own plans).failures extras index? value? =
      match own.failure? extras index? value? with
      | some f => [f]
      | none => (value?.map fun v => propertyFailures extras plans index? v).getD [] := by
  unfold failures
  cases own.failure? extras index? value? <;> cases value? <;> rfl

namespace Node

/-- A chain of a node and statements for its children push the failure of the node, or else what the
statements push. They are only run if the value is there and of the node's kind. -/
theorem blockRun?_chainElse [PatternLanguage]
    (node : Node) (path : FieldPath) (call : Call) (st : Progress)
    (subject : Access) (value? : Option Value) (otherwise : List Statement) (fs : List Failure)
    (hsubject : subject.denotes? call.input st.loops = some value?)
    (hotherwise : ∀ v, value? = some v → node.rule.kindTest.accepts v = true →
      ∃ inner, Statement.blockRun? call otherwise st = some inner ∧
        inner.errors = st.errors ++ fs) :
    Statement.blockRun? call [.chainElse (Plan.branches (node.checks path) subject) otherwise] st =
      some (st.push
        (match (node.checks path).failure? call.extras st.index? value? with
        | some f => [f]
        | none => fs)) := by
  have hown := node.firstFailure?_branches path call st subject value? hsubject
  show ((Branch.firstFailure? call st _).bind _).bind _ = _
  rw [hown]
  cases hfound : (node.checks path).failure? call.extras st.index? value? with
  | some f => rfl
  | none =>
    obtain ⟨v, rfl, haccepts⟩ := node.accepts_of_failure?_checks path call.extras _ value? hfound
    obtain ⟨inner, hrun, herrors⟩ := hotherwise v rfl haccepts
    show ((Statement.blockRun? call otherwise st).bind _).bind _ = _
    rw [hrun]
    exact congrArg some (st.leave_eq_push inner fs herrors)

mutual

/-- The program of a node's plan pushes what a run of the plan finds. -/
theorem blockRun?_plan [PatternLanguage]
    (node : Node) (path : FieldPath) (call : Call) (subject : Access)
    (loops : Nat) (value? : Option Value) (st : Progress) (hwithin : subject.Within loops)
    (hsubject : subject.denotes? call.input st.loops = some value?) :
    Statement.blockRun? call ((node.plan path).statements subject loops) st =
      some (st.push ((node.plan path).failures call.extras st.index? value?)) := by
  cases node with
  | leaf attrs rule =>
    unfold plan Plan.statements Plan.failures
    show ((Branch.firstFailure? call st _).bind _).bind _ = _
    rw [firstFailure?_branches _ path call st subject value? hsubject]
    rfl
  | arrayOf attrs lengths item =>
    unfold plan Plan.statements Plan.failures
    refine blockRun?_chainElse _ path call st subject value? _ _ hsubject fun v hv haccepts => ?_
    obtain ⟨items, rfl⟩ := v.exists_list_of_accepts haccepts
    subst hv
    -- The body of the loop runs inside one loop more than the chain.
    refine ⟨_, Statement.blockRun?_scan call st subject loops _ items _ hsubject
      fun i x hx => ?_, rfl⟩
    refine blockRun?_plan item _ call _ _ (some x) _
      ⟨hwithin.mono _ _ _ (Nat.le_succ loops), Nat.lt_succ_self loops⟩ ?_
    rw [← hx]
    exact subject.denotes?_element call.input st.loops loops i _ hwithin hsubject
  | tuple attrs lengths positions =>
    unfold plan Plan.statements
    rw [Plan.failures_eq_positions]
    refine blockRun?_chainElse _ path call st subject value? _ _ hsubject fun v hv haccepts => ?_
    obtain ⟨items, rfl⟩ := v.exists_list_of_accepts haccepts
    subst hv
    exact ⟨_, blockRun?_positionPlans positions path call subject loops items 0 st hwithin hsubject,
      rfl⟩
  | object attrs allowExtra properties =>
    unfold plan Plan.statements
    rw [Plan.failures_eq_properties]
    refine blockRun?_chainElse _ path call st subject value? _ _ hsubject fun v hv haccepts => ?_
    obtain ⟨entries, rfl⟩ := v.exists_map_of_accepts haccepts
    subst hv
    exact ⟨_, blockRun?_propertyPlans properties path call subject loops entries st hwithin hsubject,
      rfl⟩

/-- The same for the positions of a tuple, from position `i` on. -/
theorem blockRun?_positionPlans [PatternLanguage]
    (positions : List Node) (path : FieldPath) (call : Call)
    (subject : Access) (loops : Nat) (items : List Value) (i : Nat) (st : Progress)
    (hwithin : subject.Within loops)
    (hsubject : subject.denotes? call.input st.loops = some (some (.list items))) :
    Statement.blockRun? call
        (Plan.positionStatements (positionPlans positions path i) subject loops i) st =
      some (st.push (Plan.positionFailures call.extras (positionPlans positions path i) st.index?
        (.list items) i)) := by
  cases positions with
  | nil => exact congrArg some st.push_nil.symm
  | cons node rest =>
    have hchild := blockRun?_plan node (path.child (.position i)) call (.position subject i) loops
      ((Value.list items).item? i) st hwithin (congrArg (Option.map _) hsubject)
    unfold positionPlans Plan.positionStatements Plan.positionFailures
    rw [Statement.blockRun?_append, Statement.blockRun?_guardIf call st _ _ _ _ _
      (Presence.holds?_longerThan call st subject i items hsubject) hchild]
    refine (blockRun?_positionPlans rest path call subject loops items (i + 1) (st.push _) hwithin
      hsubject).trans ?_
    rw [Progress.push_push]
    rfl

/-- The same for the properties of an object. -/
theorem blockRun?_propertyPlans [PatternLanguage]
    (properties : List (String × Node)) (path : FieldPath) (call : Call)
    (subject : Access) (loops : Nat) (entries : List (String × Value)) (st : Progress)
    (hwithin : subject.Within loops)
    (hsubject : subject.denotes? call.input st.loops = some (some (.map entries))) :
    Statement.blockRun? call
        (Plan.propertyStatements (propertyPlans properties path) subject loops) st =
      some (st.push (Plan.propertyFailures call.extras (propertyPlans properties path) st.index?
        (.map entries))) := by
  match properties with
  | [] => exact congrArg some st.push_nil.symm
  | (name, node) :: rest =>
    have hchild := blockRun?_plan node (path.child (.property name)) call (.key subject name) loops
      ((Value.map entries).get? name) st hwithin (congrArg (Option.map _) hsubject)
    unfold propertyPlans Plan.propertyStatements Plan.propertyFailures
    rw [Statement.blockRun?_append, Statement.blockRun?_guardIf call st _ _ _ _ _
      (Presence.holds?_hasKey call st subject name entries hsubject) hchild]
    refine (blockRun?_propertyPlans rest path call subject loops entries (st.push _) hwithin
      hsubject).trans ?_
    rw [Progress.push_push]
    rfl

end

end Node

end DataShape
