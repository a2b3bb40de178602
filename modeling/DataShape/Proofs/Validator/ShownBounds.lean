import DataShape.Listing.Text
import DataShape.Proofs.Number.DecimalText
import DataShape.Proofs.Validator.LastItem
import DataShape.Proofs.Value.RoundTrip

/-!
# What is shown of a bound

A bound is kept twice, in the test of its check and as the parameter of its producer, and it is
written in three places: in the default message, in the condition of a listing and, there, as the
argument of a producer that carries a text. `Check.Shows` says what stands in each of these places, and
`Node.bounds_shown` that it does for every bound of every node that compiles.

A bound on a number is the same double everywhere: each text is read as it, the sign of a zero apart
in the argument of a listing. A bound on a length is a whole number in the test, the message and the
condition. A parameter is a double, as all numbers of values are, so there and in the argument stands
the double nearest to the bound. That is the bound itself if any double is, as up to `2^53`.
-/

namespace DataShape

/-- A bound that a node sets on the length of a value, or on a number. -/
inductive Bound
  | minLen (n : UInt64)
  | maxLen (n : UInt64)
  | min (x : Binary64)
  | max (x : Binary64)

namespace Bound

/-- The constraint that the bound belongs to. -/
def constraint : Bound → Constraint
  | minLen _ => .minLen
  | maxLen _ => .maxLen
  | min _ => .min
  | max _ => .max

/-- The test of the bound. -/
def test : Bound → Test
  | minLen n => .minLen n
  | maxLen n => .maxLen n
  | min x => .min x
  | max x => .max x

/-- The whole number that a bound on a length is. -/
def length? : Bound → Option Nat
  | minLen n => some n.toNat
  | maxLen n => some n.toNat
  | _ => none

/-- The double nearest to the bound. A bound on a number is one itself. -/
def double : Bound → Binary64
  | minLen n => .ofNat n.toNat
  | maxLen n => .ofNat n.toNat
  | min x => x
  | max x => x

/-- The value is beyond the bound. -/
def excludes (b : Bound) (v : Value) : Bool :=
  match b with
  | minLen n => v.length < n.toNat
  | maxLen n => n.toNat < v.length
  | min x => v.number?.any (·.lt x)
  | max x => v.number?.any x.lt

/-- The text of the bound in a message and in a condition. -/
def text : Bound → String
  | minLen n => toString n.toNat
  | maxLen n => toString n.toNat
  | min x => NumberStyle.plain.text x
  | max x => NumberStyle.plain.text x

/-- What stands between the subject and the bound in a condition. -/
def comparison : Bound → String
  | minLen _ => ".len() < "
  | maxLen _ => ".len() > "
  | min _ => " < "
  | max _ => " > "

/-- The text of the bound where a listing gives it to a producer. -/
def argument (b : Bound) : String := (Value.numberToJson b.double).text

end Bound

namespace Rule

/-- The rule sets the bound. -/
def Sets (rule : Rule) : Bound → Prop
  | .minLen n => rule.lengths.min? = some n
  | .maxLen n => rule.lengths.max? = some n
  | .min x => rule.min? = some x
  | .max x => rule.max? = some x

/-- The words in front of a bound in a message, and those behind it. -/
def wordsAround (rule : Rule) : Bound → String × String
  | .minLen _ => if rule.countsElements then (" must have at least ", " elements.")
    else (" must be at least ", " characters.")
  | .maxLen _ => if rule.countsElements then (" cannot have more than ", " elements.")
    else (" cannot exceed ", " characters.")
  | .min _ => (" must be at least ", ".")
  | .max _ => (" must be at most ", ".")

/-- The demand of a bound, in words. -/
def boundText (rule : Rule) (b : Bound) : String :=
  (rule.wordsAround b).1 ++ b.text ++ (rule.wordsAround b).2

end Rule

/-! ## The check of a bound -/

namespace Node

/-- The check of a bound. -/
def boundCheck (node : Node) (path : FieldPath) (b : Bound) : Check :=
  .of node.attrs.errors path b.constraint b.test (some (.number b.double)) (node.rule.boundText b)

/-- A node that sets a bound has its check. -/
theorem checkFor?_of_sets [PatternLanguage]
    (node : Node) (path : FieldPath) (b : Bound) (h : node.rule.Sets b) :
    node.checkFor? path b.constraint = some (node.boundCheck path b) := by
  cases b with
  | minLen n =>
    have htext : node.rule.minLenText n = node.rule.boundText (.minLen n) := by
      unfold Rule.minLenText Rule.boundText Rule.wordsAround
      split_ifs <;> rfl
    show node.rule.lengths.min?.map _ = _
    rw [show node.rule.lengths.min? = some n from h, Option.map_some, htext]
    rfl
  | maxLen n =>
    have htext : node.rule.maxLenText n = node.rule.boundText (.maxLen n) := by
      unfold Rule.maxLenText Rule.boundText Rule.wordsAround
      split_ifs <;> rfl
    show node.rule.lengths.max?.map _ = _
    rw [show node.rule.lengths.max? = some n from h, Option.map_some, htext]
    rfl
  | min x =>
    show node.rule.min?.map _ = _
    rw [show node.rule.min? = some x from h]
    rfl
  | max x =>
    show node.rule.max?.map _ = _
    rw [show node.rule.max? = some x from h]
    rfl

/-- A check that tests a bound is that of a bound which the node sets. -/
theorem sets_of_checkFor? [PatternLanguage]
    (node : Node) (path : FieldPath) (c : Constraint) (check : Check)
    (h : node.checkFor? path c = some check) (b : Bound) (htest : check.test = b.test) :
    node.rule.Sets b ∧ check = node.boundCheck path b := by
  -- The test tells the constraint, and the constraint tells the check.
  have hsets : c = b.constraint ∧ node.rule.Sets b := by
    cases c with
    | type =>
      rw [← Option.some.inj h] at htest
      cases b <;> cases htest
    | minLen =>
      obtain ⟨n, hn, rfl⟩ := Option.map_eq_some_iff.1 h
      cases b <;> cases htest
      exact ⟨rfl, hn⟩
    | maxLen =>
      obtain ⟨n, hn, rfl⟩ := Option.map_eq_some_iff.1 h
      cases b <;> cases htest
      exact ⟨rfl, hn⟩
    | pattern =>
      obtain ⟨source, -, hsource⟩ := Option.bind_eq_some_iff.1 h
      split at hsource
      · rw [← Option.some.inj hsource] at htest
        cases b <;> cases htest
      · cases hsource
    | min =>
      obtain ⟨x, hx, rfl⟩ := Option.map_eq_some_iff.1 h
      cases b <;> cases htest
      exact ⟨rfl, hx⟩
    | max =>
      obtain ⟨x, hx, rfl⟩ := Option.map_eq_some_iff.1 h
      cases b <;> cases htest
      exact ⟨rfl, hx⟩
    | extra =>
      obtain ⟨allowed, -, rfl⟩ := Option.map_eq_some_iff.1 h
      cases b <;> cases htest
    | validator =>
      obtain ⟨p, -, rfl⟩ := Option.map_eq_some_iff.1 h
      cases b <;> cases htest
  obtain ⟨rfl, hset⟩ := hsets
  rw [node.checkFor?_of_sets path b hset] at h
  exact ⟨hset, (Option.some.inj h).symm⟩

/-- The checks of a node that test a bound are those of the bounds which the node sets. -/
theorem mem_checks_iff [PatternLanguage]
    (node : Node) (path : FieldPath) (check : Check) (b : Bound) :
    check ∈ (node.checks path).checks ∧ check.test = b.test ↔
      node.rule.Sets b ∧ check = node.boundCheck path b := by
  constructor
  · rintro ⟨hmem, htest⟩
    obtain ⟨c, -, hc⟩ := List.mem_flatMap.1 hmem
    exact node.sets_of_checkFor? path c check (Option.mem_toList.1 hc) b htest
  · rintro ⟨hset, rfl⟩
    have hc := node.checkFor?_of_sets path b hset
    exact ⟨List.mem_flatMap.2 ⟨_, b.constraint.mem_all, Option.mem_toList.2 hc⟩, rfl⟩

/-- The bounds of a node that is configured are finite. -/
theorem isFinite_of_sets [PatternLanguage]
    (node : Node) (h : node.Configured) (b : Bound) (hset : node.rule.Sets b) :
    b.double.isFinite = true := by
  have hlength (n : UInt64) : (Binary64.ofNat n.toNat).isFinite = true := by
    rw [Binary64.ofNat_eq_ofInt]
    exact Binary64.isFinite_ofInt _ n.toNat_lt.le
  cases b with
  | minLen n => exact hlength n
  | maxLen n => exact hlength n
  | min x => exact h.minFinite x hset
  | max x => exact h.maxFinite x hset

end Node

/-- What the check of a bound shows of it, for a node at a path. -/
structure Check.Shows (check : Check) (node : Node) (path : FieldPath) (b : Bound) : Prop where
  /-- The values beyond the bound fail, and the producer is given the nearest double. -/
  compares : ∀ extras index? v, check.failure? extras path index? (some v) =
    if b.excludes v then
      some ⟨check, { value? := some v, param? := some (.number b.double), path, index?, extras }⟩
    else none
  /-- The default message has the text of the bound in its middle. -/
  prints : node.attrs.errors.find? b.constraint = none → check.producer = .literal (.message
    (path.subject ++ ((node.rule.wordsAround b).1 ++ b.text ++ (node.rule.wordsAround b).2)))
  /-- A producer that is declared takes the place of the message. -/
  produces : ∀ p, node.attrs.errors.find? b.constraint = some p → check.producer = p
  /-- The condition of a listing ends in the text of the bound. -/
  condition : ∀ e, check.test.failureText e = e ++ b.comparison ++ b.text
  /-- The text of a producer is given the argument in second place. -/
  splices : ∀ run source (subject : Access), check.producer = .closure run (some source) →
    (Branch.mk check subject path).errorText =
      ClosureText.inlineText source [subject.text, b.argument, Quoted.quote path.text]

/-- A listing gives the parameter of a check that tests a bound. -/
theorem Branch.paramText_of_bound (branch : Branch) (b : Bound) (v : Value)
    (htest : branch.check.test = b.test) (hparam : branch.check.param? = some v) :
    branch.paramText = v.toJson.text := by
  unfold paramText
  rw [htest, hparam]
  cases b <;> rfl

/-- The check of a bound shows it. -/
theorem Node.boundCheck_shows (node : Node) (path : FieldPath) (b : Bound) :
    (node.boundCheck path b).Shows node path b where
  compares extras index? v := by
    have houtcome : (node.boundCheck path b).test.outcome extras v = .failIf (b.excludes v) := by
      cases b <;> rfl
    unfold Check.failure? Check.refusal?
    simp only [houtcome]
    cases b.excludes v <;> rfl
  prints h := by
    show (node.attrs.errors.find? b.constraint).getD _ = _
    rw [h]
    rfl
  produces p h := by
    show (node.attrs.errors.find? b.constraint).getD _ = _
    rw [h]
    rfl
  condition e := by
    cases b <;> rfl
  splices run source subject h := by
    have hargument := (Branch.mk (node.boundCheck path b) subject path).paramText_of_bound b
      (.number b.double) rfl rfl
    unfold Branch.errorText Bound.argument
    simp only [h, hargument, Value.toJson]

/-! ## The numbers that are shown -/

namespace Value

/-- A document spells a number if it is numeric. -/
theorem number?_ofJson (j : Json) : (ofJson j).number? = j.number? := by
  cases j <;> simp only [ofJson, number?, Json.number?]

/-- The text of a finite double as JSON is read as the double, a negative zero as zero. -/
theorem ofText?_numberToJson (x : FiniteDouble) :
    Binary64.ofText? (numberToJson (.finite x)).text =
      some (.finite (if x = .negZero then .zero else x)) := by
  refine Json.ofText?_text _ _ ?_
  rw [← number?_ofJson, ofJson_numberToJson]
  rfl

end Value

/-- The numbers that are shown of a bound are the bound, as far as it is a double. -/
structure Bound.Agrees (b : Bound) : Prop where
  finite : b.double.isFinite = true
  /-- What a message and a condition show is read as the double. -/
  text : Binary64.ofText? b.text = some b.double
  /-- So is the argument, but for the sign of a zero. -/
  argument : ∃ y, Binary64.ofText? b.argument = some y ∧ y.equals b.double = true ∧
    (b.double ≠ .finite .negZero → y = b.double)
  /-- A message and a condition show all digits of a bound on a length. -/
  length : ∀ n, b.length? = some n → b.text = toString n
  /-- The double is a bound on a length if any double is. -/
  exact : ∀ n, b.length? = some n →
    (b.double.toInt? = some n ↔ ∃ x : Binary64, x.toInt? = some n)
  /-- Then the argument has the same digits. -/
  digits : ∀ n, b.length? = some n → b.double.toInt? = some n → b.argument = b.text
  small : ∀ n, b.length? = some n → n ≤ 2 ^ 53 → b.double.toInt? = some n

namespace Bound

/-- What is known of a bound on a length. -/
theorem length?_spec (b : Bound) (n : Nat) (h : b.length? = some n) :
    n < 2 ^ 64 ∧ b.double = .ofInt n ∧ b.text = toString n := by
  cases b with
  | minLen m =>
    rw [← Option.some.inj h]
    exact ⟨m.toNat_lt, Binary64.ofNat_eq_ofInt _, rfl⟩
  | maxLen m =>
    rw [← Option.some.inj h]
    exact ⟨m.toNat_lt, Binary64.ofNat_eq_ofInt _, rfl⟩
  | min x => cases h
  | max x => cases h

/-- The text of a finite bound is read as the double. -/
theorem ofText?_text (b : Bound) (h : b.double.isFinite = true) :
    Binary64.ofText? b.text = some b.double := by
  have hlength (n : Nat) (hn : b.length? = some n) : Binary64.ofText? b.text = some b.double := by
    obtain ⟨-, hdouble, htext⟩ := b.length?_spec n hn
    rw [hdouble, htext, ← Binary64.toString_natCast]
    exact Binary64.ofText?_toString n
  have hnumber (x : Binary64) (hx : x.isFinite = true) :
      Binary64.ofText? (NumberStyle.plain.text x) = some x := by
    cases x with
    | nan => cases hx
    | infinity neg => cases hx
    | finite y => exact NumberStyle.plain.ofText?_ofFinite y
  cases b with
  | minLen n => exact hlength n.toNat rfl
  | maxLen n => exact hlength n.toNat rfl
  | min x => exact hnumber x h
  | max x => exact hnumber x h

/-- The numbers that are shown of a finite bound agree. -/
theorem agrees (b : Bound) (h : b.double.isFinite = true) : b.Agrees where
  finite := h
  text := b.ofText?_text h
  argument := by
    unfold argument
    cases hdouble : b.double with
    | nan =>
      rw [hdouble] at h
      cases h
    | infinity neg =>
      rw [hdouble] at h
      cases h
    | finite y =>
      refine ⟨_, Value.ofText?_numberToJson y, ?_, fun hne => ?_⟩
      · split_ifs with hzero
        · rw [hzero]
          decide +kernel
        · exact beq_self_eq_true y.units
      · rw [if_neg fun hzero => hne (congrArg Binary64.finite hzero)]
  length n hn := (b.length?_spec n hn).2.2
  exact n hn := by
    rw [(b.length?_spec n hn).2.1]
    exact Binary64.toInt?_ofInt_iff n
  digits n hn hint := by
    -- The length is in the range of integers, so it is written without a point.
    obtain ⟨hlt, -, htext⟩ := b.length?_spec n hn
    have hleast : (signedRange 64).1 ≤ 0 := by decide
    have hgreatest : (unsignedRange 64).2 = 2 ^ 64 - 1 := by decide
    have hjson := Value.numberToJson_of_toInt? b.double n hint (by omega) (by omega)
    unfold argument
    rw [hjson, htext]
    unfold Json.text
    exact Binary64.toString_natCast n
  small n hn hsmall := by
    obtain ⟨x, hx⟩ := FiniteDouble.exists_toInt?_of_le n hsmall
    rw [(b.length?_spec n hn).2.1]
    exact (Binary64.toInt?_ofInt_iff n).2 ⟨.finite x, hx⟩

end Bound

/-- The bounds of a node that compiles have one check each, and the check shows the bound. The number
that values are compared with, the number in the default message and in the condition of a listing,
the parameter of a producer and the argument in a listing all are the bound, if this is a bound on a
number, and a bound on a length if a double is that length. Otherwise the parameter and the argument
are the nearest double, and the others are the bound. -/
theorem Node.bounds_shown [PatternLanguage] (node : Node) (path : FieldPath) (plan : Plan)
    (h : node.compile path = .ok plan) :
    plan.own.path = path ∧
    (∀ b, node.rule.Sets b ↔ ∃ check ∈ plan.own.checks, check.test = b.test) ∧
    ∀ check ∈ plan.own.checks, ∀ b : Bound, check.test = b.test →
      check.Shows node path b ∧ b.Agrees := by
  obtain ⟨hconfigured, rfl⟩ := (node.compile_eq_ok_iff path plan).1 h
  rw [node.own_plan path]
  refine ⟨rfl, fun b => ?_, fun check hcheck b htest => ?_⟩
  · constructor
    · intro hset
      exact ⟨_, (node.mem_checks_iff path _ b).2 ⟨hset, rfl⟩⟩
    · rintro ⟨check, hcheck⟩
      exact ((node.mem_checks_iff path check b).1 hcheck).1
  · obtain ⟨hset, rfl⟩ := (node.mem_checks_iff path check b).1 ⟨hcheck, htest⟩
    have hown := hconfigured _ (node.self_mem_nodes _)
    exact ⟨node.boundCheck_shows path b, b.agrees (node.isFinite_of_sets hown b hset)⟩

namespace Demo

/-- The greatest age is shown. -/
theorem bounds_shown_age :
    age.compile .root = .ok (age.plan .root) ∧
      ∃ check ∈ (age.plan .root).own.checks, check.test = .max (.ofNat 99) ∧
        check.Shows age .root (.max (.ofNat 99)) ∧ Bound.Agrees (.max (.ofNat 99)) := by
  have hcompile : age.compile .root = .ok (age.plan .root) :=
    (age.compile_eq_ok_iff _ _).2 ⟨(defectsOf_eq_nil_iff _).1 (by decide +kernel), rfl⟩
  obtain ⟨-, hsets, hshown⟩ := age.bounds_shown .root _ hcompile
  obtain ⟨check, hmem, htest⟩ := (hsets (.max (.ofNat 99))).1 rfl
  exact ⟨hcompile, check, hmem, htest, hshown check hmem _ htest⟩

/-- A name whose least length is one more than `2^53`, with a producer that repeats the bound. -/
def endlessName : Node :=
  .ofString
    [.own (.minLen 9007199254740993),
      .error .minLen (.closure (fun c => boundMessage "" c.param? "") (some "|v, min| min"))]

/-- A length that no double is has two numbers: one in the test and in the condition of a listing,
and another for the producer and in its place in the listing. -/
theorem two_numbers_endlessName :
    endlessName.compile .root = .ok (endlessName.plan .root) ∧
      ∃ check ∈ (endlessName.plan .root).own.checks,
        check.test = .minLen 9007199254740993 ∧
        check.test.failureText "input" = "input.len() < 9007199254740993" ∧
        check.refusal? .none (some (.string "a")) =
          some (some (.number (.ofNat 9007199254740992))) ∧
        (Binary64.ofNat 9007199254740992).toInt? = some 9007199254740992 ∧
        (Branch.mk check .input .root).errorText = "9007199254740992" := by
  have hcompile : endlessName.compile .root = .ok (endlessName.plan .root) :=
    (endlessName.compile_eq_ok_iff _ _).2 ⟨(defectsOf_eq_nil_iff _).1 (by decide +kernel), rfl⟩
  have hround : Binary64.ofNat (9007199254740993 : UInt64).toNat = .ofNat 9007199254740992 := by
    decide +kernel
  have hrefusal : (endlessName.boundCheck .root (.minLen 9007199254740993)).refusal? .none
      (some (.string "a")) = some (some (.number (.ofNat 9007199254740992))) := by
    rw [← hround]
    rfl
  have hcheck := (endlessName.mem_checks_iff .root _ (.minLen 9007199254740993)).2 ⟨rfl, rfl⟩
  rw [← endlessName.own_plan .root] at hcheck
  exact ⟨hcompile, _, hcheck.1, rfl, by decide +kernel, hrefusal, by decide +kernel,
    by decide +kernel⟩

end Demo

end DataShape
