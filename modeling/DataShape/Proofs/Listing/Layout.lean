import DataShape.Demo
import DataShape.Proofs.Listing.Execution
import DataShape.Proofs.Listing.Printing
import DataShape.Proofs.Listing.Reading

/-!
# Listings are programs

The blocks of a listing can be read off its braces: a line that begins with a closing brace closes a
block, and a line that ends with an opening brace opens one (`Indented`).

`Schema.listing_runs_as_plan` puts together what a listing is: its text is that of the code of a
program, and of no other code; the program pushes what a run of the plan finds; and each of its
expressions denotes what the run hands to the check it stands in.
-/

namespace DataShape

/-! ## Indentation -/

namespace Line

/-- The line begins with a closing brace. -/
def closes (l : Line) : Bool := l.text.toList.head? == some '\x7d'

/-- The line ends with an opening brace. -/
def opens (l : Line) : Bool := l.text.toList.getLast? == some '\x7b'

end Line

/-- The lines lead from `before` open blocks to `after` open blocks, and each stands in as many
blocks as it is indented for: a closing brace at its beginning closes one before it, an opening
brace at its end opens one after it. -/
def Indented (before : Nat) : List Line → Nat → Prop
  | [], after => before = after
  | l :: rest, after =>
    before = l.blocks + l.closes.toNat ∧ Indented (l.blocks + l.opens.toNat) rest after

/-- What a line begins and ends with says which blocks it closes and opens. -/
theorem Indented.line (before blocks after : Nat) (text : String) (rest : List Line) (c d : Char)
    (hfirst : text.toList.head? = some c) (hlast : text.toList.getLast? = some d)
    (hbefore : before = blocks + (c == '\x7d').toNat)
    (hrest : Indented (blocks + (d == '\x7b').toNat) rest after) :
    Indented before (⟨blocks, text⟩ :: rest) after := by
  refine ⟨?_, ?_⟩
  · unfold Line.closes
    rw [hfirst, hbefore]
    rfl
  · unfold Line.opens
    rw [hlast]
    exact hrest

/-- Lines stay indented behind others. -/
theorem Indented.append (before between after : Nat) (front back : List Line)
    (hfront : Indented before front between) (hback : Indented between back after) :
    Indented before (front ++ back) after := by
  induction front generalizing before with
  | nil =>
    obtain rfl : before = between := hfront
    exact hback
  | cons l front ih => exact ⟨hfront.1, ih _ hfront.2⟩

namespace Instruction

/-- The line of the instruction begins with a closing brace. -/
def closes : Instruction → Bool
  | elseIfHolds _ => true
  | otherwise => true
  | close => true
  | _ => false

/-- The line of the instruction ends with an opening brace. -/
def opens : Instruction → Bool
  | ifHolds _ => true
  | elseIfHolds _ => true
  | otherwise => true
  | countDown _ _ => true
  | _ => false

/-- What an instruction closes can be seen in its line. -/
theorem closes_line (blocks : Nat) (instruction : Instruction) :
    (CodeLine.line ⟨blocks, instruction⟩).closes = instruction.closes := by
  unfold CodeLine.line Line.closes
  cases instruction <;> simp [text, closes]

/-- What an instruction opens can be seen in its line. -/
theorem opens_line (blocks : Nat) (instruction : Instruction) :
    (CodeLine.line ⟨blocks, instruction⟩).opens = instruction.opens := by
  have hlast (front back : String) (c : Char) (h : back.toList.getLast? = some c) :
      ((front ++ back).toList.getLast? == some '\x7b') = (c == '\x7b') := by
    rw [getLast?_toList_append front back c h]
    rfl
  cases instruction with
  | ifHolds condition => exact hlast _ _ '\x7b' rfl
  | elseIfHolds condition => exact hlast _ _ '\x7b' rfl
  | push pushed => exact hlast _ _ ';' rfl
  | countDown loop list => exact hlast _ _ '\x7b' rfl
  | otherwise => exact hlast "\x7d else " "\x7b" '\x7b' rfl
  | remember => exact hlast "let before = errors.len()" ";" ';' rfl
  | leave => exact hlast "break" ";" ';' rfl
  | close => exact hlast "" "\x7d" '\x7d' rfl

end Instruction

/-- A line of code closes and opens what its instruction does. -/
theorem Indented.codeLine (before blocks after : Nat) (instruction : Instruction) (rest : List Line)
    (hbefore : before = blocks + instruction.closes.toNat)
    (hrest : Indented (blocks + instruction.opens.toNat) rest after) :
    Indented before (CodeLine.line ⟨blocks, instruction⟩ :: rest) after := by
  refine ⟨?_, ?_⟩
  · rw [instruction.closes_line, hbefore]
    rfl
  · rw [instruction.opens_line]
    exact hrest

namespace Statement

/-- The further branches of a chain close one block each and open one. -/
theorem indented_branchCode_else (blocks : Nat) (branches : List Branch) :
    Indented (blocks + 1) ((branchCode blocks .elseIfHolds branches).map CodeLine.line)
      (blocks + 1) := by
  induction branches with
  | nil => rfl
  | cons b rest ih =>
    exact .codeLine _ blocks _ _ _ rfl (.codeLine _ (blocks + 1) _ (.push b.pushed) _ rfl ih)

/-- The branches of a chain open one block, if there are any. -/
theorem indented_branchCode (blocks : Nat) (branches : List Branch) (h : branches ≠ []) :
    Indented blocks ((branchCode blocks .ifHolds branches).map CodeLine.line) (blocks + 1) := by
  cases branches with
  | nil => exact absurd rfl h
  | cons b rest =>
    exact .codeLine _ blocks _ _ _ rfl (.codeLine _ (blocks + 1) _ (.push b.pushed) _ rfl
      (indented_branchCode_else blocks rest))

/-- A chain alone is indented. -/
theorem indented_chain (blocks : Nat) (branches : List Branch) (hbranches : branches ≠ []) :
    Indented blocks ((blockCode blocks [chain branches]).map CodeLine.line) blocks := by
  unfold blockCode code
  rw [blockCode, List.append_nil, List.map_append]
  exact (indented_branchCode blocks branches hbranches).append _ _ _ _ _
    (.codeLine _ blocks _ .close _ rfl rfl)

/-- A chain with statements behind it is indented if the statements are. -/
theorem indented_chainElse (blocks : Nat) (branches : List Branch) (otherwise : List Statement)
    (hbranches : branches ≠ [])
    (h : Indented (blocks + 1) ((blockCode (blocks + 1) otherwise).map CodeLine.line)
      (blocks + 1)) :
    Indented blocks ((blockCode blocks [chainElse branches otherwise]).map CodeLine.line)
      blocks := by
  unfold blockCode code
  rw [blockCode, List.append_nil, List.map_append]
  refine (indented_branchCode blocks branches hbranches).append _ _ _ _ _ ?_
  refine .codeLine _ blocks _ .otherwise _ rfl ?_
  rw [List.map_append]
  exact h.append _ _ _ _ _ (.codeLine _ blocks _ .close _ rfl rfl)

/-- A loop is indented if its body is. -/
theorem indented_scan (blocks : Nat) (list : Access) (loop : Nat) (body : List Statement)
    (h : Indented (blocks + 1) ((blockCode (blocks + 1) body).map CodeLine.line) (blocks + 1)) :
    Indented blocks ((blockCode blocks [remember, scan list loop body]).map CodeLine.line)
      blocks := by
  refine .codeLine _ blocks _ .remember _ rfl ?_
  unfold blockCode code
  rw [blockCode, List.append_nil]
  refine .codeLine _ blocks _ (.countDown loop list) _ rfl ?_
  rw [List.map_append]
  refine h.append _ _ _ _ _ ?_
  refine .codeLine _ (blocks + 1) _ (.ifHolds .grown) _ rfl ?_
  refine .codeLine _ (blocks + 2) _ .leave _ rfl ?_
  exact .codeLine _ (blocks + 1) _ .close _ rfl (.codeLine _ blocks _ .close _ rfl rfl)

/-- A guarded child is indented if it is without the guard, whatever the number of blocks. -/
theorem indented_guardIf (blocks : Nat) (optional : Bool) (present : Presence)
    (body : List Statement)
    (h : ∀ blocks, Indented blocks ((blockCode blocks body).map CodeLine.line) blocks) :
    Indented blocks ((blockCode blocks (Plan.guardIf optional present body)).map CodeLine.line)
      blocks := by
  cases optional with
  | false => exact h blocks
  | true =>
    show Indented blocks (((guarded present body).code blocks ++ []).map CodeLine.line) blocks
    rw [List.append_nil]
    unfold code
    refine .codeLine _ blocks _ (.ifHolds present.condition) _ rfl ?_
    rw [List.map_append]
    exact (h (blocks + 1)).append _ _ _ _ _ (.codeLine _ blocks _ .close _ rfl rfl)

/-- The code of statements is that of the first and that of the others. -/
theorem blockCode_append (blocks : Nat) (block rest : List Statement) :
    blockCode blocks (block ++ rest) = blockCode blocks block ++ blockCode blocks rest := by
  induction block with
  | nil => rfl
  | cons s block ih =>
    show s.code blocks ++ blockCode blocks (block ++ rest) =
      (s.code blocks ++ blockCode blocks block) ++ _
    rw [ih, List.append_assoc]

end Statement

namespace Node

/-- A node has at least the branch of its kind. -/
theorem branches_ne_nil [PatternLanguage] (node : Node) (path : FieldPath) (subject : Access) :
    Plan.branches (node.checks path) subject ≠ [] := List.cons_ne_nil _ _

mutual

/-- The program of a plan is indented, whatever the number of blocks around it. -/
theorem indented_plan [PatternLanguage]
    (node : Node) (path : FieldPath) (subject : Access) (loops blocks : Nat) :
    Indented blocks ((Statement.blockCode blocks
      ((node.plan path).statements subject loops)).map CodeLine.line) blocks := by
  cases node with
  | leaf attrs rule =>
    unfold plan Plan.statements
    exact Statement.indented_chain blocks _ (branches_ne_nil _ path subject)
  | arrayOf attrs lengths item =>
    unfold plan Plan.statements
    exact Statement.indented_chainElse blocks _ _ (branches_ne_nil _ path subject)
      (Statement.indented_scan (blocks + 1) subject loops _
        (indented_plan item _ _ (loops + 1) (blocks + 2)))
  | tuple attrs lengths positions =>
    unfold plan Plan.statements
    exact Statement.indented_chainElse blocks _ _ (branches_ne_nil _ path subject)
      (indented_positionPlans positions path subject loops 0 (blocks + 1))
  | object attrs allowExtra properties =>
    unfold plan Plan.statements
    exact Statement.indented_chainElse blocks _ _ (branches_ne_nil _ path subject)
      (indented_propertyPlans properties path subject loops (blocks + 1))

/-- The same for the positions of a tuple, from position `i` on. -/
theorem indented_positionPlans [PatternLanguage]
    (positions : List Node) (path : FieldPath) (subject : Access)
    (loops i blocks : Nat) :
    Indented blocks ((Statement.blockCode blocks
      (Plan.positionStatements (positionPlans positions path i) subject loops i)).map
        CodeLine.line) blocks := by
  cases positions with
  | nil => rfl
  | cons node rest =>
    unfold positionPlans Plan.positionStatements
    rw [Statement.blockCode_append, List.map_append]
    exact (Statement.indented_guardIf blocks _ _ _ fun blocks =>
      indented_plan node _ _ loops blocks).append _ _ _ _ _
        (indented_positionPlans rest path subject loops (i + 1) blocks)

/-- The same for the properties of an object. -/
theorem indented_propertyPlans [PatternLanguage]
    (properties : List (String × Node)) (path : FieldPath)
    (subject : Access) (loops blocks : Nat) :
    Indented blocks ((Statement.blockCode blocks
      (Plan.propertyStatements (propertyPlans properties path) subject loops)).map
        CodeLine.line) blocks := by
  match properties with
  | [] => rfl
  | (name, node) :: rest =>
    unfold propertyPlans Plan.propertyStatements
    rw [Statement.blockCode_append, List.map_append]
    exact (Statement.indented_guardIf blocks _ _ _ fun blocks =>
      indented_plan node _ _ loops blocks).append _ _ _ _ _
        (indented_propertyPlans rest path subject loops blocks)

end

end Node

/-- The listing of a validator is indented if its program is. -/
theorem Validator.indented_layout (v : Validator) (h : Indented 1 (v.code.map CodeLine.line) 1) :
    Indented 0 (v.layout v.code) 0 := by
  unfold layout head
  rw [List.cons_append, List.append_assoc]
  refine .line _ 0 0 _ _ 'f' '\x7b'
    (head?_toList_append _ _ 'f' (head?_toList_append _ _ 'f' rfl))
    (getLast?_toList_append _ _ _ rfl) rfl ?_
  refine Indented.append _ 1 _ _ _ ?_ ?_
  · split_ifs
    · rfl
    · exact .line _ 1 1 _ _ 'l' ';' (head?_toList_append _ _ 'l' (head?_toList_append _ _ 'l' rfl))
        (getLast?_toList_append _ _ _ rfl) rfl rfl
  · refine .line _ 1 0 _ _ 'l' ';' rfl rfl rfl (h.append _ _ _ _ _ ?_)
    exact .line _ 1 0 _ _ 'e' 's' rfl rfl rfl (.codeLine _ 0 0 .close [] rfl rfl)

/-! ## Functions without texts -/

/-- The node carries no text of a caller. -/
def Node.Sourceless (node : Node) : Prop :=
  (∀ c p, node.attrs.errors.find? c = some p → p.source? = none) ∧
    ∀ p, node.attrs.validator? = some p → p.source? = none

/-- A check of a constraint carries no text if the node does not and its test is none of the
caller. -/
theorem Check.sourceless_of (errors : Producers) (path : FieldPath) (c : Constraint) (test : Test)
    (param? : Option Value) (text : String)
    (herrors : ∀ c p, errors.find? c = some p → p.source? = none)
    (htest : ∀ p, test = .predicate p → p.source? = none) :
    (Check.of errors path c test param? text).Sourceless := by
  refine ⟨?_, htest⟩
  show ((errors.find? c).getD _).source? = none
  cases hfind : errors.find? c with
  | none => rfl
  | some p => exact herrors c p hfind

/-- The checks of a node carry no text if the node does not. -/
theorem Node.sourceless_of_mem_checks [PatternLanguage]
    (node : Node) (path : FieldPath) (check : Check)
    (hnode : node.Sourceless) (h : check ∈ (node.checks path).checks) : check.Sourceless := by
  obtain ⟨c, -, hc⟩ := List.mem_flatMap.1 h
  rw [Option.mem_toList] at hc
  have hof := fun test param? text (htest : ∀ p, test = .predicate p → p.source? = none) =>
    Check.sourceless_of node.attrs.errors path c test param? text hnode.1 htest
  cases c with
  | type =>
    obtain rfl := Option.some.inj hc
    exact hof _ _ _ fun p hp => by cases hp
  | minLen =>
    obtain ⟨n, -, rfl⟩ := Option.map_eq_some_iff.1 hc
    exact hof _ _ _ fun p hp => by cases hp
  | maxLen =>
    obtain ⟨n, -, rfl⟩ := Option.map_eq_some_iff.1 hc
    exact hof _ _ _ fun p hp => by cases hp
  | pattern =>
    obtain ⟨source, -, hp⟩ := Option.bind_eq_some_iff.1 hc
    split at hp
    · obtain rfl := Option.some.inj hp
      exact hof _ _ _ fun p hp => by cases hp
    · cases hp
  | min =>
    obtain ⟨x, -, rfl⟩ := Option.map_eq_some_iff.1 hc
    exact hof _ _ _ fun p hp => by cases hp
  | max =>
    obtain ⟨x, -, rfl⟩ := Option.map_eq_some_iff.1 hc
    exact hof _ _ _ fun p hp => by cases hp
  | extra =>
    obtain ⟨allowed, -, rfl⟩ := Option.map_eq_some_iff.1 hc
    exact hof _ _ _ fun p hp => by cases hp
  | validator =>
    obtain ⟨p, hp, rfl⟩ := Option.map_eq_some_iff.1 hc
    refine hof _ _ _ fun q hq => ?_
    obtain rfl := Test.predicate.inj hq
    exact hnode.2 p hp

/-! ## Listings -/

/-- The text of a listing tells which code is in it. -/
theorem Validator.code_eq_of_linesText (v : Validator) (code code' : List CodeLine)
    (h : linesText (v.layout code) = linesText (v.layout code')) : code = code' := by
  unfold layout at h
  rw [linesText_append, linesText_append, linesText_append, linesText_append,
    String.append_right_inj, String.append_left_inj] at h
  exact CodeLine.linesText_inj code code' h

/-- What the listing of a compiled schema is, if its functions carry no texts. It is the text of
lines without line ends, each indented by the blocks around it: a head, the code of the program of
the plan, and an end. No other code between them has this text. The program is run by what its code
says, pushes what a run of the plan finds on every input, in the same order and with the same
contexts, and is never stuck. Each of its branches is made for a check of a node of the schema. What
it pushes is read as the error that the producer of the check makes, and its expression denotes what
any trail to that node leads to, with the loop variables bound to the positions that the trail
chooses. -/
theorem Schema.listing_runs_as_plan [PatternLanguage]
    (s : Schema) (extraParams : List String) (v : Validator)
    (h : s.compile extraParams = .ok v) (hsource : ∀ place ∈ s.nodes, place.2.Sourceless) :
    (v.listing = linesText (v.layout v.code) ∧ (∀ l ∈ v.layout v.code, SingleLine l.text) ∧
      Indented 0 (v.layout v.code) 0) ∧
    (∀ code : List CodeLine, v.listing = linesText (v.layout code) → code = v.code) ∧
    (∀ input args,
      Statement.blockRun? { input, extras := { names := extraParams, args } } v.plan.program {} =
        some { errors := v.failures input args }) ∧
    ∀ b ∈ Statement.blockBranches v.plan.program,
      (∀ a : Access, a.text = b.subject.text → a = b.subject) ∧
      (∀ context, b.pushed.read b.check.producer.produce context =
        b.check.producer.produce context) ∧
      ∃ steps node, (steps, node) ∈ s.nodes ∧ b.check ∈ (node.checks (.ofSteps steps)).checks ∧
        b.path = .ofSteps steps ∧
        ∀ (input : Value) (trail : Trail) (part? : Option Value), trail.map Move.step = steps →
          input.Leads trail part? → b.subject.denotes? input (trail.bind []) = some part? := by
  obtain ⟨hdefects, rfl⟩ := (s.compile_eq_ok_iff extraParams v).1 h
  obtain ⟨hnames, -, -⟩ := (s.defects_eq_nil_iff extraParams).1 hdefects
  have hbranches : ∀ b ∈ Statement.blockBranches (s.node.plan .root).program,
      b.MadeFor s.nodes [] .input 0 := fun b hb =>
    s.node.madeFor_of_mem_statements [] .input 0 b hb
  have hsourceless : ∀ b ∈ Statement.blockBranches (s.node.plan .root).program,
      b.check.Sourceless := by
    intro b hb
    obtain ⟨below, node, hplace, hcheck, -, -⟩ := hbranches b hb
    exact node.sourceless_of_mem_checks _ _ (hsource _ hplace) hcheck
  have hlisting := Validator.listing_eq { plan := s.node.plan .root, extraParams } hsourceless
  refine ⟨⟨hlisting, Validator.singleLine_layout _ _ hnames,
    Validator.indented_layout _ (s.node.indented_plan .root .input 0 1)⟩, fun code hcode => ?_,
    fun input args => ?_, fun b hb => ⟨fun a ha => a.text_inj b.subject ha, b.read_pushed, ?_⟩⟩
  · exact Validator.code_eq_of_linesText _ code _ (hcode.symm.trans hlisting)
  · exact s.node.blockRun?_plan .root { input, extras := { names := extraParams, args } } .input 0
      (some input) {} trivial rfl
  · obtain ⟨steps, node, hplace, hcheck, hpath, hsubject⟩ := hbranches b hb
    refine ⟨steps, node, hplace, hcheck, hpath, fun input trail part? hsteps hleads => ?_⟩
    rw [hsubject, ← hsteps]
    exact hleads.denotes?_along input trail part? input [] .input trivial rfl

namespace Demo

/-- A schema of groups of named people, in which no function carries a text. -/
def groups : Schema :=
  .ofSettings
    [.property "groups" (.ofArray (.each (.ofArray
      (.each (.ofObject [.own (.property "name" name), .own (.property "hobby" hobby)])) [])) [])]

/-- The validator of the schema of groups. -/
def groupsValidator : Validator := { plan := groups.node.plan .root, extraParams := ["limit"] }

/-- Two groups, the first with a short hobby and the second with a long name. -/
def groupsSample : Value :=
  .ofEntries [("groups", toValue
    [[Value.ofEntries [("name", toValue "A"), ("hobby", toValue "dev")]],
      [Value.ofEntries [("name", toValue "abcccccccccccccccc"), ("hobby", toValue "books")]]])]

/-- The nodes of the schema of groups carry no texts. -/
theorem sourceless_groups : ∀ place ∈ groups.nodes, place.2.Sourceless := by
  have hname : name.Sourceless := by
    refine ⟨fun c p hp => ?_, fun p hp => by cases hp⟩
    cases c <;> cases hp
    rfl
  have hhobby : hobby.Sourceless := by
    refine ⟨fun c p hp => ?_, fun p hp => by cases hp⟩
    cases c <;> cases hp
    rfl
  have hplain : ∀ node : Node, node.attrs = {} → node.Sourceless := by
    intro node hattrs
    unfold Node.Sourceless
    rw [hattrs]
    exact ⟨fun c p hp => (by cases hp), fun p hp => (by cases hp)⟩
  intro place hplace
  have hnodes : groups.nodes.map Prod.snd = [name, hobby, _, _, _, _] := rfl
  have hmem : place.2 ∈ groups.nodes.map Prod.snd := List.mem_map_of_mem hplace
  rw [hnodes] at hmem
  simp only [List.mem_cons, List.not_mem_nil, or_false] at hmem
  rcases hmem with h | h | h | h | h | h
  · exact h ▸ hname
  · exact h ▸ hhobby
  · exact hplain _ (h ▸ rfl)
  · exact hplain _ (h ▸ rfl)
  · exact hplain _ (h ▸ rfl)
  · exact hplain _ (h ▸ rfl)

/-- The program of the schema of groups runs on the sample as its plan does: the loop over the
groups stops at the second one. -/
theorem listing_runs_as_plan_groups :
    groups.compile ["limit"] = .ok groupsValidator ∧
      (∀ place ∈ groups.nodes, place.2.Sourceless) ∧
      (groupsValidator.failures groupsSample []).map (fun f => f.context.path.text) =
        ["groups/*/*/name"] ∧
      (groupsValidator.listing = linesText (groupsValidator.layout groupsValidator.code) ∧
        (∀ l ∈ groupsValidator.layout groupsValidator.code, SingleLine l.text) ∧
        Indented 0 (groupsValidator.layout groupsValidator.code) 0) ∧
      (∀ code : List CodeLine, groupsValidator.listing = linesText (groupsValidator.layout code) →
        code = groupsValidator.code) ∧
      (∀ input args,
        Statement.blockRun? { input, extras := { names := ["limit"], args } }
            groupsValidator.plan.program {} =
          some { errors := groupsValidator.failures input args }) ∧
      ∀ b ∈ Statement.blockBranches groupsValidator.plan.program,
        (∀ a : Access, a.text = b.subject.text → a = b.subject) ∧
        (∀ context, b.pushed.read b.check.producer.produce context =
          b.check.producer.produce context) ∧
        ∃ steps node, (steps, node) ∈ groups.nodes ∧
          b.check ∈ (node.checks (.ofSteps steps)).checks ∧ b.path = .ofSteps steps ∧
          ∀ (input : Value) (trail : Trail) (part? : Option Value), trail.map Move.step = steps →
            input.Leads trail part? → b.subject.denotes? input (trail.bind []) = some part? := by
  have hcompile : groups.compile ["limit"] = .ok groupsValidator :=
    (groups.compile_eq_ok_iff _ _).2 ⟨by decide +kernel, rfl⟩
  exact ⟨hcompile, sourceless_groups, by decide +kernel,
    groups.listing_runs_as_plan ["limit"] groupsValidator hcompile sourceless_groups⟩

end Demo

end DataShape
