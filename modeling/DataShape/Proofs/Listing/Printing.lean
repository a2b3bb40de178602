import DataShape.Proofs.Listing.Expressions
import DataShape.Proofs.Listing.SingleLine

/-!
# What is printed is code

A listing is printed line by line, and each line of its program is an instruction: a condition is
printed as the code that a run reads (`Test.failureText_eq`, `Presence.text_eq`), and what is pushed
as the error that the producer makes (`Branch.errorText_eq`, `Branch.read_pushed`).
`Validator.layout` lists the lines, each with the number of blocks around it, and
`Validator.listing_eq` says that the listing is these lines for the code of the program. Functions
that carry a text are left out here.
-/

namespace DataShape

/-! ## What is printed of a program -/

/-- The condition of a test of the kind is printed as it is written. -/
theorem KindTest.failureText_eq (test : KindTest) (e : String) :
    test.failureText e = test.question.text e := by
  cases test <;> unfold failureText question Question.text <;>
    simp only [String.append_assoc] <;> rfl

/-- The condition of a test without a text is printed as it is written. -/
theorem Test.failureText_eq (test : Test) (e : String)
    (h : ∀ p, test = .predicate p → p.source? = none) :
    test.failureText e = test.question.text e := by
  cases test with
  | kind test => exact test.failureText_eq e
  | predicate p =>
    simp only [failureText, h p rfl]
    rfl
  | _ =>
    unfold failureText question Question.text
    simp only [String.append_assoc]
    rfl

/-- The condition of a guard is printed as it is written. -/
theorem Presence.text_eq (present : Presence) : present.text = present.condition.text := by
  cases present with
  | hasKey of name => rfl
  | longerThan of index =>
    unfold text condition Condition.text Question.text
    simp only [String.append_assoc]
    rfl

/-- What a branch without a text pushes is printed as it is written. -/
theorem Branch.errorText_eq (b : Branch) (h : b.check.producer.source? = none) :
    b.errorText = b.pushed.text := by
  unfold errorText pushed
  cases hproducer : b.check.producer with
  | literal e => rfl
  | closure run source? =>
    rw [hproducer] at h
    obtain rfl : source? = none := h
    rfl

/-- What a branch pushes is read as what its producer makes. -/
theorem Branch.read_pushed (b : Branch) (context : FailureContext) :
    b.pushed.read b.check.producer.produce context = b.check.producer.produce context := by
  unfold pushed
  cases b.check.producer <;> rfl

namespace Statement

/-- The code of the branches of a chain, the closing brace of the last one left out. -/
def branchCode (blocks : Nat) (opening : Condition → Instruction) : List Branch → List CodeLine
  | [] => []
  | b :: rest =>
    ⟨blocks, opening b.condition⟩ :: ⟨blocks + 1, .push b.pushed⟩ ::
      branchCode blocks .elseIfHolds rest

mutual

/-- The code of a statement. -/
def code (blocks : Nat) : Statement → List CodeLine
  | chain branches => branchCode blocks .ifHolds branches ++ [⟨blocks, .close⟩]
  | chainElse branches otherwise =>
    branchCode blocks .ifHolds branches ++ ⟨blocks, .otherwise⟩ ::
      (blockCode (blocks + 1) otherwise ++ [⟨blocks, .close⟩])
  | guarded present body =>
    ⟨blocks, .ifHolds present.condition⟩ ::
      (blockCode (blocks + 1) body ++ [⟨blocks, .close⟩])
  | remember => [⟨blocks, .remember⟩]
  | scan list loop body =>
    ⟨blocks, .countDown loop list⟩ ::
      (blockCode (blocks + 1) body ++
        [⟨blocks + 1, .ifHolds .grown⟩, ⟨blocks + 2, .leave⟩, ⟨blocks + 1, .close⟩,
          ⟨blocks, .close⟩])

/-- The code of statements one after the other. -/
def blockCode (blocks : Nat) : List Statement → List CodeLine
  | [] => []
  | s :: rest => s.code blocks ++ blockCode blocks rest

end

end Statement

namespace Validator

/-- The lines in front of the code of the program. -/
def head (v : Validator) : List Line :=
  let params := "input: &Value" :: v.extraParams.map fun name => s!"{name}: Option<&Value>"
  ⟨0, "fn validate(" ++ ", ".intercalate params ++ ") -> Vec<ValidationError> \x7b"⟩ ::
    ((if v.extraParams.isEmpty then []
      else [⟨1, "let extras = Extras \x7b " ++ ", ".intercalate v.extraParams ++ " \x7d;"⟩]) ++
    [⟨1, "let mut errors = Vec::new();"⟩])

/-- The lines behind the code of the program. -/
def tail : List Line := [⟨1, "errors"⟩, ⟨0, "\x7d"⟩]

/-- The code of the program of a validator. -/
def code (v : Validator) : List CodeLine := Statement.blockCode 1 v.plan.program

/-- The lines of a listing with the given code. -/
def layout (v : Validator) (code : List CodeLine) : List Line :=
  v.head ++ (code.map CodeLine.line ++ tail)

end Validator

/-! ## The text of a listing -/

/-- The check carries no text of a caller. -/
def Check.Sourceless (check : Check) : Prop :=
  check.producer.source? = none ∧ ∀ p, check.test = .predicate p → p.source? = none

namespace Statement

/-- The branches of a chain are printed line by line. -/
theorem branchLines_eq (blocks : Nat) (keyword : String) (opening : Condition → Instruction)
    (branches : List Branch)
    (hkeyword : ∀ condition, keyword ++ " " ++ condition.text ++ " \x7b" = (opening condition).text)
    (h : ∀ b ∈ branches, b.check.Sourceless) :
    branchLines blocks keyword branches =
      linesText ((branchCode blocks opening branches).map CodeLine.line) := by
  induction branches generalizing keyword opening with
  | nil => rfl
  | cons b rest ih =>
    rw [List.forall_mem_cons] at h
    have hcondition : keyword ++ " " ++ b.check.test.failureText b.subject.text ++ " \x7b" =
        (opening b.condition).text := by
      rw [b.check.test.failureText_eq _ h.1.2]
      exact hkeyword b.condition
    have hpush : "errors.push(" ++ b.errorText ++ ");" = (Instruction.push b.pushed).text := by
      rw [b.errorText_eq h.1.1]
      rfl
    unfold branchLines branchCode
    rw [hcondition, hpush, ih "\x7d else if" .elseIfHolds (fun _ => rfl) h.2, List.map_cons,
      List.map_cons, linesText_cons, linesText_cons, String.append_assoc]
    rfl

mutual

/-- A statement is printed line by line. -/
theorem lines_eq (blocks : Nat) (s : Statement) (h : ∀ b ∈ s.branches, b.check.Sourceless) :
    s.lines blocks = linesText ((s.code blocks).map CodeLine.line) := by
  cases s with
  | chain branches =>
    unfold lines code
    rw [branchLines_eq blocks "if" .ifHolds branches (fun _ => rfl) h, List.map_append,
      linesText_append]
    rfl
  | chainElse branches otherwise =>
    unfold Statement.branches at h
    rw [List.forall_mem_append] at h
    unfold lines code
    rw [branchLines_eq blocks "if" .ifHolds branches (fun _ => rfl) h.1,
      blockLines_eq (blocks + 1) otherwise h.2]
    simp [String.append_assoc, Instruction.text]
  | guarded present body =>
    have hguard : "if " ++ present.text ++ " \x7b" =
        (Instruction.ifHolds present.condition).text := by
      rw [present.text_eq]
      rfl
    unfold lines code
    rw [hguard, blockLines_eq (blocks + 1) body h]
    simp [String.append_assoc, Instruction.text]
  | remember =>
    unfold lines code
    simp [Instruction.text]
  | scan list loop body =>
    have hloop : s!"for {loopVariable loop} in (0..{list.text}.len()).rev() " ++ "\x7b" =
        (Instruction.countDown loop list).text := by
      unfold Instruction.text
      simp only [String.append_assoc]
      rfl
    unfold lines code
    rw [hloop, blockLines_eq (blocks + 1) body h]
    simp [String.append_assoc, Instruction.text, Condition.text]

/-- Statements are printed line by line. -/
theorem blockLines_eq (blocks : Nat) (block : List Statement)
    (h : ∀ b ∈ blockBranches block, b.check.Sourceless) :
    blockLines blocks block = linesText ((blockCode blocks block).map CodeLine.line) := by
  cases block with
  | nil => rfl
  | cons s rest =>
    unfold blockBranches at h
    rw [List.forall_mem_append] at h
    rw [blockLines, blockCode, lines_eq blocks s h.1, blockLines_eq blocks rest h.2,
      List.map_append, linesText_append]

end

end Statement

/-- A listing is printed line by line, if its functions carry no texts. -/
theorem Validator.listing_eq (v : Validator)
    (h : ∀ b ∈ Statement.blockBranches v.plan.program, b.check.Sourceless) :
    v.listing = linesText (v.layout v.code) := by
  unfold listing layout head tail code
  rw [Statement.blockLines_eq 1 v.plan.program h]
  cases v.extraParams.isEmpty <;> simp [String.append_assoc]

/-! ## One statement a line -/

/-- An identifier has no line end in it. -/
theorem IsIdentifier.singleLine (name : String) (h : IsIdentifier name) : SingleLine name := by
  have hpart : ¬ IsNamePart '\n' := by
    unfold IsNamePart IsNameStart
    decide
  obtain ⟨c, rest, hname, hc, hrest⟩ := h
  unfold SingleLine
  rw [hname, List.mem_cons, not_or]
  exact ⟨fun heq => hpart (heq ▸ .inl hc), fun hmem => hpart (hrest _ hmem)⟩

/-- The lines of a listing have no line end in them, if the extra arguments are named by
identifiers. -/
theorem Validator.singleLine_layout (v : Validator) (code : List CodeLine)
    (hnames : ∀ name ∈ v.extraParams, IsIdentifier name) :
    ∀ l ∈ v.layout code, SingleLine l.text := by
  have hextras := SingleLine.intercalate ", " v.extraParams (by decide)
    fun name hname => (hnames name hname).singleLine
  have hparams : SingleLine (", ".intercalate
      ("input: &Value" :: v.extraParams.map fun name => s!"{name}: Option<&Value>")) := by
    refine .intercalate ", " _ (by decide) ?_
    rw [List.forall_mem_cons, List.forall_mem_map]
    exact ⟨by decide, fun name hname =>
      .append name ": Option<&Value>" (hnames name hname).singleLine (by decide)⟩
  unfold layout head tail
  rw [List.forall_mem_append, List.forall_mem_append, List.forall_mem_cons, List.forall_mem_append,
    List.forall_mem_singleton, List.forall_mem_map, List.forall_mem_cons, List.forall_mem_singleton]
  refine ⟨⟨.between "fn validate(" _ ") -> Vec<ValidationError> \x7b" (by decide) hparams
    (by decide), ?_, (by decide : SingleLine "let mut errors = Vec::new();")⟩,
    fun l _ => l.instruction.singleLine_text, (by decide : SingleLine "errors"),
    (by decide : SingleLine "\x7d")⟩
  split_ifs
  · intro l hl
    cases hl
  · rw [List.forall_mem_singleton]
    exact .between "let extras = Extras \x7b " _ " \x7d;" (by decide) hextras (by decide)

end DataShape
