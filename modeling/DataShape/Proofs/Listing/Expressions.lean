import DataShape.Proofs.Listing.Meaning
import DataShape.Proofs.Validator.Location

/-!
# The expressions of a program

Every branch of a program is made for a check of one node, and its expression is put together from the
steps that lead to that node (`Node.madeFor_of_mem_statements`). With the loop variables bound to the
positions that a trail chooses, the expression denotes what the trail leads to
(`Value.Leads.denotes?_along`).
-/

namespace DataShape

/-- The expression for what steps lead to, with the given number of loops around it. -/
def Access.along : Access → Nat → List PathStep → Access
  | subject, _, [] => subject
  | subject, loops, .property name :: rest => (key subject name).along loops rest
  | subject, loops, .position i :: rest => (position subject i).along loops rest
  | subject, loops, .items :: rest => (element subject loops).along (loops + 1) rest

/-- The loop variables bound along a trail, each to the position that the trail chooses. -/
def Trail.bind : LoopVariables → Trail → LoopVariables
  | loops, [] => loops
  | loops, .element i :: rest => bind ((loopVariable loops.length, i) :: loops) rest
  | loops, .property _ :: rest => bind loops rest
  | loops, .position _ :: rest => bind loops rest

/-- The expression along a trail denotes what the trail leads to, if the loop variables are bound to
the positions that it chooses. -/
theorem Value.Leads.denotes?_along (v : Value) (trail : Trail) (part? : Option Value)
    (h : v.Leads trail part?) (input : Value) (loops : LoopVariables) (subject : Access)
    (hwithin : subject.Within loops.length)
    (hsubject : subject.denotes? input loops = some (some v)) :
    (subject.along loops.length (trail.map Move.step)).denotes? input (trail.bind loops) =
      some part? := by
  induction h generalizing loops subject with
  | here v => exact hsubject
  | absent v move missing chosen =>
    cases move with
    | property name =>
      rw [← missing]
      exact congrArg (Option.map _) hsubject
    | position i =>
      rw [← missing]
      exact congrArg (Option.map _) hsubject
    | element i => cases chosen
  | present v x move trail value? found below ih =>
    cases move with
    | property name =>
      refine ih loops (.key subject name) hwithin ?_
      rw [← found]
      exact congrArg (Option.map _) hsubject
    | position i =>
      refine ih loops (.position subject i) hwithin ?_
      rw [← found]
      exact congrArg (Option.map _) hsubject
    | element i =>
      refine ih ((loopVariable loops.length, i) :: loops) (.element subject loops.length)
        ⟨hwithin.mono _ _ _ (Nat.le_succ _), Nat.lt_succ_self _⟩ ?_
      rw [← found]
      exact subject.denotes?_element input loops loops.length i _ hwithin hsubject

example :
    (Access.along .input 0 [.property "users", .items, .property "age"]).text =
      "input[\"users\"][i][\"age\"]" := by
  decide +kernel

mutual

/-- All branches of a statement, with those of the blocks in it. -/
def Statement.branches : Statement → List Branch
  | chain branches => branches
  | chainElse branches otherwise => branches ++ blockBranches otherwise
  | guarded _ body => blockBranches body
  | remember => []
  | scan _ _ body => blockBranches body

/-- All branches of statements. -/
def Statement.blockBranches : List Statement → List Branch
  | [] => []
  | s :: rest => s.branches ++ blockBranches rest

end

namespace Statement

/-- The branches of statements are those of the first and those of the others. -/
theorem blockBranches_append (block rest : List Statement) :
    blockBranches (block ++ rest) = blockBranches block ++ blockBranches rest := by
  induction block with
  | nil => rfl
  | cons s block ih =>
    show s.branches ++ blockBranches (block ++ rest) = (s.branches ++ blockBranches block) ++ _
    rw [ih, List.append_assoc]

/-- A branch of a chain with statements behind it stands in the chain or in the statements. -/
theorem mem_blockBranches_chainElse (b : Branch) (branches : List Branch)
    (otherwise : List Statement) (h : b ∈ blockBranches [.chainElse branches otherwise]) :
    b ∈ branches ∨ b ∈ blockBranches otherwise :=
  List.mem_append.1 ((List.append_nil _).subst h)

/-- A guard adds no branches. -/
theorem blockBranches_guardIf (optional : Bool) (present : Presence) (body : List Statement) :
    blockBranches (Plan.guardIf optional present body) = blockBranches body := by
  cases optional with
  | false => rfl
  | true => exact List.append_nil _

end Statement

/-- A branch is made for a check of one of the nodes, and its expression is that of the steps that
lead there. -/
def Branch.MadeFor [PatternLanguage]
    (b : Branch) (places : List (List PathStep × Node)) (steps : List PathStep)
    (subject : Access) (loops : Nat) : Prop :=
  ∃ below node, (steps ++ below, node) ∈ places ∧
    b.check ∈ (node.checks (.ofSteps (steps ++ below))).checks ∧
    b.path = .ofSteps (steps ++ below) ∧ b.subject = subject.along loops below

namespace Node

/-- The branches of a node itself are made for it. -/
theorem madeFor_of_mem_branches [PatternLanguage]
    (node : Node) (places : List (List PathStep × Node))
    (steps : List PathStep) (subject : Access) (loops : Nat) (b : Branch)
    (hplace : (steps, node) ∈ places)
    (h : b ∈ Plan.branches (node.checks (.ofSteps steps)) subject) :
    b.MadeFor places steps subject loops := by
  obtain ⟨check, hcheck, rfl⟩ := List.mem_map.1 h
  refine ⟨[], node, ?_, ?_, ?_, rfl⟩
  · rwa [List.append_nil]
  · rwa [List.append_nil]
  · rw [List.append_nil]
    rfl

/-- What is made for a node below a child is made for a node below its parent. -/
theorem madeFor_of_child [PatternLanguage]
    (b : Branch) (places childPlaces : List (List PathStep × Node))
    (steps : List PathStep) (step : PathStep) (subject child : Access) (loops childLoops : Nat)
    (hplaces : ∀ place ∈ childPlaces, place ∈ places)
    (hchild : ∀ below, subject.along loops (step :: below) = child.along childLoops below)
    (h : b.MadeFor childPlaces (steps ++ [step]) child childLoops) :
    b.MadeFor places steps subject loops := by
  obtain ⟨below, node, hplace, hcheck, hpath, hsubject⟩ := h
  rw [List.append_assoc, List.singleton_append] at hplace hcheck hpath
  exact ⟨step :: below, node, hplaces _ hplace, hcheck, hpath, hsubject.trans (hchild below).symm⟩

mutual

/-- Every branch of the program of a node is made for a node of its tree. -/
theorem madeFor_of_mem_statements [PatternLanguage]
    (node : Node) (steps : List PathStep) (subject : Access)
    (loops : Nat) (b : Branch)
    (h : b ∈ Statement.blockBranches ((node.plan (.ofSteps steps)).statements subject loops)) :
    b.MadeFor (node.nodes steps) steps subject loops := by
  cases node with
  | leaf attrs rule =>
    unfold plan Plan.statements at h
    exact madeFor_of_mem_branches _ _ steps subject loops b (self_mem_nodes _ steps)
      ((List.append_nil _).subst h)
  | arrayOf attrs lengths item =>
    unfold plan Plan.statements at h
    rcases Statement.mem_blockBranches_chainElse _ _ _ h with h | h
    · exact madeFor_of_mem_branches _ _ steps subject loops b (self_mem_nodes _ steps) h
    · have h' : b ∈ Statement.blockBranches ((item.plan (.ofSteps (steps ++ [.items]))).statements
          (.element subject loops) (loops + 1)) := by
        rw [FieldPath.ofSteps_append]
        exact (List.append_nil _).subst h
      unfold nodes
      exact madeFor_of_child b _ _ steps .items subject _ loops (loops + 1)
        (fun place => List.mem_append_left _) (fun below => rfl)
        (madeFor_of_mem_statements item _ _ _ b h')
  | tuple attrs lengths positions =>
    unfold plan Plan.statements at h
    rcases Statement.mem_blockBranches_chainElse _ _ _ h with h | h
    · exact madeFor_of_mem_branches _ _ steps subject loops b (self_mem_nodes _ steps) h
    · unfold nodes
      exact madeFor_of_mem_positionStatements positions steps subject loops b 0 _
        (fun place => List.mem_append_left _) h
  | object attrs allowExtra properties =>
    unfold plan Plan.statements at h
    rcases Statement.mem_blockBranches_chainElse _ _ _ h with h | h
    · exact madeFor_of_mem_branches _ _ steps subject loops b (self_mem_nodes _ steps) h
    · unfold nodes
      exact madeFor_of_mem_propertyStatements properties steps subject loops b _
        (fun place => List.mem_append_left _) h

/-- The same for the positions of a tuple, from position `i` on. -/
theorem madeFor_of_mem_positionStatements [PatternLanguage]
    (positions : List Node) (steps : List PathStep)
    (subject : Access) (loops : Nat) (b : Branch) (i : Nat) (places : List (List PathStep × Node))
    (hplaces : ∀ place ∈ positionNodes positions steps i, place ∈ places)
    (h : b ∈ Statement.blockBranches (Plan.positionStatements
      (positionPlans positions (.ofSteps steps) i) subject loops i)) :
    b.MadeFor places steps subject loops := by
  cases positions with
  | nil => cases h
  | cons node rest =>
    unfold positionNodes at hplaces
    rw [List.forall_mem_append] at hplaces
    unfold positionPlans Plan.positionStatements at h
    rw [Statement.blockBranches_append, Statement.blockBranches_guardIf,
      ← FieldPath.ofSteps_append] at h
    rcases List.mem_append.1 h with h | h
    · exact madeFor_of_child b _ _ steps (.position i) subject _ loops loops hplaces.1
        (fun below => rfl) (madeFor_of_mem_statements node _ _ _ b h)
    · exact madeFor_of_mem_positionStatements rest steps subject loops b (i + 1) places hplaces.2 h

/-- The same for the properties of an object. -/
theorem madeFor_of_mem_propertyStatements [PatternLanguage] (properties : List (String × Node))
    (steps : List PathStep) (subject : Access) (loops : Nat) (b : Branch)
    (places : List (List PathStep × Node))
    (hplaces : ∀ place ∈ propertyNodes properties steps, place ∈ places)
    (h : b ∈ Statement.blockBranches (Plan.propertyStatements
      (propertyPlans properties (.ofSteps steps)) subject loops)) :
    b.MadeFor places steps subject loops := by
  match properties with
  | [] => cases h
  | (name, node) :: rest =>
    unfold propertyNodes at hplaces
    rw [List.forall_mem_append] at hplaces
    unfold propertyPlans Plan.propertyStatements at h
    rw [Statement.blockBranches_append, Statement.blockBranches_guardIf,
      ← FieldPath.ofSteps_append] at h
    rcases List.mem_append.1 h with h | h
    · exact madeFor_of_child b _ _ steps (.property name) subject _ loops loops hplaces.1
        (fun below => rfl) (madeFor_of_mem_statements node _ _ _ b h)
    · exact madeFor_of_mem_propertyStatements rest steps subject loops b places hplaces.2 h

end

end Node

end DataShape
