import DataShape.Proofs.Validator.Refinement

/-!
# A run that collects errors as it goes

A run may as well call the producers on the way and append each error to a list. `Plan.collect` does
so. It keeps no record of what fails, so a scan of items tells from the length of the list whether an
item had an error, and stops at the first one, from the last item on, that made the list longer.

`Plan.collect_eq` shows that this appends the errors of the failures. Each failure gives exactly one
error, whatever its producer does, so the length of the list says nothing that the failures do not.
-/

namespace DataShape

/-- Looks at items one by one, until the list of errors is longer than `before`. -/
def collectItems (look : Nat → Value → List ValidationError → List ValidationError)
    (before : Nat) : List (Value × Nat) → List ValidationError → List ValidationError
  | [], errors => errors
  | (x, i) :: rest, errors =>
    let collected := look i x errors
    if before < collected.length then collected else collectItems look before rest collected

namespace Plan

mutual

/-- Appends the errors of a plan at a value that may be absent. -/
def collect (extras : Extras) :
    Plan → Option Nat → Option Value → List ValidationError → List ValidationError
  | leaf own, index?, value?, errors =>
    match own.failure? extras index? value? with
    | some f => errors ++ [f.error]
    | none => errors
  | each own item, index?, value?, errors =>
    match own.failure? extras index? value? with
    | some f => errors ++ [f.error]
    | none =>
      collectItems (fun i v errors => item.collect extras (some i) (some v) errors) errors.length
        ((value?.bind Value.list?).getD []).zipIdx.reverse errors
  | positions own plans, index?, value?, errors =>
    match own.failure? extras index? value?, value? with
    | some f, _ => errors ++ [f.error]
    | none, some v => collectPositions extras plans index? v 0 errors
    | none, none => errors
  | properties own plans, index?, value?, errors =>
    match own.failure? extras index? value?, value? with
    | some f, _ => errors ++ [f.error]
    | none, some v => collectProperties extras plans index? v errors
    | none, none => errors

/-- Appends the errors of the plans of positions, from the given position on. -/
def collectPositions (extras : Extras) :
    List Plan → Option Nat → Value → Nat → List ValidationError → List ValidationError
  | [], _, _, _, errors => errors
  | plan :: rest, index?, v, i, errors =>
    collectPositions extras rest index? v (i + 1)
      (if plan.skips (v.item? i) then errors else plan.collect extras index? (v.item? i) errors)

/-- Appends the errors of the plans of properties. -/
def collectProperties (extras : Extras) :
    List (String × Plan) → Option Nat → Value → List ValidationError → List ValidationError
  | [], _, _, errors => errors
  | (name, plan) :: rest, index?, v, errors =>
    collectProperties extras rest index? v
      (if plan.skips (v.get? name) then errors else plan.collect extras index? (v.get? name) errors)

end

end Plan

/-- The errors of a value, collected on the way. -/
def Validator.collect (v : Validator) (value : Value) (args : List Value) : List ValidationError :=
  v.plan.collect { names := v.extraParams, args } none (some value) []

/-! ## What is appended -/

/-- If looking at an item appends a list, looking at items one by one appends the first of the lists
that is not empty. -/
theorem collectItems_eq (look : Nat → Value → List ValidationError → List ValidationError)
    (f : Nat → Value → List ValidationError)
    (hlook : ∀ i x errors, look i x errors = errors ++ f i x) (errors : List ValidationError)
    (places : List (Value × Nat)) :
    collectItems look errors.length places errors =
      errors ++ ((places.map fun p => f p.2 p.1).find? fun found => !found.isEmpty).getD [] := by
  induction places with
  | nil => simp [collectItems]
  | cons place rest ih =>
    obtain ⟨x, i⟩ := place
    unfold collectItems
    rw [hlook, List.map_cons]
    cases hfound : f i x with
    | nil => simpa [hfound] using ih
    | cons e found => simp

/-- The first nonempty list from the last one on is the last nonempty list. -/
theorem find?_reverse_getD_eq_lastNonempty {α : Type} (lists : List (List α)) :
    (lists.reverse.find? fun found => !found.isEmpty).getD [] = lastNonempty lists := by
  unfold lastNonempty
  rw [List.getLast?_filter]

/-- If looking at an item appends a list, a scan from the last item on appends what is found last. -/
theorem collectItems_reverse_eq
    (look : Nat → Value → List ValidationError → List ValidationError)
    (f : Nat → Value → List ValidationError)
    (hlook : ∀ i x errors, look i x errors = errors ++ f i x) (errors : List ValidationError)
    (xs : List Value) :
    collectItems look errors.length xs.zipIdx.reverse errors = errors ++ lastFinding f 0 xs := by
  have hlast : lastFinding f 0 xs = lastNonempty (xs.zipIdx.map fun p => f p.2 p.1) := by
    rw [lastFinding_eq, List.mapIdx_eq_zipIdx_map]
    simp only [Nat.zero_add]
  rw [collectItems_eq look f hlook, hlast, ← find?_reverse_getD_eq_lastNonempty, List.map_reverse]

/-- A function on what is found goes through to the elements of what is found last. -/
theorem map_lastFinding {α β γ : Type} (g : β → γ) (f : Nat → α → List β) (xs : List α) :
    ∀ i, (lastFinding f i xs).map g = lastFinding (fun i x => (f i x).map g) i xs := by
  induction xs with
  | nil =>
    intro i
    rfl
  | cons x xs ih =>
    intro i
    unfold lastFinding
    rw [← ih (i + 1)]
    cases lastFinding f (i + 1) xs <;> rfl

namespace Plan

mutual

/-- Collecting appends the errors of the failures. -/
theorem collect_eq (plan : Plan) (extras : Extras) (index? : Option Nat) (value? : Option Value)
    (errors : List ValidationError) :
    plan.collect extras index? value? errors =
      errors ++ (plan.failures extras index? value?).map Failure.error := by
  cases plan with
  | leaf own =>
    unfold collect failures
    cases own.failure? extras index? value? with
    | none => exact (List.append_nil errors).symm
    | some f => rfl
  | each own item =>
    unfold collect failures
    cases own.failure? extras index? value? with
    | some f => rfl
    | none =>
      show collectItems _ _ _ _ = errors ++ (lastFinding _ _ _).map _
      rw [map_lastFinding]
      exact collectItems_reverse_eq _ _
        (fun i x errors => collect_eq item extras (some i) (some x) errors) errors _
  | positions own plans =>
    unfold collect failures
    cases own.failure? extras index? value? with
    | some f => rfl
    | none =>
      cases value? with
      | none => exact (List.append_nil errors).symm
      | some v => exact collectPositions_eq plans extras index? v 0 errors
  | properties own plans =>
    unfold collect failures
    cases own.failure? extras index? value? with
    | some f => rfl
    | none =>
      cases value? with
      | none => exact (List.append_nil errors).symm
      | some v => exact collectProperties_eq plans extras index? v errors

/-- The same for the positions of a list, from the given position on. -/
theorem collectPositions_eq (plans : List Plan) (extras : Extras) (index? : Option Nat) (v : Value)
    (i : Nat) (errors : List ValidationError) :
    collectPositions extras plans index? v i errors =
      errors ++ (positionFailures extras plans index? v i).map Failure.error := by
  cases plans with
  | nil => exact (List.append_nil errors).symm
  | cons plan rest =>
    unfold collectPositions positionFailures
    rw [collectPositions_eq rest, List.map_append, ← List.append_assoc]
    congr 1
    cases plan.skips (v.item? i) with
    | true => exact (List.append_nil errors).symm
    | false => exact collect_eq plan extras index? (v.item? i) errors

/-- The same for the properties of a map. -/
theorem collectProperties_eq (plans : List (String × Plan)) (extras : Extras) (index? : Option Nat)
    (v : Value) (errors : List ValidationError) :
    collectProperties extras plans index? v errors =
      errors ++ (propertyFailures extras plans index? v).map Failure.error := by
  match plans with
  | [] => exact (List.append_nil errors).symm
  | (name, plan) :: rest =>
    unfold collectProperties propertyFailures
    rw [collectProperties_eq rest, List.map_append, ← List.append_assoc]
    congr 1
    cases plan.skips (v.get? name) with
    | true => exact (List.append_nil errors).symm
    | false => exact collect_eq plan extras index? (v.get? name) errors

end

end Plan

/-- Collecting errors on the way gives the errors of a value. -/
theorem Validator.collect_eq_validate (v : Validator) (value : Value) (args : List Value) :
    v.collect value args = v.validate value args :=
  v.plan.collect_eq _ none (some value) []

end DataShape
