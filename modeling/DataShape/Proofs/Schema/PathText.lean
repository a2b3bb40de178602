import DataShape.Validator.Compile
import Mathlib.Data.List.Basic
import Mathlib.Data.List.Induction
import Mathlib.Data.List.TakeWhile

/-!
# The text of a path

The segments of a path are joined by slashes, but a step below the empty path takes no slash. So empty
names at the front of the steps leave no trace, and what is left is joined (`FieldPath.text_ofSteps`).

All that a path tells about its steps follows from this equation. A path has no text exactly if its
steps are properties with empty names and nothing else (`FieldPath.isRoot_ofSteps_iff`). Steps whose
segments are not empty and have no slash can be told from their path
(`FieldPath.segments_eq_of_ofSteps_eq`), and default messages begin differently at different paths
(`FieldPath.eq_of_subject_eq`).
-/

namespace DataShape

/-! ## Segments -/

/-- A segment that stands out in a path: it is not empty and has no slash. -/
def IsPlainSegment (segment : String) : Prop := segment ≠ "" ∧ '/' ∉ segment.toList

instance (segment : String) : Decidable (IsPlainSegment segment) :=
  inferInstanceAs (Decidable (_ ∧ _))

/-- Different positions have different segments. -/
theorem positionText_injective : Function.Injective (toString : Nat → String) := by
  intro i j h
  have hdigits : Nat.toDigits 10 i = Nat.toDigits 10 j := by
    rw [← Nat.toList_repr, ← Nat.toList_repr]
    exact congrArg String.toList h
  calc
    i = Nat.ofDigitChars 10 (Nat.toDigits 10 i) 0 := Nat.ofDigitChars_ten_toDigits.symm
    _ = Nat.ofDigitChars 10 (Nat.toDigits 10 j) 0 := by rw [hdigits]
    _ = j := Nat.ofDigitChars_ten_toDigits

/-- The segment of a position stands out in a path. -/
theorem isPlainSegment_position (i : Nat) : IsPlainSegment (toString i) := by
  refine ⟨Nat.repr_ne_empty, fun hslash => ?_⟩
  have hdigits : '/' ∈ Nat.toDigits 10 i := by
    rw [← Nat.toList_repr]
    exact hslash
  have hdigit := Nat.isDigit_of_mem_toDigits (by decide) (by decide) hdigits
  exact absurd hdigit (by decide)

/-- So does the segment of items. -/
theorem isPlainSegment_items : IsPlainSegment PathStep.items.segment := by
  decide

/-- Only a property can have an empty segment. -/
theorem PathStep.segment_eq_empty_iff (step : PathStep) :
    step.segment = "" ↔ step = .property "" := by
  cases step with
  | property name => simp [segment]
  | position i => simp [segment]
  | items => simp [segment]

/-! ## The text of steps -/

namespace FieldPath

/-- One more step leads from the path of the steps to the path of a child. -/
theorem ofSteps_append (steps : List PathStep) (step : PathStep) :
    ofSteps (steps ++ [step]) = (ofSteps steps).child step := by
  unfold ofSteps
  rw [List.foldl_append]
  rfl

/-- The segments that are left of steps in their path: all but the empty ones at the front. -/
def written (steps : List PathStep) : List String :=
  (steps.map PathStep.segment).dropWhile String.isEmpty

/-- Nothing is left of steps that are empty names alone. -/
theorem written_eq_nil_iff (steps : List PathStep) :
    written steps = [] ↔ ∀ step ∈ steps, step = .property "" := by
  unfold written
  rw [List.dropWhile_eq_nil_iff, List.forall_mem_map]
  refine forall₂_congr fun step _ => ?_
  rw [String.isEmpty_iff, step.segment_eq_empty_iff]

/-- All segments are left behind a first one that is not empty. -/
theorem written_cons (step : PathStep) (steps : List PathStep) (h : step.segment ≠ "") :
    written (step :: steps) = step.segment :: steps.map PathStep.segment := by
  unfold written
  rw [List.map_cons, List.dropWhile_cons_of_neg (by simpa using h)]

/-- A last step is left if it is not empty or stands behind one that is left. -/
theorem written_append (steps : List PathStep) (step : PathStep) :
    written (steps ++ [step]) =
      if (written steps).isEmpty then [step.segment].dropWhile String.isEmpty
      else written steps ++ [step.segment] := by
  unfold written
  rw [List.map_append, List.map_singleton, List.dropWhile_append]

/-- What is left has a text. -/
theorem intercalate_written_eq_empty_iff (steps : List PathStep) :
    "/".intercalate (written steps) = "" ↔ written steps = [] := by
  constructor
  · intro h
    cases hwritten : written steps with
    | nil => rfl
    | cons segment rest =>
      -- The first segment that is left is not empty.
      have hhead := List.head?_dropWhile_not String.isEmpty (steps.map PathStep.segment)
      have hfirst : segment.isEmpty = false := by
        unfold written at hwritten
        rw [hwritten] at hhead
        exact hhead
      rw [hwritten] at h
      cases rest with
      | nil =>
        rw [String.intercalate_singleton] at h
        simp [h] at hfirst
      | cons segment' rest =>
        rw [String.intercalate_cons_cons, String.append_eq_empty_iff] at h
        simp at h
  · intro h
    rw [h]
    rfl

/-- The text of steps is what is left of them, joined by slashes. -/
theorem text_ofSteps (steps : List PathStep) :
    (ofSteps steps).text = "/".intercalate (written steps) := by
  -- A path grows at its end, so the induction is from the front to the last step.
  induction steps using List.reverseRecOn with
  | nil => rfl
  | append_singleton steps step ih =>
    have hroot : (ofSteps steps).isRoot = (written steps).isEmpty := by
      rw [Bool.eq_iff_iff]
      unfold isRoot
      rw [ih, String.isEmpty_iff, intercalate_written_eq_empty_iff, List.isEmpty_iff]
    rw [ofSteps_append, written_append]
    unfold child
    rw [hroot]
    cases hwritten : written steps with
    | nil =>
      rw [List.isEmpty_nil, if_pos rfl, if_pos rfl, List.dropWhile_cons]
      cases hempty : step.segment.isEmpty with
      | true =>
        rw [if_pos rfl]
        exact String.isEmpty_iff.1 hempty
      | false =>
        rw [if_neg Bool.false_ne_true]
        exact String.intercalate_singleton.symm
    | cons segment rest =>
      rw [List.isEmpty_cons, if_neg Bool.false_ne_true, if_neg Bool.false_ne_true, ih, hwritten,
        String.intercalate_append_of_ne_nil (List.cons_ne_nil segment rest)
          (List.cons_ne_nil step.segment []), String.intercalate_singleton]

/-- The path of steps has no text exactly if the steps are empty names alone. -/
theorem isRoot_ofSteps_iff (steps : List PathStep) :
    (ofSteps steps).isRoot = true ↔ ∀ step ∈ steps, step = .property "" := by
  unfold isRoot
  rw [String.isEmpty_iff, text_ofSteps, intercalate_written_eq_empty_iff, written_eq_nil_iff]

/-! ## Steps that begin with a named property -/

/-- The path of steps that begin with a named property is not the root. -/
theorem isRoot_ofSteps_cons (name : String) (hname : name ≠ "") (steps : List PathStep) :
    (ofSteps (.property name :: steps)).isRoot = false := by
  rw [← Bool.not_eq_true, isRoot_ofSteps_iff]
  exact fun h => hname (PathStep.property.inj (h _ List.mem_cons_self))

/-- The path of steps below a property is the name of the property, followed by the path of the
steps. -/
theorem ofSteps_cons_cons (name name' : String) (hname : name ≠ "") (hname' : name' ≠ "")
    (steps : List PathStep) :
    ofSteps (.property name :: .property name' :: steps) =
      ⟨name ++ "/" ++ (ofSteps (.property name' :: steps)).text⟩ := by
  have htext : (ofSteps (.property name :: .property name' :: steps)).text =
      name ++ "/" ++ (ofSteps (.property name' :: steps)).text := by
    rw [text_ofSteps, text_ofSteps, written_cons (.property name) _ hname,
      written_cons (.property name') _ hname', List.map_cons, String.intercalate_cons_cons]
    rfl
  exact congrArg mk htext

/-! ## Steps that can be told from their path -/

/-- All segments are left if they stand out. -/
theorem written_of_isPlain (steps : List PathStep)
    (h : ∀ step ∈ steps, IsPlainSegment step.segment) :
    written steps = steps.map PathStep.segment := by
  cases steps with
  | nil => rfl
  | cons step steps => exact written_cons step steps (h step List.mem_cons_self).1

/-- Segments without slashes can be told from the text that joins them, unless it is empty. -/
theorem eq_of_intercalate_eq (segments segments' : List String)
    (h : ∀ segment ∈ segments, '/' ∉ segment.toList)
    (h' : ∀ segment ∈ segments', '/' ∉ segment.toList) (hne : segments ≠ []) (hne' : segments' ≠ [])
    (heq : "/".intercalate segments = "/".intercalate segments') : segments = segments' := by
  have hlists : ['/'].intercalate (segments.map String.toList) =
      ['/'].intercalate (segments'.map String.toList) := by
    have hchars := congrArg String.toList heq
    rwa [String.toList_intercalate, String.toList_intercalate] at hchars
  have hsplit := List.splitOn_intercalate '/' (List.forall_mem_map.2 h)
    (mt List.map_eq_nil_iff.1 hne)
  have hsplit' := List.splitOn_intercalate '/' (List.forall_mem_map.2 h')
    (mt List.map_eq_nil_iff.1 hne')
  rw [hlists, hsplit'] at hsplit
  exact (List.map_injective_iff.2 (fun _ _ h => String.toList_injective h) hsplit).symm

/-- The segments of steps can be told from their path if they stand out. -/
theorem segments_eq_of_ofSteps_eq (steps steps' : List PathStep)
    (h : ∀ step ∈ steps, IsPlainSegment step.segment)
    (h' : ∀ step ∈ steps', IsPlainSegment step.segment) (heq : ofSteps steps = ofSteps steps') :
    steps.map PathStep.segment = steps'.map PathStep.segment := by
  have htext := congrArg text heq
  rw [text_ofSteps, text_ofSteps] at htext
  have hnil := intercalate_written_eq_empty_iff steps
  have hnil' := intercalate_written_eq_empty_iff steps'
  rw [written_of_isPlain steps h] at htext hnil
  rw [written_of_isPlain steps' h'] at htext hnil'
  -- Only no segments at all have no text.
  by_cases hempty : steps.map PathStep.segment = []
  · rw [hempty]
    rw [← htext, hempty] at hnil'
    exact (hnil'.1 rfl).symm
  · have hempty' : steps'.map PathStep.segment ≠ [] := by
      rw [← hnil, htext, hnil'] at hempty
      exact hempty
    exact eq_of_intercalate_eq _ _ (List.forall_mem_map.2 fun step hstep => (h step hstep).2)
      (List.forall_mem_map.2 fun step hstep => (h' step hstep).2) hempty hempty' htext

/-! ## The beginning of default messages -/

/-- Default messages begin with the path in quotes unless it is that of the root. -/
theorem subject_of_not_isRoot (path : FieldPath) (h : path.isRoot = false) :
    path.subject = s!"Property '{path.text}'" := by
  unfold subject
  rw [h]
  rfl

/-- The empty path is called the input. -/
theorem subject_of_isRoot (path : FieldPath) (h : path.isRoot = true) : path.subject = "Input" := by
  unfold subject
  rw [h, if_pos rfl]

/-- Default messages begin with "Input" at the empty path and nowhere else. -/
theorem startsWith_subject_input_iff (path : FieldPath) (text : String) :
    (path.subject ++ text).startsWith "Input" = true ↔ path.isRoot = true := by
  rw [String.startsWith_string_iff]
  cases hroot : path.isRoot with
  | true => simp [path.subject_of_isRoot hroot]
  | false => simp [path.subject_of_not_isRoot hroot, toString]

/-- Default messages begin with the path in quotes at all other paths. -/
theorem startsWith_subject_property_iff (path : FieldPath) (text : String) :
    (path.subject ++ text).startsWith s!"Property '{path.text}'" = true ↔ path.isRoot = false := by
  rw [String.startsWith_string_iff]
  cases hroot : path.isRoot with
  | true => simp [path.subject_of_isRoot hroot, toString]
  | false => simp [path.subject_of_not_isRoot hroot, toString]

/-- Default messages begin differently at different paths. -/
theorem eq_of_subject_eq (path path' : FieldPath) (h : path.subject = path'.subject) :
    path = path' := by
  have hiff := path.startsWith_subject_input_iff ""
  rw [h, path'.startsWith_subject_input_iff ""] at hiff
  have htext : path.text = path'.text := by
    cases hroot : path.isRoot with
    | true =>
      have hroot' : path'.isRoot = true := hiff.2 hroot
      rw [String.isEmpty_iff.1 hroot, String.isEmpty_iff.1 hroot']
    | false =>
      have hroot' : path'.isRoot = false := by
        rw [hroot] at hiff
        simpa using hiff
      rw [path.subject_of_not_isRoot hroot, path'.subject_of_not_isRoot hroot',
        String.append_left_inj, String.append_right_inj] at h
      exact h
  exact congrArg FieldPath.mk htext

end FieldPath

end DataShape
