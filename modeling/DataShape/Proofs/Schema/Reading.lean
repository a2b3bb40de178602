import DataShape.Proofs.Entries
import DataShape.Proofs.Number.MachineWord
import DataShape.Proofs.Schema.Grammar

/-!
# Reading a descriptor decides its grammar

`Schema.ofDescriptor` reads a document part by part and stops at the first fault. Here each part of
the reader is given the same specification: it succeeds exactly when the document has the form that
the grammar asks for, and then the result is what the document spells. `Schema.ofDescriptor_eq_ok_iff`
says this of whole documents.

A part that looks at one key is specified by `Under`, the condition that what stands under the key,
if anything does, has a form. The forms of all keys together are the forms of the keys that a node
may have, since it has no others (`forall_hasForm_iff`).
-/

namespace DataShape

/-- Two steps in a row succeed when both do. -/
theorem bind_eq_ok_iff {α β : Type} (x : Except Defect α) (f : α → Except Defect β) (b : β) :
    x >>= f = .ok b ↔ ∃ a, x = .ok a ∧ f a = .ok b := by
  cases x with
  | error d =>
    constructor
    · intro h
      cases h
    · rintro ⟨a, ha, -⟩
      cases ha
  | ok a =>
    constructor
    · intro h
      exact ⟨a, rfl, h⟩
    · rintro ⟨a', ha, h⟩
      cases ha
      exact h

namespace Descriptor

/-- What stands under a key, if anything does, has a form. -/
def Under (entries : List (String × Json)) (key : String) (Form : Json → Prop) : Prop :=
  ∀ j, Entries.find? entries key = some j → Form j

/-- What stands under a key has a form when its value does. -/
theorem under_iff_of_find? (entries : List (String × Json)) (key : String) (j : Json)
    (h : Entries.find? entries key = some j) (Form : Json → Prop) :
    Under entries key Form ↔ Form j := by
  unfold Under
  rw [h]
  simp

/-- What does not stand there has any form. -/
theorem under_of_find?_none (entries : List (String × Json)) (key : String)
    (h : Entries.find? entries key = none) (Form : Json → Prop) : Under entries key Form := by
  intro j hj
  rw [h] at hj
  cases hj

/-- The value of an entry. -/
theorem valueAt_of_find? (entries : List (String × Json)) (key : String) (j : Json)
    (h : Entries.find? entries key = some j) : valueAt entries key = j := by
  unfold valueAt
  rw [h]
  rfl

/-- The value where no entry is. -/
theorem valueAt_of_find?_none (entries : List (String × Json)) (key : String)
    (h : Entries.find? entries key = none) : valueAt entries key = .null := by
  unfold valueAt
  rw [h]
  rfl

/-! ## Keys -/

/-- Only keys have something under them. -/
theorem mem_keys_of_find? (entries : List (String × Json)) (key : String) (j : Json)
    (h : Entries.find? entries key = some j) : key ∈ Entries.keys entries :=
  List.mem_map.2 ⟨(key, j), Entries.mem_of_find? entries key j h, rfl⟩

/-- Nothing stands under what is no key. -/
theorem valueAt_of_not_mem (entries : List (String × Json)) (key : String)
    (h : key ∉ Entries.keys entries) : valueAt entries key = .null := by
  cases hfind : Entries.find? entries key with
  | none => exact valueAt_of_find?_none entries key hfind
  | some j => exact absurd (mem_keys_of_find? entries key j hfind) h

/-- All values have the form of their keys when those under the allowed keys do. -/
theorem forall_hasForm_iff (entries : List (String × Json)) (allowed : List String)
    (constraints : List Constraint) (h : ∀ key ∈ Entries.keys entries, key ∈ allowed) :
    (∀ key j, Entries.find? entries key = some j → HasForm constraints key j) ↔
      ∀ key ∈ allowed, Under entries key (HasForm constraints key) := by
  constructor
  · intro hforms key _ j hj
    exact hforms key j hj
  · intro hunder key j hj
    exact hunder key (h key (mem_keys_of_find? entries key j hj)) j hj

/-- The test of keys finds those that are not allowed. -/
theorem checkKeys_eq_ok_iff (path : FieldPath) (allowed : List String)
    (entries : List (String × Json)) (u : Unit) :
    checkKeys path allowed entries = .ok u ↔ ∀ key ∈ Entries.keys entries, key ∈ allowed := by
  unfold checkKeys
  cases hfind : (Entries.keys entries).find? fun key => !allowed.contains key with
  | none =>
    rw [List.find?_eq_none] at hfind
    simpa using hfind
  | some key =>
    have hmem := List.mem_of_find?_eq_some hfind
    have hnot := List.find?_some hfind
    constructor
    · intro h
      cases h
    · intro h
      simp [h key hmem] at hnot

/-! ## Values under a key -/

/-- The entries of a document are those of an object. -/
theorem entries_eq_ok_iff (path : FieldPath) (j : Json) (es : List (String × Json)) :
    entries path j = .ok es ↔ j = .object es := by
  unfold entries
  cases j <;> simp [Json.entries?]

/-- A value that may be missing is read when it has the form of what the reader takes. -/
theorem optionalField_eq_ok_iff {α : Type} (path : FieldPath) (entries : List (String × Json))
    (key : String) (fault : DescriptorFault) (read? meaning : Json → Option α) (Form : Json → Prop)
    (hread : ∀ j x, read? j = some x ↔ Form j ∧ meaning j = some x) (hnull : meaning .null = none)
    (hsome : ∀ j, Form j → ∃ x, meaning j = some x) (x? : Option α) :
    optionalField path entries key fault read? = .ok x? ↔
      Under entries key Form ∧ meaning (valueAt entries key) = x? := by
  unfold optionalField Under valueAt
  cases Entries.find? entries key with
  | none => simp [hnull]
  | some j =>
    simp only [Option.some.injEq, forall_eq', Option.getD_some]
    cases hj : read? j with
    | some x =>
      obtain ⟨hform, hmeaning⟩ := (hread j x).1 hj
      simp [hform, hmeaning]
    | none =>
      -- A document of the form has a meaning, so the reader would have taken it.
      constructor
      · intro h
        cases h
      · rintro ⟨hform, -⟩
        obtain ⟨x, hx⟩ := hsome j hform
        rw [(hread j x).2 ⟨hform, hx⟩] at hj
        cases hj

/-- An integer from 0 that fits into 64 bits is read as a length. -/
theorem decode?_length_eq_some_iff (j : Json) (n : UInt64) :
    Decode.decode? j = some n ↔ IsLength j ∧ lengthOf j = some n := by
  have hrange : unsignedRange 64 = (0, ((Nat.pow 2 64 : Nat) : Int) - 1) := rfl
  show (j.intWithin? (unsignedRange 64)).map (fun n => UInt64.ofNat n.toNat) = some n ↔ _
  rw [Option.map_eq_some_iff]
  simp only [Json.intWithin?_eq_some_iff, hrange]
  constructor
  · rintro ⟨i, ⟨rfl, hlo, hhi⟩, rfl⟩
    exact ⟨⟨i, rfl, hlo, by omega⟩, rfl⟩
  · rintro ⟨⟨i, rfl, hlo, hhi⟩, hn⟩
    exact ⟨i, ⟨rfl, hlo, by omega⟩, Option.some.inj hn⟩

/-- An integer in the range of 64 bits with a sign is read as a code. -/
theorem decode?_code_eq_some_iff (j : Json) (code : Int64) :
    Decode.decode? j = some code ↔ IsCode j ∧ codeOf j = code := by
  have hrange : signedRange 64 =
      (-((Nat.pow 2 63 : Nat) : Int), ((Nat.pow 2 63 : Nat) : Int) - 1) := rfl
  show (j.intWithin? (signedRange 64)).map Int64.ofInt = some code ↔ _
  rw [Option.map_eq_some_iff]
  simp only [Json.intWithin?_eq_some_iff, hrange]
  constructor
  · rintro ⟨i, ⟨rfl, hlo, hhi⟩, rfl⟩
    exact ⟨⟨i, rfl, hlo, by omega⟩, rfl⟩
  · rintro ⟨⟨i, rfl, hlo, hhi⟩, hcode⟩
    exact ⟨i, ⟨rfl, hlo, by omega⟩, hcode⟩

/-- Bounds on a length are read when both are lengths. -/
theorem lengths_eq_ok_iff (path : FieldPath) (es : List (String × Json)) (bounds : LengthBounds) :
    lengths path es = .ok bounds ↔
      Under es "minLen" IsLength ∧ Under es "maxLen" IsLength ∧ lengthsOf es = bounds := by
  have hlength (key : String) (n? : Option UInt64) :
      length? path es key = .ok n? ↔ Under es key IsLength ∧ lengthOf (valueAt es key) = n? :=
    optionalField_eq_ok_iff path es key _ _ lengthOf IsLength decode?_length_eq_some_iff rfl
      (fun j hj => by obtain ⟨n, rfl, -⟩ := hj; exact ⟨_, rfl⟩) n?
  unfold lengths
  simp only [bind_eq_ok_iff, hlength]
  constructor
  · rintro ⟨_, ⟨hmin, rfl⟩, _, ⟨hmax, rfl⟩, hbounds⟩
    exact ⟨hmin, hmax, Except.ok.inj hbounds⟩
  · rintro ⟨hmin, hmax, rfl⟩
    exact ⟨_, ⟨hmin, rfl⟩, _, ⟨hmax, rfl⟩, rfl⟩

/-- A bound on a number is read when it is a number. -/
theorem number?_eq_ok_iff (path : FieldPath) (es : List (String × Json)) (key : String)
    (x? : Option Binary64) :
    number? path es key = .ok x? ↔
      Under es key IsNumber ∧ (valueAt es key).number? = x? :=
  optionalField_eq_ok_iff path es key _ _ Json.number? IsNumber
    (fun j x => by cases j <;> simp [IsNumber, Json.number?]) rfl
    (fun j hj => by rcases hj with ⟨n, rfl⟩ | ⟨x, rfl⟩ <;> exact ⟨_, rfl⟩) x?

/-- A pattern is read when it is a string. -/
theorem pattern_eq_ok_iff (path : FieldPath) (es : List (String × Json)) (text? : Option String) :
    optionalField path es "pattern" .patternNotString Json.string? = .ok text? ↔
      Under es "pattern" IsText ∧ (valueAt es "pattern").string? = text? :=
  optionalField_eq_ok_iff path es "pattern" _ _ Json.string? IsText
    (fun j x => by cases j <;> simp [IsText, Json.string?]) rfl
    (fun j hj => by obtain ⟨text, rfl⟩ := hj; exact ⟨_, rfl⟩) text?

/-- A flag is read when it is a boolean. -/
theorem flag_eq_ok_iff (path : FieldPath) (es : List (String × Json)) (key : String)
    (default b : Bool) :
    flag path es key default = .ok b ↔ Under es key IsFlag ∧ flagOf es key default = b := by
  have hfield := optionalField_eq_ok_iff path es key (.notBool key) Json.bool? Json.bool? IsFlag
    (fun j x => by cases j <;> simp [IsFlag, Json.bool?]) rfl
    (fun j hj => by obtain ⟨b, rfl⟩ := hj; exact ⟨_, rfl⟩)
  unfold flag flagOf
  simp only [bind_eq_ok_iff, hfield]
  constructor
  · rintro ⟨_, ⟨hform, rfl⟩, hb⟩
    exact ⟨hform, Except.ok.inj hb⟩
  · rintro ⟨hform, rfl⟩
    exact ⟨_, ⟨hform, rfl⟩, rfl⟩

/-! ## Errors -/

/-- An error is read when it is a message, a code or an object with a code. -/
theorem literal_eq_ok_iff (path : FieldPath) (j : Json) (e : ValidationError) :
    literal path j = .ok e ↔ IsError j ∧ errorOf j = e := by
  cases j with
  | string text => simp [literal, IsError, IsText, errorOf]
  | int n =>
    have hcode := decode?_code_eq_some_iff (.int n)
    cases hn : (Decode.decode? (.int n) : Option Int64) with
    | some code =>
      obtain ⟨hform, rfl⟩ := (hcode code).1 hn
      simp [literal, hn, IsError, hform, errorOf]
    | none =>
      have hnot : ¬ IsCode (.int n) := fun hform => by
        rw [(hcode _).2 ⟨hform, rfl⟩] at hn
        cases hn
      simp [literal, hn, IsError, IsText, hnot]
  | object es =>
    -- The form of an object is that of its code.
    cases hfind : Entries.find? es "code" with
    | none => simp [literal, hfind, IsError, IsText, IsCode]
    | some j =>
      have hcode := decode?_code_eq_some_iff j
      cases hj : (Decode.decode? j : Option Int64) with
      | some code =>
        obtain ⟨hform, rfl⟩ := (hcode code).1 hj
        simp [literal, hfind, hj, IsError, hform, errorOf, valueAt]
      | none =>
        have hnot : ¬ IsCode j := fun hform => by
          rw [(hcode _).2 ⟨hform, rfl⟩] at hj
          cases hj
        have hobject : ¬ IsCode (.object es) := fun hform => by
          obtain ⟨n, hn, -⟩ := hform
          cases hn
        simp [literal, hfind, hj, IsError, IsText, hnot, hobject]
  | _ => simp [literal, IsError, IsText, IsCode]

/-- The constraint with a name is the one that has it. -/
theorem ofName?_eq_some_iff (name : String) (c : Constraint) :
    Constraint.ofName? name = some c ↔ c.name = name := by
  constructor
  · intro h
    unfold Constraint.ofName? at h
    have hfound := List.find?_some h
    exact eq_of_beq hfound
  · rintro rfl
    cases c <;> decide

/-- Constraints have different names. -/
theorem name_eq_name_iff (c d : Constraint) : c.name = d.name ↔ c = d := by
  rw [← ofName?_eq_some_iff d.name c, (ofName?_eq_some_iff d.name d).2 rfl, Option.some_inj,
    eq_comm]

/-- The producers of some entries, with those of `ps` where the entries have none. -/
def overlay (es : List (String × Json)) (ps : Producers) : Producers where
  find? c := ((Entries.find? es.reverse c.name).map fun error => .literal (errorOf error)).or
    (ps.find? c)

/-- The first entry is set before the others. -/
theorem overlay_cons (c : Constraint) (j : Json) (es : List (String × Json)) (ps : Producers) :
    overlay ((c.name, j) :: es) ps = overlay es (ps.insert c (.literal (errorOf j))) := by
  unfold overlay Producers.insert Entries.find?
  congr 1
  funext d
  rw [List.reverse_cons, List.lookup_append, Option.map_or, Option.or_assoc]
  congr 1
  rw [List.lookup_cons, List.lookup_nil]
  by_cases hd : d = c
  · simp [hd]
  · have hne : (d.name == c.name) = false := by simp [name_eq_name_iff, hd]
    simp [hd, hne]

/-- Producers are read one by one, the later over the earlier ones. -/
theorem producersOf_eq_ok_iff (path : FieldPath) (allowed : List Constraint)
    (es : List (String × Json)) : ∀ ps qs : Producers,
    producersOf path allowed es ps = .ok qs ↔
      (∀ e ∈ es, (∃ c ∈ allowed, c.name = e.1) ∧ IsError e.2) ∧ overlay es ps = qs := by
  -- The producers set so far grow on the way, so the statement is about any of them.
  induction es with
  | nil =>
    intro ps qs
    simp [producersOf, overlay, Entries.find?]
  | cons e rest ih =>
    intro ps qs
    obtain ⟨name, j⟩ := e
    unfold producersOf
    cases hname : (Constraint.ofName? name).filter allowed.contains with
    | none =>
      constructor
      · intro h
        cases h
      · rintro ⟨hall, -⟩
        obtain ⟨⟨c, hc, hcname⟩, -⟩ := hall _ List.mem_cons_self
        rw [(ofName?_eq_some_iff name c).2 hcname] at hname
        simp [hc] at hname
    | some c =>
      rw [Option.filter_eq_some_iff, ofName?_eq_some_iff] at hname
      obtain ⟨rfl, hc⟩ := hname
      simp only [bind_eq_ok_iff, literal_eq_ok_iff, ih, List.forall_mem_cons, overlay_cons]
      constructor
      · rintro ⟨_, ⟨hj, rfl⟩, hrest, rfl⟩
        exact ⟨⟨⟨⟨c, List.contains_iff_mem.1 hc, rfl⟩, hj⟩, hrest⟩, rfl⟩
      · rintro ⟨⟨⟨-, hj⟩, hrest⟩, rfl⟩
        exact ⟨_, ⟨hj, rfl⟩, hrest, rfl⟩

/-- Producers are read when each entry is an error of an allowed constraint. -/
theorem producers_eq_ok_iff (path : FieldPath) (allowed : List Constraint)
    (es : List (String × Json)) (ps : Producers) :
    producers path allowed es = .ok ps ↔
      Under es "errors" (IsErrors allowed) ∧ errorsOf (valueAt es "errors") = ps := by
  unfold producers Under valueAt
  cases Entries.find? es "errors" with
  | none =>
    simp only [reduceCtorEq, false_implies, implies_true, true_and]
    exact ⟨Except.ok.inj, congrArg Except.ok⟩
  | some j =>
    have hoverlay (entries : List (String × Json)) :
        overlay entries {} = errorsOf (.object entries) := by
      simp [overlay, errorsOf, Json.members]
    simp only [bind_eq_ok_iff, entries_eq_ok_iff, producersOf_eq_ok_iff, Option.some.injEq,
      forall_eq', Option.getD_some, hoverlay]
    constructor
    · rintro ⟨entries, rfl, hall, rfl⟩
      exact ⟨⟨entries, rfl, hall⟩, rfl⟩
    · rintro ⟨⟨entries, rfl, hall⟩, rfl⟩
      exact ⟨entries, rfl, hall, rfl⟩

/-! ## Nodes without children -/

/-- The attributes of a node are read when its flag and its errors are. -/
theorem attributes_eq_ok_iff (path : FieldPath) (rule : Rule) (es : List (String × Json))
    (attrs : Attributes) :
    attributes path rule es = .ok attrs ↔
      Under es "optional" IsFlag ∧ Under es "errors" (IsErrors rule.constraints) ∧
        attributesOf es = attrs := by
  unfold attributes
  simp only [bind_eq_ok_iff, flag_eq_ok_iff, producers_eq_ok_iff]
  constructor
  · rintro ⟨_, ⟨hflag, rfl⟩, _, ⟨herrors, rfl⟩, hattrs⟩
    exact ⟨hflag, herrors, Except.ok.inj hattrs⟩
  · rintro ⟨hflag, herrors, rfl⟩
    exact ⟨_, ⟨hflag, rfl⟩, _, ⟨herrors, rfl⟩, rfl⟩

/-- A leaf is read when its attributes are. -/
theorem leaf_eq_ok_iff (path : FieldPath) (es : List (String × Json)) (rule : LeafRule)
    (node : Node) :
    leaf path es rule = .ok node ↔
      Under es "optional" IsFlag ∧ Under es "errors" (IsErrors rule.constraints) ∧
        .leaf (attributesOf es) rule = node := by
  unfold leaf
  simp only [bind_eq_ok_iff, attributes_eq_ok_iff]
  constructor
  · rintro ⟨_, ⟨hflag, herrors, rfl⟩, hnode⟩
    exact ⟨hflag, herrors, Except.ok.inj hnode⟩
  · rintro ⟨hflag, herrors, rfl⟩
    exact ⟨_, ⟨hflag, herrors, rfl⟩, rfl⟩

/-- The tag is the string under its key. -/
theorem tag_eq_ok_iff (path : FieldPath) (es : List (String × Json)) (text : String) :
    tag path es = .ok text ↔ Entries.find? es "type" = some (.string text) := by
  unfold tag
  cases Entries.find? es "type" with
  | none => simp
  | some j => cases j <;> simp

/-- The tag is what the entries spell as their tag. -/
theorem tagOf_eq (es : List (String × Json)) (text : String)
    (htag : Entries.find? es "type" = some (.string text)) :
    (valueAt es "type").string?.getD "" = text := by
  rw [valueAt_of_find? es "type" _ htag]
  rfl

/-- The shape of a node is that of its tag. -/
theorem shape_of_isNode (es : List (String × Json)) (text : String)
    (htag : Entries.find? es "type" = some (.string text)) (h : IsNode (.object es)) :
    ∃ shape, shape? text = some shape ∧
      (∀ key ∈ Entries.keys es, key ∈ ["type", "optional", "errors"] ++ shape.keys) ∧
      (∀ key j, Entries.find? es key = some j → HasForm shape.constraints key j) ∧
      ∀ j ∈ children es, IsNode j := by
  cases h with
  | object _ text' shape type known keys forms below =>
    have htext : Json.string text = .string text' := Option.some.inj (htag.symm.trans type)
    rw [Json.string.inj htext]
    exact ⟨shape, known, keys, forms, below⟩

/-- An object with a known tag spells a node when its keys, their values and what stands below are
as the shape of the tag asks. -/
theorem isNode_object_iff (es : List (String × Json)) (text : String) (shape : Shape)
    (htag : Entries.find? es "type" = some (.string text)) (hshape : shape? text = some shape) :
    IsNode (.object es) ↔
      (∀ key ∈ Entries.keys es, key ∈ ["type", "optional", "errors"] ++ shape.keys) ∧
      Under es "optional" IsFlag ∧ Under es "errors" (IsErrors shape.constraints) ∧
      (∀ key ∈ shape.keys, Under es key (HasForm shape.constraints key)) ∧
      ∀ j ∈ children es, IsNode j := by
  have htype : Under es "type" IsText :=
    (under_iff_of_find? es "type" _ htag IsText).2 ⟨text, rfl⟩
  constructor
  · intro h
    obtain ⟨shape', hshape', keys, forms, below⟩ := shape_of_isNode es text htag h
    obtain rfl : shape = shape' := Option.some.inj (hshape.symm.trans hshape')
    rw [forall_hasForm_iff es _ _ keys] at forms
    exact ⟨keys, forms "optional" (by simp), forms "errors" (by simp),
      fun key hkey => forms key (List.mem_append_right _ hkey), below⟩
  · rintro ⟨keys, hoptional, herrors, hrest, below⟩
    refine .object es text shape htag hshape keys ((forall_hasForm_iff es _ _ keys).2 ?_) below
    rw [List.forall_mem_append]
    refine ⟨?_, hrest⟩
    simp only [List.forall_mem_cons, HasForm]
    exact ⟨htype, hoptional, herrors, List.forall_mem_nil _⟩

/-- Nothing stands below a node that can have neither items nor properties. -/
theorem children_eq_nil (es : List (String × Json)) (allowed : List String)
    (hkeys : ∀ key ∈ Entries.keys es, key ∈ allowed) (hitems : "items" ∉ allowed)
    (hproperties : "properties" ∉ allowed) : children es = [] := by
  unfold children
  rw [valueAt_of_not_mem es "items" fun h => hitems (hkeys _ h),
    valueAt_of_not_mem es "properties" fun h => hproperties (hkeys _ h)]
  rfl

/-- The steps of reading a string. -/
theorem node_string_eq (path : FieldPath) (es : List (String × Json))
    (htag : Entries.find? es "type" = some (.string "string")) :
    node path (.object es) = stringNode path es := by
  rw [node, (tag_eq_ok_iff path es "string").2 htag]
  rfl

/-- A string spells the node that its rules make. -/
theorem spelled_string (es : List (String × Json))
    (htag : Entries.find? es "type" = some (.string "string")) :
    spelled (.object es) = .leaf (attributesOf es) (.string
      { lengths := lengthsOf es, pattern? := (valueAt es "pattern").string? }) := by
  rw [spelled_object]
  simp only [assemble, tagOf_eq es "string" htag]

/-- A string node is read when it is one. -/
theorem stringNode_eq_ok_iff (path : FieldPath) (es : List (String × Json)) (n : Node)
    (htag : Entries.find? es "type" = some (.string "string")) :
    stringNode path es = .ok n ↔ IsNode (.object es) ∧ spelled (.object es) = n := by
  rw [isNode_object_iff es "string" _ htag rfl, spelled_string es htag]
  simp only [List.forall_mem_cons, HasForm]
  unfold stringNode
  simp only [bind_eq_ok_iff, checkKeys_eq_ok_iff, lengths_eq_ok_iff, pattern_eq_ok_iff,
    leaf_eq_ok_iff]
  constructor
  · rintro ⟨-, hkeys, _, ⟨hmin, hmax, rfl⟩, _, ⟨hpattern, rfl⟩, hoptional, herrors, rfl⟩
    refine ⟨⟨hkeys, hoptional, herrors, ⟨hmin, hmax, hpattern, List.forall_mem_nil _⟩, ?_⟩, rfl⟩
    rw [children_eq_nil es _ hkeys (by decide) (by decide)]
    exact List.forall_mem_nil _
  · rintro ⟨⟨hkeys, hoptional, herrors, ⟨hmin, hmax, hpattern, -⟩, -⟩, rfl⟩
    exact ⟨(), hkeys, _, ⟨hmin, hmax, rfl⟩, _, ⟨hpattern, rfl⟩, hoptional, herrors, rfl⟩

/-- The steps of reading a boolean. -/
theorem node_bool_eq (path : FieldPath) (es : List (String × Json)) (text : String)
    (htext : text = "bool" ∨ text = "boolean")
    (htag : Entries.find? es "type" = some (.string text)) :
    node path (.object es) = boolNode path es := by
  rw [node, (tag_eq_ok_iff path es text).2 htag]
  rcases htext with rfl | rfl <;> rfl

/-- A boolean spells a node without rules. -/
theorem spelled_bool (es : List (String × Json)) (text : String)
    (htext : text = "bool" ∨ text = "boolean")
    (htag : Entries.find? es "type" = some (.string text)) :
    spelled (.object es) = .leaf (attributesOf es) .bool := by
  rw [spelled_object]
  rcases htext with rfl | rfl <;> simp only [assemble, tagOf_eq es _ htag]

/-- A boolean node is read when it is one. -/
theorem boolNode_eq_ok_iff (path : FieldPath) (es : List (String × Json)) (n : Node)
    (text : String) (htext : text = "bool" ∨ text = "boolean")
    (htag : Entries.find? es "type" = some (.string text)) :
    boolNode path es = .ok n ↔ IsNode (.object es) ∧ spelled (.object es) = n := by
  have hshape : shape? text = some ⟨[], [.type, .validator]⟩ := by
    rcases htext with rfl | rfl <;> rfl
  rw [isNode_object_iff es text _ htag hshape, spelled_bool es text htext htag]
  unfold boolNode
  simp only [bind_eq_ok_iff, checkKeys_eq_ok_iff, leaf_eq_ok_iff]
  constructor
  · rintro ⟨-, hkeys, hoptional, herrors, rfl⟩
    refine ⟨⟨hkeys, hoptional, herrors, List.forall_mem_nil _, ?_⟩, rfl⟩
    rw [children_eq_nil es _ hkeys (by decide) (by decide)]
    exact List.forall_mem_nil _
  · rintro ⟨⟨hkeys, hoptional, herrors, -, -⟩, rfl⟩
    exact ⟨(), hkeys, hoptional, herrors, rfl⟩

/-- The tags of numbers are those of the kinds of numbers. -/
theorem isSome_ofTag?_iff (text : String) :
    (NumberKind.ofTag? text).isSome = true ↔ text ∈ numberTags := by
  have hall : numberTags = NumberKind.all.map NumberKind.tag := by decide
  unfold NumberKind.ofTag?
  rw [List.find?_isSome, hall, List.mem_map]
  simp only [beq_iff_eq]

/-- The steps of reading what has another tag. -/
theorem node_number_eq (path : FieldPath) (es : List (String × Json)) (text : String)
    (htag : Entries.find? es "type" = some (.string text))
    (hstring : text ≠ "string") (hbool : text ≠ "bool") (hboolean : text ≠ "boolean")
    (harray : text ≠ "array") (hobject : text ≠ "object") :
    node path (.object es) = numberNode path text es := by
  rw [node, (tag_eq_ok_iff path es text).2 htag]
  simp only [bind, Except.bind]

/-- A number spells the node that its kind and its bounds make. -/
theorem spelled_number (es : List (String × Json)) (text : String)
    (htag : Entries.find? es "type" = some (.string text))
    (hstring : text ≠ "string") (hbool : text ≠ "bool") (hboolean : text ≠ "boolean")
    (harray : text ≠ "array") (hobject : text ≠ "object") :
    spelled (.object es) = .leaf (attributesOf es) (.number
      { kind := (NumberKind.ofTag? text).getD .plain
        min? := (valueAt es "min").number?
        max? := (valueAt es "max").number? }) := by
  rw [spelled_object]
  simp only [assemble, tagOf_eq es text htag]

/-- A number node is read when it is one. -/
theorem numberNode_eq_ok_iff (path : FieldPath) (es : List (String × Json)) (n : Node)
    (text : String) (htag : Entries.find? es "type" = some (.string text))
    (hstring : text ≠ "string") (hbool : text ≠ "bool") (hboolean : text ≠ "boolean")
    (harray : text ≠ "array") (hobject : text ≠ "object") :
    numberNode path text es = .ok n ↔ IsNode (.object es) ∧ spelled (.object es) = n := by
  have hshape : shape? text = if text ∈ numberTags then
      some ⟨["min", "max"], [.type, .min, .max, .validator]⟩ else none := by
    simp only [shape?, hstring, hbool, hboolean, harray, hobject, if_false, or_self]
  have hspelled := spelled_number es text htag hstring hbool hboolean harray hobject
  unfold numberNode
  cases hkind : NumberKind.ofTag? text with
  | none =>
    -- An unknown tag has no shape, and so no node.
    have hunknown : text ∉ numberTags := by
      rw [← isSome_ofTag?_iff, hkind]
      simp
    rw [if_neg hunknown] at hshape
    constructor
    · intro h
      cases h
    · rintro ⟨hnode, -⟩
      obtain ⟨shape, hknown, -⟩ := shape_of_isNode es text htag hnode
      rw [hshape] at hknown
      cases hknown
  | some kind =>
    have hknown : text ∈ numberTags := by
      rw [← isSome_ofTag?_iff, hkind]
      rfl
    rw [if_pos hknown] at hshape
    rw [hkind, Option.getD_some] at hspelled
    rw [isNode_object_iff es text _ htag hshape, hspelled]
    simp only [List.forall_mem_cons, HasForm]
    simp only [bind_eq_ok_iff, checkKeys_eq_ok_iff, number?_eq_ok_iff, leaf_eq_ok_iff]
    constructor
    · rintro ⟨-, hkeys, _, ⟨hmin, rfl⟩, _, ⟨hmax, rfl⟩, hoptional, herrors, rfl⟩
      refine ⟨⟨hkeys, hoptional, herrors, ⟨hmin, hmax, List.forall_mem_nil _⟩, ?_⟩, rfl⟩
      rw [children_eq_nil es _ hkeys (by decide) (by decide)]
      exact List.forall_mem_nil _
    · rintro ⟨⟨hkeys, hoptional, herrors, ⟨hmin, hmax, -⟩, -⟩, rfl⟩
      exact ⟨(), hkeys, _, ⟨hmin, rfl⟩, _, ⟨hmax, rfl⟩, hoptional, herrors, rfl⟩

/-! ## Nodes with children -/

/-- A document is read as a node when it is one. -/
def ReadsRight (j : Json) : Prop :=
  ∀ path n, node path j = .ok n ↔ IsNode j ∧ spelled j = n

/-- Positions are read when all of them are nodes. -/
theorem nodes_eq_ok_iff (js : List Json) (hjs : ∀ j ∈ js, ReadsRight j) (path : FieldPath) :
    ∀ (i : Nat) (ns : List Node),
      nodes path i js = .ok ns ↔ (∀ j ∈ js, IsNode j) ∧ js.map spelled = ns := by
  induction js with
  | nil =>
    intro i ns
    rw [nodes]
    simp
  | cons j rest ih =>
    intro i ns
    rw [List.forall_mem_cons] at hjs
    rw [nodes, List.forall_mem_cons, List.map_cons]
    simp only [bind_eq_ok_iff, hjs.1 _ _, ih hjs.2]
    constructor
    · rintro ⟨_, ⟨hj, rfl⟩, _, ⟨hrest, rfl⟩, hns⟩
      exact ⟨⟨hj, hrest⟩, Except.ok.inj hns⟩
    · rintro ⟨⟨hj, hrest⟩, rfl⟩
      exact ⟨_, ⟨hj, rfl⟩, _, ⟨hrest, rfl⟩, rfl⟩

/-- Properties are read when all of them are nodes. -/
theorem properties_eq_ok_iff (members : List (String × Json))
    (hmembers : ∀ e ∈ members, ReadsRight e.2) (path : FieldPath) :
    ∀ ns : List (String × Node),
      properties path members = .ok ns ↔
        (∀ e ∈ members, IsNode e.2) ∧ (members.map fun e => (e.1, spelled e.2)) = ns := by
  induction members with
  | nil =>
    intro ns
    rw [properties]
    simp
  | cons e rest ih =>
    intro ns
    obtain ⟨name, j⟩ := e
    rw [List.forall_mem_cons] at hmembers
    rw [properties, List.forall_mem_cons, List.map_cons]
    simp only [bind_eq_ok_iff, hmembers.1 _ _, ih hmembers.2]
    constructor
    · rintro ⟨_, ⟨hj, rfl⟩, _, ⟨hrest, rfl⟩, hns⟩
      exact ⟨⟨hj, hrest⟩, Except.ok.inj hns⟩
    · rintro ⟨⟨hj, hrest⟩, rfl⟩
      exact ⟨_, ⟨hj, rfl⟩, _, ⟨hrest, rfl⟩, rfl⟩

/-- The last step of reading an array: its items and its attributes. -/
def arrayNode (path : FieldPath) (es : List (String × Json)) (bounds : LengthBounds) :
    Except Defect Node :=
  match Entries.find? es "items" with
  | none => leaf path es (.array bounds)
  | some (.array items) => do
    let positions ← nodes path 0 items
    return .tuple (← attributes path (.leaf (.array bounds)) es) bounds positions
  | some (.object entries) => do
    let item ← node (path.child .items) (.object entries)
    return .arrayOf (← attributes path (.leaf (.array bounds)) es) bounds item
  | some _ => .error (.malformedDescriptor path .itemsShape)

/-- The node that an array spells. -/
def arraySpelled (es : List (String × Json)) : Node :=
  match valueAt es "items" with
  | .object entries => .arrayOf (attributesOf es) (lengthsOf es) (spelled (.object entries))
  | .array items => .tuple (attributesOf es) (lengthsOf es) (items.map spelled)
  | _ => .leaf (attributesOf es) (.array (lengthsOf es))

/-- An array spells the node that its items and its rules make. -/
theorem spelled_array (es : List (String × Json))
    (htag : Entries.find? es "type" = some (.string "array")) :
    spelled (.object es) = arraySpelled es := by
  rw [spelled_object]
  unfold arraySpelled assemble
  rw [tagOf_eq es "array" htag]
  cases hitems : valueAt es "items" <;> simp only [Json.elements]

/-- The steps of reading an array. -/
theorem node_array_eq (path : FieldPath) (es : List (String × Json))
    (htag : Entries.find? es "type" = some (.string "array")) :
    node path (.object es) = (do
      checkKeys path (commonKeys ++ ["minLen", "maxLen", "items"]) es
      arrayNode path es (← lengths path es)) := by
  rw [node, (tag_eq_ok_iff path es "array").2 htag]
  show (checkKeys path _ es >>= _) = _
  refine bind_congr fun _ => bind_congr fun bounds => ?_
  unfold arrayNode
  split <;> rename_i h <;> simp only [h]

/-- The last step of reading an array succeeds when the items have their form and are nodes, and the
attributes have theirs. -/
theorem arrayNode_eq_ok_iff (path : FieldPath) (es : List (String × Json)) (n : Node)
    (hbelow : ∀ j ∈ itemDocuments (valueAt es "items"), ReadsRight j) :
    arrayNode path es (lengthsOf es) = .ok n ↔
      Under es "items" IsItems ∧ (∀ j ∈ itemDocuments (valueAt es "items"), IsNode j) ∧
        Under es "optional" IsFlag ∧
        Under es "errors" (IsErrors [.type, .minLen, .maxLen, .validator]) ∧
        arraySpelled es = n := by
  unfold arrayNode arraySpelled
  cases hitems : Entries.find? es "items" with
  | none =>
    -- Without items the array is a leaf.
    have hvalue := valueAt_of_find?_none es "items" hitems
    have hunder := under_of_find?_none es "items" hitems IsItems
    rw [hvalue]
    simp only [leaf_eq_ok_iff, hunder, true_and]
    exact ⟨fun h => ⟨List.forall_mem_nil _, h⟩, fun h => h.2⟩
  | some j =>
    have hvalue := valueAt_of_find? es "items" j hitems
    rw [hvalue] at hbelow ⊢
    rw [under_iff_of_find? es "items" j hitems]
    cases j with
    | array items =>
      -- A node for each position.
      simp only [bind_eq_ok_iff, nodes_eq_ok_iff items hbelow, attributes_eq_ok_iff]
      constructor
      · rintro ⟨_, ⟨hnodes, rfl⟩, _, ⟨hoptional, herrors, rfl⟩, hn⟩
        exact ⟨Or.inr ⟨items, rfl⟩, hnodes, hoptional, herrors, Except.ok.inj hn⟩
      · rintro ⟨-, hnodes, hoptional, herrors, rfl⟩
        exact ⟨_, ⟨hnodes, rfl⟩, _, ⟨hoptional, herrors, rfl⟩, rfl⟩
    | object entries =>
      -- One node for all items.
      have hitem := hbelow (.object entries) (List.mem_singleton_self _)
      simp only [bind_eq_ok_iff, hitem _ _, attributes_eq_ok_iff]
      constructor
      · rintro ⟨_, ⟨hnode, rfl⟩, _, ⟨hoptional, herrors, rfl⟩, hn⟩
        exact ⟨Or.inl ⟨entries, rfl⟩, List.forall_mem_singleton.2 hnode, hoptional, herrors,
          Except.ok.inj hn⟩
      · rintro ⟨-, hnode, hoptional, herrors, rfl⟩
        exact ⟨_, ⟨List.forall_mem_singleton.1 hnode, rfl⟩, _, ⟨hoptional, herrors, rfl⟩, rfl⟩
    | _ =>
      constructor
      · intro h
        cases h
      · rintro ⟨⟨_, ⟨⟩⟩ | ⟨_, ⟨⟩⟩, -⟩

/-- An array node is read when it is one, if this is so for the documents below. -/
theorem node_array_eq_ok_iff (path : FieldPath) (es : List (String × Json)) (n : Node)
    (htag : Entries.find? es "type" = some (.string "array"))
    (hbelow : ∀ j ∈ children es, ReadsRight j) :
    node path (.object es) = .ok n ↔ IsNode (.object es) ∧ spelled (.object es) = n := by
  rw [node_array_eq path es htag, isNode_object_iff es "array" _ htag rfl, spelled_array es htag]
  have hitems := arrayNode_eq_ok_iff path es n fun j hj => hbelow j (List.mem_append_left _ hj)
  simp only [List.forall_mem_cons, HasForm]
  simp only [bind_eq_ok_iff, checkKeys_eq_ok_iff, lengths_eq_ok_iff]
  constructor
  · rintro ⟨-, hkeys, _, ⟨hmin, hmax, rfl⟩, hread⟩
    obtain ⟨hform, hnodes, hoptional, herrors, rfl⟩ := hitems.1 hread
    refine ⟨⟨hkeys, hoptional, herrors, ⟨hmin, hmax, hform, List.forall_mem_nil _⟩, ?_⟩, rfl⟩
    -- Below an array stand its items alone.
    have hproperties : "properties" ∉ Entries.keys es :=
      fun h => absurd (hkeys _ h) (by decide)
    unfold children
    rw [valueAt_of_not_mem es "properties" hproperties]
    exact List.forall_mem_append.2 ⟨hnodes, List.forall_mem_nil _⟩
  · rintro ⟨⟨hkeys, hoptional, herrors, ⟨hmin, hmax, hform, -⟩, hnodes⟩, rfl⟩
    refine ⟨(), hkeys, _, ⟨hmin, hmax, rfl⟩, hitems.2 ⟨hform, ?_, hoptional, herrors, rfl⟩⟩
    exact fun j hj => hnodes j (List.mem_append_left _ hj)

/-- The step of reading an object that reads its properties. -/
def objectMembers (path : FieldPath) (es : List (String × Json)) :
    Except Defect (List (String × Node)) :=
  match Entries.find? es "properties" with
  | none => .ok []
  | some (.object members) => properties path members
  | some _ => .error (.malformedDescriptor path .notObject)

/-- The steps of reading an object. -/
theorem node_object_eq (path : FieldPath) (es : List (String × Json))
    (htag : Entries.find? es "type" = some (.string "object")) :
    node path (.object es) = (do
      checkKeys path (commonKeys ++ ["properties", "allowExtra"]) es
      let members ← objectMembers path es
      let allowExtra ← flag path es "allowExtra" true
      return .object (← attributes path (.object none) es) allowExtra members) := by
  rw [node, (tag_eq_ok_iff path es "object").2 htag]
  show (checkKeys path _ es >>= _) = _
  refine bind_congr fun _ => ?_
  unfold objectMembers
  split <;> rename_i h <;> simp only [h]

/-- Properties are read when they are an object of nodes. -/
theorem objectMembers_eq_ok_iff (path : FieldPath) (es : List (String × Json))
    (hbelow : ∀ e ∈ (valueAt es "properties").members, ReadsRight e.2)
    (ns : List (String × Node)) :
    objectMembers path es = .ok ns ↔
      Under es "properties" IsObject ∧
        (∀ e ∈ (valueAt es "properties").members, IsNode e.2) ∧
        ((valueAt es "properties").members.map fun e => (e.1, spelled e.2)) = ns := by
  unfold objectMembers
  cases hfind : Entries.find? es "properties" with
  | none =>
    have hvalue := valueAt_of_find?_none es "properties" hfind
    have hunder := under_of_find?_none es "properties" hfind IsObject
    rw [hvalue]
    simp [hunder, Json.members]
  | some j =>
    have hvalue := valueAt_of_find? es "properties" j hfind
    rw [hvalue] at hbelow ⊢
    rw [under_iff_of_find? es "properties" j hfind]
    cases j with
    | object members =>
      have hobject : IsObject (.object members) := ⟨members, rfl⟩
      rw [and_iff_right hobject]
      exact properties_eq_ok_iff members hbelow path ns
    | _ =>
      constructor
      · intro h
        cases h
      · rintro ⟨⟨_, ⟨⟩⟩, -⟩

/-- An object spells the node that its properties make. -/
theorem spelled_properties (es : List (String × Json))
    (htag : Entries.find? es "type" = some (.string "object")) :
    spelled (.object es) = .object (attributesOf es) (flagOf es "allowExtra" true)
      ((valueAt es "properties").members.map fun e => (e.1, spelled e.2)) := by
  rw [spelled_object]
  simp only [assemble, tagOf_eq es "object" htag]

/-- An object node is read when it is one, if this is so for the documents below. -/
theorem node_object_eq_ok_iff (path : FieldPath) (es : List (String × Json)) (n : Node)
    (htag : Entries.find? es "type" = some (.string "object"))
    (hbelow : ∀ j ∈ children es, ReadsRight j) :
    node path (.object es) = .ok n ↔ IsNode (.object es) ∧ spelled (.object es) = n := by
  have hmembers := objectMembers_eq_ok_iff path es fun e he =>
    hbelow e.2 (List.mem_append_right _ (List.mem_map_of_mem he))
  rw [node_object_eq path es htag, isNode_object_iff es "object" _ htag rfl,
    spelled_properties es htag]
  simp only [List.forall_mem_cons, HasForm]
  simp only [bind_eq_ok_iff, checkKeys_eq_ok_iff, hmembers, flag_eq_ok_iff, attributes_eq_ok_iff]
  constructor
  · rintro ⟨-, hkeys, _, ⟨hform, hnodes, rfl⟩, _, ⟨hextra, rfl⟩, _, ⟨hoptional, herrors, rfl⟩, hn⟩
    refine ⟨⟨hkeys, hoptional, herrors, ⟨hform, hextra, List.forall_mem_nil _⟩, ?_⟩, Except.ok.inj hn⟩
    -- Below an object stand its properties alone.
    have hitems : "items" ∉ Entries.keys es := fun h => absurd (hkeys _ h) (by decide)
    unfold children
    rw [valueAt_of_not_mem es "items" hitems]
    exact List.forall_mem_append.2 ⟨List.forall_mem_nil _, List.forall_mem_map.2 hnodes⟩
  · rintro ⟨⟨hkeys, hoptional, herrors, ⟨hform, hextra, -⟩, hnodes⟩, rfl⟩
    have hmapped := (List.forall_mem_append.1 hnodes).2
    exact ⟨(), hkeys, _, ⟨hform, List.forall_mem_map.1 hmapped, rfl⟩, _, ⟨hextra, rfl⟩, _,
      ⟨hoptional, herrors, rfl⟩, rfl⟩

/-! ## Whole documents -/

/-- The documents below a node are smaller. -/
theorem sizeOf_lt_of_mem_children (es : List (String × Json)) (j : Json) (h : j ∈ children es) :
    sizeOf j < sizeOf (Json.object es) := by
  rcases List.mem_append.1 h with hitems | hmembers
  · have hlt := sizeOf_valueAt_lt es "items"
    cases hvalue : valueAt es "items" with
    | array items =>
      rw [hvalue] at hitems hlt
      exact Nat.lt_trans (sizeOf_lt_of_mem_elements (.array items) j hitems) hlt
    | object entries =>
      rw [hvalue] at hitems hlt
      rw [List.mem_singleton.1 hitems]
      exact hlt
    | _ =>
      rw [hvalue] at hitems
      cases hitems
  · obtain ⟨e, he, rfl⟩ := List.mem_map.1 hmembers
    exact Nat.lt_trans (sizeOf_lt_of_mem_members _ e he) (sizeOf_valueAt_lt es "properties")

/-- An object is read as a node when it is one, if this is so for the documents below. -/
theorem node_eq_ok_iff (path : FieldPath) (es : List (String × Json)) (n : Node)
    (hbelow : ∀ j ∈ children es, ReadsRight j) :
    node path (.object es) = .ok n ↔ IsNode (.object es) ∧ spelled (.object es) = n := by
  by_cases htag : ∃ text, Entries.find? es "type" = some (.string text)
  · obtain ⟨text, htag⟩ := htag
    -- The nodes that have children.
    by_cases harray : text = "array"
    · rw [harray] at htag
      exact node_array_eq_ok_iff path es n htag hbelow
    by_cases hobject : text = "object"
    · rw [hobject] at htag
      exact node_object_eq_ok_iff path es n htag hbelow
    -- The others.
    by_cases hstring : text = "string"
    · rw [hstring] at htag
      rw [node_string_eq path es htag]
      exact stringNode_eq_ok_iff path es n htag
    by_cases hbool : text = "bool" ∨ text = "boolean"
    · rw [node_bool_eq path es text hbool htag]
      exact boolNode_eq_ok_iff path es n text hbool htag
    obtain ⟨hbool, hboolean⟩ := not_or.1 hbool
    rw [node_number_eq path es text htag hstring hbool hboolean harray hobject]
    exact numberNode_eq_ok_iff path es n text htag hstring hbool hboolean harray hobject
  · -- Without a tag there is nothing to read.
    constructor
    · intro h
      rw [node, bind_eq_ok_iff] at h
      obtain ⟨text, htext, -⟩ := h
      exact absurd ⟨text, (tag_eq_ok_iff path es text).1 htext⟩ htag
    · rintro ⟨hnode, -⟩
      cases hnode with
      | object _ text _ type => exact absurd ⟨text, type⟩ htag

/-- Every document is read as a node when it is one. -/
theorem readsRight (j : Json) : ReadsRight j := by
  intro path n
  cases j with
  | object es => exact node_eq_ok_iff path es n fun j hj => readsRight j
  | _ =>
    simp only [node]
    constructor
    · intro h
      cases h
    · rintro ⟨⟨⟩, -⟩
termination_by sizeOf j
decreasing_by exact sizeOf_lt_of_mem_children es j hj

/-- The step of reading a schema that looks at the tag of the root. -/
def rootTag (es : List (String × Json)) : Except Defect Unit :=
  match Entries.find? es "type" with
  | none => .ok ()
  | some (.string "object") => .ok ()
  | some _ => .error (.malformedDescriptor .root .rootType)

/-- The root may have no tag but that of objects. -/
theorem rootTag_eq_ok_iff (es : List (String × Json)) (u : Unit) :
    rootTag es = .ok u ↔ Under es "type" (· = .string "object") := by
  unfold rootTag
  cases hfind : Entries.find? es "type" with
  | none =>
    have hunder := under_of_find?_none es "type" hfind (· = .string "object")
    simp [hunder]
  | some j =>
    rw [under_iff_of_find? es "type" j hfind]
    cases j with
    | string text =>
      by_cases htext : text = "object"
      · simp [htext]
      · simp [htext]
    | _ => simp

/-- What follows the tag of the root is the same whether there is one or not. -/
theorem rootTag_bind (es : List (String × Json)) (k : Unit → Except Defect Schema) :
    (match Entries.find? es "type" with
      | none => k ()
      | some (.string "object") => k ()
      | some _ => throw (.malformedDescriptor .root .rootType) >>= k) =
    rootTag es >>= k := by
  unfold rootTag
  split <;> rfl

/-- The properties of the root are read like those of a node. -/
theorem objectMembers_bind (es : List (String × Json))
    (k : List (String × Node) → Except Defect Schema) :
    (match Entries.find? es "properties" with
      | none => pure [] >>= k
      | some x => entries .root x >>= fun members => properties .root members >>= k) =
    objectMembers .root es >>= k := by
  unfold objectMembers
  cases Entries.find? es "properties" with
  | none => rfl
  | some x => cases x <;> rfl

end Descriptor

open Descriptor in
/-- The steps of reading a schema. -/
theorem Schema.ofDescriptor_eq (j : Json) :
    Schema.ofDescriptor j = (do
      let es ← entries .root j
      checkKeys .root ["type", "properties", "allowExtra", "errors"] es
      rootTag es
      let properties ← objectMembers .root es
      let allowExtra ← flag .root es "allowExtra" true
      let errors ← producers .root (Rule.object none).constraints es
      return { properties, allowExtra, errors }) := by
  unfold ofDescriptor
  refine bind_congr fun es => bind_congr fun _ => ?_
  exact (rootTag_bind es _).trans (bind_congr fun _ => objectMembers_bind es _)

open Descriptor in
/-- A schema is read from a document exactly when the document is a descriptor, and the schema is the
one that the document spells. -/
theorem Schema.ofDescriptor_eq_ok_iff (j : Json) (s : Schema) :
    Schema.ofDescriptor j = .ok s ↔ IsDescriptor j ∧ Schema.spelled j = s := by
  rw [ofDescriptor_eq]
  have hmembers (es : List (String × Json)) := objectMembers_eq_ok_iff .root es
    fun e _ => readsRight e.2
  simp only [bind_eq_ok_iff, entries_eq_ok_iff, checkKeys_eq_ok_iff, rootTag_eq_ok_iff, hmembers,
    flag_eq_ok_iff, producers_eq_ok_iff]
  unfold IsDescriptor
  constructor
  · rintro ⟨es, rfl, -, hkeys, -, htag, _, ⟨hform, hnodes, rfl⟩, _, ⟨hextra, rfl⟩, _,
      ⟨herrors, rfl⟩, hs⟩
    refine ⟨⟨es, rfl, hkeys, ?_, htag, hnodes⟩, Except.ok.inj hs⟩
    -- The keys of the root are few, and each has been looked at.
    rw [forall_hasForm_iff es _ _ hkeys]
    simp only [List.forall_mem_cons, HasForm]
    refine ⟨?_, hform, hextra, herrors, List.forall_mem_nil _⟩
    intro x hx
    exact ⟨"object", htag x hx⟩
  · rintro ⟨⟨es, rfl, hkeys, hforms, htag, hnodes⟩, rfl⟩
    exact ⟨es, rfl, (), hkeys, (), htag, _, ⟨hforms "properties", hnodes, rfl⟩, _,
      ⟨hforms "allowExtra", rfl⟩, _, ⟨hforms "errors", rfl⟩, rfl⟩

/-- Reading accepts the descriptors and no other document, and gives the schema that the descriptor
spells. -/
theorem Schema.ofDescriptor_accepts_grammar (j : Json) :
    ((∃ s, Schema.ofDescriptor j = .ok s) ↔ IsDescriptor j) ∧
      ∀ s, Schema.ofDescriptor j = .ok s → s = Schema.spelled j := by
  refine ⟨?_, fun s hs => ((ofDescriptor_eq_ok_iff j s).1 hs).2.symm⟩
  constructor
  · rintro ⟨s, hs⟩
    exact ((ofDescriptor_eq_ok_iff j s).1 hs).1
  · intro h
    exact ⟨Schema.spelled j, (ofDescriptor_eq_ok_iff j _).2 ⟨h, rfl⟩⟩

end DataShape
