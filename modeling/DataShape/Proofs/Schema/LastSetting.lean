import DataShape.Demo
import DataShape.Proofs.Entries

/-!
# Of several settings the last one counts

Every setting assigns a value to one attribute (`Assignment`), whatever the kind of node. A node that
is built from settings is the one whose attributes are each taken from the last setting that assigns
it, or from the defaults if there is none (`Builder.finish_eq`, `Schema.ofSettings_eq`). Properties
are one attribute with an order of its own: a name stands where it was first declared, and its node
is the one that was declared last (`Entries.ofList_eq_lastOfEach`).

So the order of settings counts only among those that assign the same attribute (`SetAlike`), and
two neighbours that assign different ones can change places (`Schema.last_setting_counts`).
-/

namespace DataShape

/-! ## What a setting assigns -/

/-- What a setting can assign. -/
inductive Attribute
  | optional
  | validator
  | error (c : Constraint)
  | minLen
  | maxLen
  | pattern
  | min
  | max
  | kind
  | items
  | properties
  | allowExtra
deriving DecidableEq

/-- The attribute is one that all nodes have. -/
def Attribute.isCommon : Attribute → Bool
  | optional | validator | error _ => true
  | _ => false

/-- The type of what is assigned. -/
abbrev Attribute.Value : Attribute → Type
  | optional | allowExtra => Bool
  | validator => Predicate
  | error _ => Producer
  | minLen | maxLen => UInt64
  | pattern => String
  | min | max => Binary64
  | kind => NumberKind
  | items => Items
  | properties => String × Node

/-- A value for an attribute. -/
structure Assignment where
  target : Attribute
  value : target.Value

/-- The value for the attribute, if it is the one that is assigned. -/
def Assignment.value? (x : Assignment) (a : Attribute) : Option a.Value :=
  if h : x.target = a then some (h ▸ x.value) else none

/-- What a setting of strings assigns. -/
def StringSetting.assigns : StringSetting → Assignment
  | minLen n => ⟨.minLen, n⟩
  | maxLen n => ⟨.maxLen, n⟩
  | pattern source => ⟨.pattern, source⟩

/-- What a setting of numbers assigns. -/
def NumberSetting.assigns : NumberSetting → Assignment
  | min x => ⟨.min, x⟩
  | max x => ⟨.max, x⟩
  | kind k => ⟨.kind, k⟩

/-- What a setting of arrays assigns. -/
def ArraySetting.assigns : ArraySetting → Assignment
  | minLen n => ⟨.minLen, n⟩
  | maxLen n => ⟨.maxLen, n⟩
  | items given => ⟨.items, given⟩

/-- What a setting of objects assigns. -/
def ObjectSetting.assigns : ObjectSetting → Assignment
  | property name node => ⟨.properties, name, node⟩
  | denyExtra => ⟨.allowExtra, false⟩

/-- What a setting of a node assigns. -/
def Setting.assigns {Own : Type} (own : Own → Assignment) : Setting Own → Assignment
  | optional => ⟨.optional, true⟩
  | validator p => ⟨.validator, p⟩
  | error c p => ⟨.error c, p⟩
  | .own s => own s

/-- What a setting of the root assigns. -/
def RootSetting.assigns : RootSetting → Assignment
  | property name node => ⟨.properties, name, node⟩
  | denyExtra => ⟨.allowExtra, false⟩
  | validator p => ⟨.validator, p⟩
  | error c p => ⟨.error c, p⟩

/-- The values that are assigned to the attribute, in order. -/
def valuesOf (a : Attribute) (calls : List Assignment) : List a.Value :=
  calls.filterMap (·.value? a)

/-- The value that is assigned to the attribute last. -/
def last? (a : Attribute) (calls : List Assignment) : Option a.Value := (valuesOf a calls).getLast?

/-! ## The last value of each attribute -/

section

variable (calls : List Assignment)

/-- The attributes of which each has its last value. -/
def Attributes.ofLast : Attributes where
  optional := (last? .optional calls).getD false
  validator? := last? .validator calls
  errors := ⟨fun c => last? (.error c) calls⟩

/-- The bounds on a length of which each has its last value. -/
def LengthBounds.ofLast : LengthBounds where
  min? := last? .minLen calls
  max? := last? .maxLen calls

/-- Extra keys are accepted unless that is denied. -/
def lastAllowExtra : Bool := (last? .allowExtra calls).getD true

/-- The properties in the order of their first declarations, each with its last node. -/
def lastProperties : List (String × Node) := Entries.lastOfEach (valuesOf .properties calls)

end

/-- What a node is started as. Numbers have a kind and arrays their items from the start. -/
inductive Builder
  | string
  | number (kind : NumberKind)
  | bool
  | array (items : Items)
  | object

namespace Builder

/-- The settings of the own kind. -/
abbrev Own : Builder → Type
  | string => StringSetting
  | number _ => NumberSetting
  | bool => Empty
  | array _ => ArraySetting
  | object => ObjectSetting

/-- What a setting of the own kind assigns. -/
def ownAssigns : (b : Builder) → b.Own → Assignment
  | string => StringSetting.assigns
  | number _ => NumberSetting.assigns
  | bool => nofun
  | array _ => ArraySetting.assigns
  | object => ObjectSetting.assigns

/-- What a setting assigns. -/
def assigns (b : Builder) : Setting b.Own → Assignment := Setting.assigns b.ownAssigns

/-- The node that is built with settings. -/
def finish : (b : Builder) → List (Setting b.Own) → Node
  | string => Node.ofString
  | number kind => Node.ofNumber kind
  | bool => Node.ofBool
  | array items => Node.ofArray items
  | object => Node.ofObject

/-- The node whose attributes have their last values. -/
def ofLast (b : Builder) (calls : List Assignment) : Node :=
  match b with
  | string => .leaf (.ofLast calls)
    (.string { lengths := .ofLast calls, pattern? := last? .pattern calls })
  | number kind => .leaf (.ofLast calls)
    (.number
      { kind := (last? .kind calls).getD kind, min? := last? .min calls, max? := last? .max calls })
  | bool => .leaf (.ofLast calls) .bool
  | array items =>
    match (last? .items calls).getD items with
    | .unchecked => .leaf (.ofLast calls) (.array (.ofLast calls))
    | .each item => .arrayOf (.ofLast calls) (.ofLast calls) item
    | .positions nodes => .tuple (.ofLast calls) (.ofLast calls) nodes
  | object => .object (.ofLast calls) (lastAllowExtra calls) (lastProperties calls)

end Builder

/-- The schema whose attributes have their last values. -/
def Schema.ofLast (calls : List Assignment) : Schema where
  properties := lastProperties calls
  allowExtra := lastAllowExtra calls
  validator? := last? .validator calls
  errors := ⟨fun c => last? (.error c) calls⟩

/-! ## From one setting to all of them -/

/-- Replacing a value by each value of a list leaves the last one. -/
theorem foldl_replace {α : Type} (l : List α) :
    ∀ first : Option α, l.foldl (fun _ x => some x) first = l.getLast?.or first := by
  induction l with
  | nil =>
    intro first
    rfl
  | cons x l ih =>
    intro first
    rw [List.foldl_cons, ih, List.getLast?_cons, Option.or_some]
    rfl

/-- What is read off a state after some settings is made of the values that these assign, if that is
so after each of them. -/
theorem collect_foldl {State Call Read : Type} (a : Attribute) (read : State → Read)
    (collect : Read → a.Value → Read) (apply : State → Call → State) (assigns : Call → Assignment)
    (hstep : ∀ s call, read (apply s call) =
      (((assigns call).value? a).map (collect (read s))).getD (read s))
    (calls : List Call) :
    ∀ s, read (calls.foldl apply s) =
      (valuesOf a (calls.map assigns)).foldl collect (read s) := by
  induction calls with
  | nil =>
    intro s
    rfl
  | cons call calls ih =>
    intro s
    rw [List.foldl_cons, ih (apply s call), hstep]
    unfold valuesOf
    rw [List.map_cons, List.filterMap_cons]
    cases (assigns call).value? a <;> rfl

/-- An attribute that each setting replaces, if it assigns it, ends up with its last value or stays as
it was. -/
theorem read_foldl {State Call : Type} (a : Attribute) (read : State → Option a.Value)
    (apply : State → Call → State) (assigns : Call → Assignment)
    (hstep : ∀ s call, read (apply s call) = ((assigns call).value? a).or (read s))
    (calls : List Call) (s : State) :
    read (calls.foldl apply s) = (last? a (calls.map assigns)).or (read s) := by
  unfold last?
  rw [← foldl_replace]
  refine collect_foldl a read (fun _ x => some x) apply assigns (fun s call => ?_) calls s
  rw [hstep]
  cases (assigns call).value? a <;> rfl

/-- A setting gives no value to an attribute that it does not assign. -/
theorem Assignment.value?_of_ne (x : Assignment) (a : Attribute) (h : x.target ≠ a) :
    x.value? a = none :=
  dif_neg h

/-! ## Nodes and schemas under construction -/

/-- A producer that is inserted replaces the one for its constraint and no other. -/
theorem Producers.find?_insert (ps : Producers) (c : Constraint) (p : Producer) (d : Constraint) :
    (ps.insert c p).find? d = (Assignment.value? ⟨.error c, p⟩ (.error d)).or (ps.find? d) := by
  show (if d = c then some p else ps.find? d) = _
  unfold Assignment.value?
  by_cases h : d = c
  · subst h
    rw [if_pos rfl, dif_pos rfl]
    rfl
  · rw [if_neg h, dif_neg fun heq => h (Attribute.error.inj heq).symm]
    rfl

section

variable {Rules Own : Type} (set : Rules → Own → Rules) (own : Own → Assignment) (rules : Rules)
  (calls : List (Setting Own))

/-- If each setting of the own kind replaces what it assigns and nothing else, an attribute of the
rules ends up with its last value or stays as it was. -/
theorem Draft.read_rules_build (a : Attribute) (ha : a.isCommon = false)
    (read : Rules → Option a.Value)
    (hstep : ∀ rules s, read (set rules s) = ((own s).value? a).or (read rules)) :
    read (build set rules calls).rules =
      (last? a (calls.map (Setting.assigns own))).or (read rules) := by
  have hother (x : Assignment) (hx : x.target.isCommon = true) : x.value? a = none :=
    x.value?_of_ne a fun heq => by rw [heq, ha] at hx; cases hx
  refine read_foldl a (fun d : Draft Rules => read d.rules) (apply set) _ (fun d call => ?_) calls _
  cases call with
  | optional => rw [Setting.assigns, hother _ rfl]; rfl
  | validator p => rw [Setting.assigns, hother _ rfl]; rfl
  | error c p => rw [Setting.assigns, hother _ rfl]; rfl
  | own s => exact hstep d.rules s

/-- The attributes that all nodes have end up with their last values. -/
theorem Draft.attrs_build (hown : ∀ s, (own s).target.isCommon = false) :
    (build set rules calls).attrs = .ofLast (calls.map (Setting.assigns own)) := by
  have hother (a : Attribute) (ha : a.isCommon = true) (s : Own) : (own s).value? a = none :=
    (own s).value?_of_ne a fun heq => by rw [← heq, hown s] at ha; cases ha
  have hoptional := read_foldl .optional (fun d : Draft Rules => some d.attrs.optional) (apply set)
    (Setting.assigns own) (fun d call => by
      cases call with
      | own s => rw [Setting.assigns, hother _ rfl]; rfl
      | _ => rfl) calls { rules }
  have hvalidator := read_foldl .validator (fun d : Draft Rules => d.attrs.validator?) (apply set)
    (Setting.assigns own) (fun d call => by
      cases call with
      | own s => rw [Setting.assigns, hother _ rfl]; rfl
      | _ => rfl) calls { rules }
  have herrors (c : Constraint) := read_foldl (.error c)
    (fun d : Draft Rules => d.attrs.errors.find? c) (apply set)
    (Setting.assigns own) (fun d call => by
      cases call with
      | own s => rw [Setting.assigns, hother _ rfl]; rfl
      | error c' p => exact Producers.find?_insert d.attrs.errors c' p c
      | _ => rfl) calls { rules }
  unfold build
  generalize calls.foldl (apply set) { rules } = d at hoptional hvalidator herrors ⊢
  have hoptional' : d.attrs.optional = (last? .optional (calls.map (Setting.assigns own))).getD false :=
    Option.some.inj (hoptional.trans Option.or_some)
  have hvalidator' := hvalidator.trans Option.or_none
  have herrors' := funext fun c => (herrors c).trans Option.or_none
  calc d.attrs
    _ = ⟨d.attrs.optional, d.attrs.validator?, ⟨d.attrs.errors.find?⟩⟩ := rfl
    _ = .ofLast (calls.map (Setting.assigns own)) := by rw [hoptional', hvalidator', herrors']; rfl

end

/-- Bounds that have their last values. -/
theorem LengthBounds.eq_ofLast (lengths : LengthBounds) (calls : List Assignment)
    (hmin : lengths.min? = last? .minLen calls) (hmax : lengths.max? = last? .maxLen calls) :
    lengths = .ofLast calls := by
  unfold ofLast
  rw [← hmin, ← hmax]

namespace Node

/-- Strings end up with the last value of each attribute. -/
theorem ofString_eq (calls : List (Setting StringSetting)) :
    ofString calls = Builder.string.ofLast (calls.map Builder.string.assigns) := by
  have hattrs := Draft.attrs_build StringRules.set StringSetting.assigns {} calls
    fun s => by cases s <;> rfl
  have hread := Draft.read_rules_build StringRules.set StringSetting.assigns {} calls
  unfold ofString
  generalize Draft.build StringRules.set {} calls = d at hattrs hread ⊢
  have hmin := (hread .minLen rfl (·.lengths.min?) fun _ s => by cases s <;> rfl).trans Option.or_none
  have hmax := (hread .maxLen rfl (·.lengths.max?) fun _ s => by cases s <;> rfl).trans Option.or_none
  have hpattern := (hread .pattern rfl (·.pattern?) fun _ s => by cases s <;> rfl).trans Option.or_none
  calc leaf d.attrs (.string d.rules)
    _ = leaf d.attrs (.string ⟨d.rules.lengths, d.rules.pattern?⟩) := rfl
    _ = Builder.string.ofLast (calls.map Builder.string.assigns) := by
      rw [hattrs, d.rules.lengths.eq_ofLast _ hmin hmax, hpattern]
      rfl

/-- So do numbers, whose kind was given at the start. -/
theorem ofNumber_eq (kind : NumberKind) (calls : List (Setting NumberSetting)) :
    ofNumber kind calls =
      (Builder.number kind).ofLast (calls.map (Builder.number kind).assigns) := by
  have hattrs := Draft.attrs_build NumberRules.set NumberSetting.assigns { kind } calls
    fun s => by cases s <;> rfl
  have hread := Draft.read_rules_build NumberRules.set NumberSetting.assigns { kind } calls
  unfold ofNumber
  generalize Draft.build NumberRules.set { kind } calls = d at hattrs hread ⊢
  have hkind := Option.some.inj
    ((hread .kind rfl (some ·.kind) fun _ s => by cases s <;> rfl).trans Option.or_some)
  have hmin := (hread .min rfl (·.min?) fun _ s => by cases s <;> rfl).trans Option.or_none
  have hmax := (hread .max rfl (·.max?) fun _ s => by cases s <;> rfl).trans Option.or_none
  calc leaf d.attrs (.number d.rules)
    _ = leaf d.attrs (.number ⟨d.rules.kind, d.rules.min?, d.rules.max?⟩) := rfl
    _ = (Builder.number kind).ofLast (calls.map (Builder.number kind).assigns) := by
      rw [hattrs, hkind, hmin, hmax]
      rfl

/-- So do booleans, which have no settings of their own. -/
theorem ofBool_eq (calls : List (Setting Empty)) :
    ofBool calls = Builder.bool.ofLast (calls.map Builder.bool.assigns) := by
  have hattrs := Draft.attrs_build (fun (rules : Unit) _ => rules) Builder.bool.ownAssigns () calls
    nofun
  exact congrArg (leaf · .bool) hattrs

/-- So do arrays, whose items were given at the start. -/
theorem ofArray_eq (items : Items) (calls : List (Setting ArraySetting)) :
    ofArray items calls = (Builder.array items).ofLast (calls.map (Builder.array items).assigns) := by
  have hattrs := Draft.attrs_build ArrayRules.set ArraySetting.assigns { items } calls
    fun s => by cases s <;> rfl
  have hread := Draft.read_rules_build ArrayRules.set ArraySetting.assigns { items } calls
  unfold ofArray
  generalize Draft.build ArrayRules.set { items } calls = d at hattrs hread ⊢
  have hmin := (hread .minLen rfl (·.lengths.min?) fun _ s => by cases s <;> rfl).trans Option.or_none
  have hmax := (hread .maxLen rfl (·.lengths.max?) fun _ s => by cases s <;> rfl).trans Option.or_none
  have hitems := Option.some.inj
    ((hread .items rfl (some ·.items) fun _ s => by cases s <;> rfl).trans Option.or_some)
  simp only
  rw [hattrs, d.rules.lengths.eq_ofLast _ hmin hmax, hitems]
  rfl

/-- So do objects. Their properties are those that have been declared one by one. -/
theorem ofObject_eq (calls : List (Setting ObjectSetting)) :
    ofObject calls = Builder.object.ofLast (calls.map Builder.object.assigns) := by
  have hattrs := Draft.attrs_build ObjectRules.set ObjectSetting.assigns {} calls
    fun s => by cases s <;> rfl
  have hread := Draft.read_rules_build ObjectRules.set ObjectSetting.assigns {} calls
  have hproperties := collect_foldl .properties (fun d : Draft ObjectRules => d.rules.properties)
    (fun properties entry => Entries.insert entry.1 entry.2 properties) (Draft.apply ObjectRules.set)
    (Setting.assigns ObjectSetting.assigns) (fun d call => by
      cases call with
      | own s => cases s <;> rfl
      | _ => rfl) calls { rules := {} }
  have hlast := hproperties.trans (Entries.ofList_eq_lastOfEach _)
  unfold ofObject
  change (Draft.build ObjectRules.set {} calls).rules.properties = _ at hlast
  generalize Draft.build ObjectRules.set {} calls = d at hattrs hread hlast ⊢
  have hextra := Option.some.inj
    ((hread .allowExtra rfl (some ·.allowExtra) fun _ s => by cases s <;> rfl).trans Option.or_some)
  simp only
  rw [hattrs, hextra, hlast]
  rfl

end Node

/-- A node that is built with settings is the one whose attributes have their last values. -/
theorem Builder.finish_eq (b : Builder) (calls : List (Setting b.Own)) :
    b.finish calls = b.ofLast (calls.map b.assigns) := by
  cases b with
  | string => exact Node.ofString_eq calls
  | number kind => exact Node.ofNumber_eq kind calls
  | bool => exact Node.ofBool_eq calls
  | array items => exact Node.ofArray_eq items calls
  | object => exact Node.ofObject_eq calls

/-- A schema that is built with settings is the one whose attributes have their last values. -/
theorem Schema.ofSettings_eq (calls : List RootSetting) :
    ofSettings calls = ofLast (calls.map RootSetting.assigns) := by
  have hproperties := collect_foldl .properties Schema.properties
    (fun properties entry => Entries.insert entry.1 entry.2 properties) set RootSetting.assigns
    (fun s call => by cases call <;> rfl) calls {}
  have hextra := read_foldl .allowExtra (fun s : Schema => some s.allowExtra) set RootSetting.assigns
    (fun s call => by cases call <;> rfl) calls {}
  have hvalidator := read_foldl .validator Schema.validator? set RootSetting.assigns
    (fun s call => by cases call <;> rfl) calls {}
  have herrors (c : Constraint) := read_foldl (.error c) (fun s : Schema => s.errors.find? c) set
    RootSetting.assigns (fun s call => by
      cases call with
      | error c' p => exact Producers.find?_insert s.errors c' p c
      | _ => rfl) calls {}
  have hlast := hproperties.trans (Entries.ofList_eq_lastOfEach _)
  have hextra' := Option.some.inj (hextra.trans Option.or_some)
  have hvalidator' := hvalidator.trans Option.or_none
  have herrors' := funext fun c => (herrors c).trans Option.or_none
  unfold ofSettings
  generalize calls.foldl set {} = s at hlast hextra' hvalidator' herrors' ⊢
  calc s
    _ = ⟨s.properties, s.allowExtra, s.validator?, ⟨s.errors.find?⟩⟩ := rfl
    _ = ofLast (calls.map RootSetting.assigns) := by
      rw [hlast, hextra', hvalidator', herrors']
      rfl

/-! ## The order of settings -/

/-- The same values are assigned to each attribute, in the same order. -/
def SetAlike (calls calls' : List Assignment) : Prop := ∀ a, valuesOf a calls = valuesOf a calls'

/-- Neighbours that assign different attributes can change places. -/
theorem setAlike_swap (front back : List Assignment) (x y : Assignment) (h : x.target ≠ y.target) :
    SetAlike (front ++ x :: y :: back) (front ++ y :: x :: back) := by
  intro a
  unfold valuesOf
  rw [List.filterMap_append, List.filterMap_append]
  refine congrArg (_ ++ ·) ?_
  -- One of the two has no value for the attribute, so its place does not show.
  by_cases hx : x.target = a
  · have hy : y.value? a = none := y.value?_of_ne a fun hy => h (hx.trans hy.symm)
    simp only [List.filterMap_cons, hy]
  · simp only [List.filterMap_cons, x.value?_of_ne a hx]

namespace SetAlike

variable {calls calls' : List Assignment} (h : SetAlike calls calls')

include h

/-- The last values are the same. -/
theorem last?_eq (a : Attribute) : last? a calls = last? a calls' := by
  unfold last?
  rw [h a]

/-- The attributes that all nodes have are the same. -/
theorem attributes_eq : Attributes.ofLast calls = Attributes.ofLast calls' := by
  unfold Attributes.ofLast
  simp only [h.last?_eq]

/-- The bounds on a length are the same. -/
theorem lengths_eq : LengthBounds.ofLast calls = LengthBounds.ofLast calls' := by
  unfold LengthBounds.ofLast
  simp only [h.last?_eq]

/-- The properties are the same, in the same order. -/
theorem properties_eq : lastProperties calls = lastProperties calls' := by
  unfold lastProperties
  rw [h .properties]

/-- The nodes are the same. -/
theorem node_eq (b : Builder) : b.ofLast calls = b.ofLast calls' := by
  unfold Builder.ofLast lastAllowExtra
  simp only [h.attributes_eq, h.lengths_eq, h.properties_eq, h.last?_eq]

/-- The schemas are the same. -/
theorem schema_eq : Schema.ofLast calls = Schema.ofLast calls' := by
  unfold Schema.ofLast lastAllowExtra
  simp only [h.properties_eq, h.last?_eq]

end SetAlike

/-- Nodes and schemas that are built with settings have the last value of each attribute, or the
default. A property stands where its name was declared first, and its node is the one that was
declared last. So two settings next to each other that assign different attributes can change places:
the node is the same, and schemas compile to the same validator, with the same checks and errors. -/
theorem Schema.last_setting_counts [PatternLanguage] :
    (∀ (b : Builder) (calls : List (Setting b.Own)), b.finish calls = b.ofLast (calls.map b.assigns)) ∧
    (∀ calls : List RootSetting, ofSettings calls = ofLast (calls.map RootSetting.assigns)) ∧
    (∀ calls : List Assignment,
      Entries.keys (lastProperties calls) =
        (Entries.keys (valuesOf .properties calls)).eraseDups ∧
      ∀ name, Entries.find? (lastProperties calls) name =
        Entries.lastUnder? name (valuesOf .properties calls)) ∧
    (∀ (b : Builder) (front back : List (Setting b.Own)) (x y : Setting b.Own),
      (b.assigns x).target ≠ (b.assigns y).target →
        b.finish (front ++ x :: y :: back) = b.finish (front ++ y :: x :: back) ∧
        ∀ (s : Schema) (name : String) (extraParams : List String),
          (s.withProperty name (b.finish (front ++ x :: y :: back))).compile extraParams =
            (s.withProperty name (b.finish (front ++ y :: x :: back))).compile extraParams) ∧
    ∀ (front back : List RootSetting) (x y : RootSetting), x.assigns.target ≠ y.assigns.target →
      ofSettings (front ++ x :: y :: back) = ofSettings (front ++ y :: x :: back) ∧
      ∀ extraParams : List String,
        (ofSettings (front ++ x :: y :: back)).compile extraParams =
          (ofSettings (front ++ y :: x :: back)).compile extraParams := by
  refine ⟨Builder.finish_eq, ofSettings_eq, fun calls => ?_, fun b front back x y h => ?_,
    fun front back x y h => ?_⟩
  · unfold lastProperties
    rw [← Entries.ofList_eq_lastOfEach]
    exact ⟨Entries.keys_ofList _, Entries.find?_ofList _⟩
  · have hnode : b.finish (front ++ x :: y :: back) = b.finish (front ++ y :: x :: back) := by
      have halike := setAlike_swap (front.map b.assigns) (back.map b.assigns) _ _ h
      rw [b.finish_eq, b.finish_eq, List.map_append, List.map_append]
      exact halike.node_eq b
    exact ⟨hnode, fun s name extraParams => by rw [hnode]⟩
  · have hschema : ofSettings (front ++ x :: y :: back) = ofSettings (front ++ y :: x :: back) := by
      have halike := setAlike_swap (front.map RootSetting.assigns) (back.map RootSetting.assigns) _ _ h
      rw [ofSettings_eq, ofSettings_eq, List.map_append, List.map_append]
      exact halike.schema_eq
    exact ⟨hschema, fun extraParams => by rw [hschema]⟩

namespace Demo

/-- What a rating below its bound is told. -/
def askForMore (context : FailureContext) : ValidationError :=
  boundMessage "Rate at least " context.param? "."

/-- A rating that was first to be a whole number and ends up as a float. -/
def rating (least : Binary64) : Node :=
  .ofNumber .plain
    [.own .integer, .error .min (.literal (.message "Too low.")), .own (.min least), .optional,
      .errorBy .min askForMore, .own .float]

/-- Two ratings. They were first to be any number of them. -/
def ratings : Node :=
  .ofArray .unchecked
    [.own (.each (rating .nan)), .own (.minLen 1),
      .own (.positions [rating (.ofNat 1), rating (.ofNat 2)])]

/-- A form in which the ratings are declared twice. -/
def ratingForm : Schema :=
  .ofSettings
    [.property "ratings" (rating (.ofNat 1)), .property "name" name, .denyExtra, .errorBy .extra askForMore,
      .property "ratings" ratings]

/-- A rating has the last of its kinds and of its producers, and two ratings are a tuple. In the form
they stand first. The bound and the producer of a rating can be set in either order. -/
theorem last_setting_counts_ratings :
    (rating (.ofNat 1)).rule = .leaf (.number { kind := .float, min? := some (.ofNat 1) }) ∧
      (rating (.ofNat 1)).attrs.optional = true ∧
      (rating (.ofNat 1)).attrs.errors.find? .min = some (.closure askForMore none) ∧
      ratings = .tuple {} { min? := some 1 } [rating (.ofNat 1), rating (.ofNat 2)] ∧
      ratingForm.properties = [("ratings", ratings), ("name", name)] ∧
      Node.ofNumber .float [.own (.min (.ofNat 1)), .errorBy .min askForMore] =
        .ofNumber .float [.errorBy .min askForMore, .own (.min (.ofNat 1))] ∧
      (Schema.ofSettings [.property "ratings" ratings, .denyExtra]).compile [] =
        (Schema.ofSettings [.denyExtra, .property "ratings" ratings]).compile [] := by
  obtain ⟨hnode, hschema, -, hswap, hrootSwap⟩ := Schema.last_setting_counts
  have hrating (least : Binary64) : rating least = Builder.ofLast (.number .plain) _ :=
    hnode (.number .plain) _
  -- The bound is left open where it is looked up, so that it is not worked out.
  have hrule (least : Binary64) :
      (rating least).rule = .leaf (.number { kind := .float, min? := some least }) :=
    congrArg Node.rule (hrating least)
  refine ⟨hrule _, ?_, ?_, hnode (.array .unchecked) _, ?_, ?_, ?_⟩
  · exact congrArg (·.attrs.optional) (hrating _)
  · exact congrArg (·.attrs.errors.find? .min) (hrating _)
  · exact congrArg Schema.properties (hschema _)
  · exact (hswap (.number .float) [] [] (.own (.min (.ofNat 1))) (.errorBy .min askForMore)
      (by decide)).1
  · exact (hrootSwap [] [] (.property "ratings" ratings) .denyExtra (by decide)).2 []

end Demo

end DataShape
