import DataShape.Proofs.Number.Order
import DataShape.Proofs.Validator.Conformance

/-!
# Looser schemas accept more

A schema is loosened by asking for less at any of its nodes: a value may be absent, a predicate, a
pattern or a bound is dropped, a bound is moved outwards, a kind of numbers takes in more numbers, the
items of an array are no longer looked at, undeclared keys are let through, and an object that lets
them through declares fewer properties. Error producers do not matter. `Node.Loosens` allows all of
this at once, at every node.

`Schema.loosening_keeps_valid` says that an input without errors keeps having none. Conformance knows
no order of checks and no scan, so it is enough to see that each part of what it asks for is weakened:
first the rule of one node, then the tree, along the nodes of the stricter schema.
-/

namespace DataShape

/-! ## Bounds -/

/-- Bounds on a length that are each the same, moved outwards or dropped. -/
structure LengthBounds.Loosens (lengths lengths' : LengthBounds) : Prop where
  min : ∀ n' ∈ lengths'.min?, ∃ n ∈ lengths.min?, n' ≤ n
  max : ∀ n' ∈ lengths'.max?, ∃ n ∈ lengths.max?, n ≤ n'

namespace LengthBounds.Loosens

/-- Bounds loosen to themselves. -/
theorem refl (lengths : LengthBounds) : lengths.Loosens lengths where
  min n hn := ⟨n, hn, UInt64.le_refl n⟩
  max n hn := ⟨n, hn, UInt64.le_refl n⟩

/-- Looser bounds allow the lengths that the stricter ones allow. -/
theorem allow (lengths lengths' : LengthBounds) (h : lengths.Loosens lengths') (n : Nat)
    (hn : lengths.Allow n) : lengths'.Allow n := by
  obtain ⟨hmin, hmax⟩ := hn
  constructor
  · intro min' hmin'
    obtain ⟨min, hdeclared, hle⟩ := h.min min' hmin'
    calc min'.toNat ≤ min.toNat := UInt64.le_iff_toNat_le.1 hle
      _ ≤ n := hmin min hdeclared
  · intro max' hmax'
    obtain ⟨max, hdeclared, hle⟩ := h.max max' hmax'
    calc n ≤ max.toNat := hmax max hdeclared
      _ ≤ max'.toNat := UInt64.le_iff_toNat_le.1 hle

/-- An array rule with looser bounds holds of the values of which the stricter one holds. -/
theorem holds [PatternLanguage]
    (lengths lengths' : LengthBounds) (h : lengths.Loosens lengths') (v : Value)
    (hv : (Rule.leaf (.array lengths)).Holds v) : (Rule.leaf (.array lengths')).Holds v := by
  obtain ⟨items, rfl, hlength⟩ := hv
  exact ⟨items, rfl, h.allow lengths lengths' items.length hlength⟩

end LengthBounds.Loosens

/-! ## Kinds of numbers -/

/-- A signed word holds what a signed word of fewer bits holds. -/
theorem signedRange_mono (bits bits' : Nat) (h : bits ≤ bits') :
    (signedRange bits').1 ≤ (signedRange bits).1 ∧ (signedRange bits).2 ≤ (signedRange bits').2 := by
  have hpow : Nat.pow 2 (bits - 1) ≤ Nat.pow 2 (bits' - 1) :=
    Nat.pow_le_pow_right Nat.two_pos (Nat.sub_le_sub_right h 1)
  unfold signedRange
  omega

/-- An unsigned word holds what an unsigned word of fewer bits holds. -/
theorem unsignedRange_mono (bits bits' : Nat) (h : bits ≤ bits') :
    (unsignedRange bits').1 ≤ (unsignedRange bits).1 ∧
      (unsignedRange bits).2 ≤ (unsignedRange bits').2 := by
  have hpow : Nat.pow 2 bits ≤ Nat.pow 2 bits' := Nat.pow_le_pow_right Nat.two_pos h
  unfold unsignedRange
  omega

/-- A signed word of more bits holds what an unsigned word holds. -/
theorem unsignedRange_within_signedRange (bits bits' : Nat) (h : bits < bits') :
    (signedRange bits').1 ≤ (unsignedRange bits).1 ∧
      (unsignedRange bits).2 ≤ (signedRange bits').2 := by
  have hpow : Nat.pow 2 bits ≤ Nat.pow 2 (bits' - 1) :=
    Nat.pow_le_pow_right Nat.two_pos (Nat.le_sub_one_of_lt h)
  unfold signedRange unsignedRange
  omega

namespace NumberKind

/-- A kind is widened to one of the same sign that is at least as wide, from unsigned to signed to one
that is strictly wider, from any integral kind to all integers, and from any kind to all numbers. -/
def widensTo (k k' : NumberKind) : Bool :=
  match k, k' with
  | _, plain => true
  | _, float => true
  | k, integer => k.isIntegral
  | signed w, signed w' => w.bits ≤ w'.bits
  | unsigned w, unsigned w' => w.bits ≤ w'.bits
  | unsigned w, signed w' => w.bits < w'.bits
  | _, _ => false

/-- A kind is widened to itself when nothing changes. -/
theorem widensTo_refl (k : NumberKind) : k.widensTo k = true := by
  cases k <;> simp [widensTo, isIntegral]

/-- A kind that is widened to a sized kind is sized, and its range lies in the range of that kind. -/
theorem range?_of_widensTo (k k' : NumberKind) (h : k.widensTo k' = true) (lo' hi' : Int)
    (hrange' : k'.range? = some (lo', hi')) :
    ∃ lo hi, k.range? = some (lo, hi) ∧ lo' ≤ lo ∧ hi ≤ hi' := by
  cases k' with
  | plain | float | integer => cases hrange'
  | signed w' =>
    obtain ⟨rfl, rfl⟩ := Prod.mk.inj (Option.some.inj hrange')
    cases k with
    | signed w => exact ⟨_, _, rfl, signedRange_mono _ _ (of_decide_eq_true h)⟩
    | unsigned w => exact ⟨_, _, rfl, unsignedRange_within_signedRange _ _ (of_decide_eq_true h)⟩
    | plain | float | integer => cases h
  | unsigned w' =>
    obtain ⟨rfl, rfl⟩ := Prod.mk.inj (Option.some.inj hrange')
    cases k with
    | unsigned w => exact ⟨_, _, rfl, unsignedRange_mono _ _ (of_decide_eq_true h)⟩
    | signed w | plain | float | integer => cases h

/-- A kind that is widened to an integral kind is integral. -/
theorem isIntegral_of_widensTo (k k' : NumberKind) (h : k.widensTo k' = true)
    (hintegral : k'.isIntegral = true) : k.isIntegral = true := by
  cases k with
  | plain | float => cases k' <;> simp [widensTo, isIntegral] at h hintegral
  | integer | signed w | unsigned w => rfl

/-- A wider kind admits the numbers that the narrower one admits. -/
theorem Admits.widen (k k' : NumberKind) (h : k.widensTo k' = true) (x : Binary64)
    (hx : k.Admits x) : k'.Admits x := by
  obtain ⟨hintegral, hsized⟩ := hx
  constructor
  · intro hintegral'
    exact hintegral (k.isIntegral_of_widensTo k' h hintegral')
  · intro lo' hi' hrange'
    obtain ⟨lo, hi, hrange, hlo, hhi⟩ := k.range?_of_widensTo k' h lo' hi' hrange'
    obtain ⟨n, hn, hnlo, hnhi⟩ := hsized lo hi hrange
    exact ⟨n, hn, Int.le_trans hlo hnlo, Int.le_trans hnhi hhi⟩

/-- A half, one past all words of 64 bits, and the least and one past the greatest of each signed
word: wherever two kinds differ, they differ at one of these. -/
def edges : List Binary64 :=
  .ofRatio false 1 2 :: .ofInt ((unsignedRange 64).2 + 1) ::
    IntWidth.all.flatMap fun w =>
      [.ofInt (signedRange w.bits).1, .ofInt ((signedRange w.bits).2 + 1)]

/-- One kind is widened to another exactly when all numbers of the first are of the second. -/
theorem widensTo_iff_forall_admits (k k' : NumberKind) :
    k.widensTo k' = true ↔ ∀ x, k.Admits x → k'.Admits x := by
  -- There are finitely many kinds, so the pairs that differ at an edge can be looked through.
  have hmem (k : NumberKind) : k ∈ all := by
    rcases k with _ | _ | _ | w | w <;> first | decide | (cases w <;> decide)
  have hedges : ∀ k ∈ all, ∀ k' ∈ all,
      (∀ x ∈ edges, k.admits x = true → k'.admits x = true) → k.widensTo k' = true := by
    decide +kernel
  constructor
  · exact fun h x hx => hx.widen k k' h x
  · intro h
    refine hedges k (hmem k) k' (hmem k') fun x _ hx => ?_
    exact (k'.admits_iff x).2 (h x ((k.admits_iff x).1 hx))

end NumberKind

/-! ## One node -/

/-- An attribute is loosened when the value may be absent, or the predicate is dropped. -/
structure Attributes.Loosens (attrs attrs' : Attributes) : Prop where
  optional : attrs.optional = true → attrs'.optional = true
  validator : ∀ p ∈ attrs'.validator?, attrs.validator? = some p

/-- Attributes loosen to themselves. -/
theorem Attributes.Loosens.refl (attrs : Attributes) : attrs.Loosens attrs := ⟨id, fun _ h => h⟩

/-- A leaf that asks for the same kind of value, or for a wider kind of numbers, with looser bounds,
and with the same pattern or none. -/
inductive LeafRule.Loosens : LeafRule → LeafRule → Prop
  | string (rules rules' : StringRules) (lengths : rules.lengths.Loosens rules'.lengths)
      (pattern : ∀ source ∈ rules'.pattern?, rules.pattern? = some source) :
      Loosens (.string rules) (.string rules')
  | number (rules rules' : NumberRules) (kind : rules.kind.widensTo rules'.kind = true)
      (min : ∀ x' ∈ rules'.min?, ∃ x ∈ rules.min?, x' = x ∨ x'.le x = true)
      (max : ∀ x' ∈ rules'.max?, ∃ x ∈ rules.max?, x' = x ∨ x.le x' = true) :
      Loosens (.number rules) (.number rules')
  | bool : Loosens .bool .bool
  | array (lengths lengths' : LengthBounds) (bounds : lengths.Loosens lengths') :
      Loosens (.array lengths) (.array lengths')

namespace LeafRule.Loosens

/-- Rules loosen to themselves. -/
theorem refl (rule : LeafRule) : rule.Loosens rule := by
  cases rule with
  | string rules => exact .string rules rules (.refl rules.lengths) fun _ h => h
  | number rules =>
    exact .number rules rules rules.kind.widensTo_refl (fun x hx => ⟨x, hx, .inl rfl⟩)
      fun x hx => ⟨x, hx, .inl rfl⟩
  | bool => exact .bool
  | array lengths => exact .array lengths lengths (.refl lengths)

/-- A looser rule holds of the values of which the stricter one holds. -/
theorem holds [PatternLanguage] (rule rule' : LeafRule) (h : rule.Loosens rule') (v : Value)
    (hv : (Rule.leaf rule).Holds v) : (Rule.leaf rule').Holds v := by
  cases h with
  | string rules rules' hlengths hpattern =>
    obtain ⟨text, rfl, hlength, hmatch⟩ := hv
    exact ⟨text, rfl, hlengths.allow _ _ _ hlength, fun source hsource =>
      hmatch source (hpattern source hsource)⟩
  | number rules rules' hkind hmin hmax =>
    obtain ⟨x, rfl, hadmits, hleast, hgreatest⟩ := hv
    refine ⟨x, rfl, hadmits.widen _ _ hkind x, fun min' hmin' => ?_, fun max' hmax' => ?_⟩
    · obtain ⟨min, hdeclared, rfl | hle⟩ := hmin min' hmin'
      · exact hleast min' hdeclared
      · exact x.not_lt_of_le min min' hle (hleast min hdeclared)
    · obtain ⟨max, hdeclared, rfl | hle⟩ := hmax max' hmax'
      · exact hgreatest max' hdeclared
      · exact x.not_gt_of_le max max' hle (hgreatest max hdeclared)
  | bool => exact hv
  | array lengths lengths' hbounds => exact hbounds.holds lengths lengths' v hv

end LeafRule.Loosens

mutual

/-- A node is loosened: in what it asks of the value itself, and in all nodes below. The items of an
array may no longer be looked at. -/
inductive Node.Loosens : Node → Node → Prop
  | leaf (attrs attrs' : Attributes) (rule rule' : LeafRule) (own : attrs.Loosens attrs')
      (asked : rule.Loosens rule') : Node.Loosens (.leaf attrs rule) (.leaf attrs' rule')
  | arrayOf (attrs attrs' : Attributes) (lengths lengths' : LengthBounds) (item item' : Node)
      (own : attrs.Loosens attrs') (bounds : lengths.Loosens lengths')
      (below : Node.Loosens item item') :
      Node.Loosens (.arrayOf attrs lengths item) (.arrayOf attrs' lengths' item')
  | dropItem (attrs attrs' : Attributes) (lengths lengths' : LengthBounds) (item : Node)
      (own : attrs.Loosens attrs') (bounds : lengths.Loosens lengths') :
      Node.Loosens (.arrayOf attrs lengths item) (.leaf attrs' (.array lengths'))
  | tuple (attrs attrs' : Attributes) (lengths lengths' : LengthBounds)
      (positions positions' : List Node) (own : attrs.Loosens attrs')
      (bounds : lengths.Loosens lengths') (below : PositionsLoosen positions positions') :
      Node.Loosens (.tuple attrs lengths positions) (.tuple attrs' lengths' positions')
  | dropPositions (attrs attrs' : Attributes) (lengths lengths' : LengthBounds)
      (positions : List Node) (own : attrs.Loosens attrs') (bounds : lengths.Loosens lengths') :
      Node.Loosens (.tuple attrs lengths positions) (.leaf attrs' (.array lengths'))
  | object (attrs attrs' : Attributes) (allowExtra allowExtra' : Bool)
      (properties properties' : List (String × Node)) (own : attrs.Loosens attrs')
      (extra : allowExtra = true → allowExtra' = true)
      (below : PropertiesLoosen allowExtra' properties properties') :
      Node.Loosens (.object attrs allowExtra properties) (.object attrs' allowExtra' properties')

/-- The positions of a tuple are loosened one by one. -/
inductive PositionsLoosen : List Node → List Node → Prop
  | nil : PositionsLoosen [] []
  | cons (node node' : Node) (rest rest' : List Node) (first : Node.Loosens node node')
      (others : PositionsLoosen rest rest') : PositionsLoosen (node :: rest) (node' :: rest')

/-- The properties of an object are loosened one by one. Some may be dropped if undeclared keys are
let through. -/
inductive PropertiesLoosen : Bool → List (String × Node) → List (String × Node) → Prop
  | nil (allowExtra : Bool) : PropertiesLoosen allowExtra [] []
  | keep (allowExtra : Bool) (name : String) (node node' : Node)
      (rest rest' : List (String × Node)) (first : Node.Loosens node node')
      (others : PropertiesLoosen allowExtra rest rest') :
      PropertiesLoosen allowExtra ((name, node) :: rest) ((name, node') :: rest')
  | drop (name : String) (node : Node) (rest rest' : List (String × Node))
      (others : PropertiesLoosen true rest rest') :
      PropertiesLoosen true ((name, node) :: rest) rest'

end

namespace Node

mutual

/-- Nodes loosen to themselves. -/
theorem Loosens.refl (node : Node) : node.Loosens node := by
  cases node with
  | leaf attrs rule => exact .leaf _ _ _ _ (.refl attrs) (.refl rule)
  | arrayOf attrs lengths item =>
    exact .arrayOf _ _ _ _ _ _ (.refl attrs) (.refl lengths) (Loosens.refl item)
  | tuple attrs lengths positions =>
    exact .tuple _ _ _ _ _ _ (.refl attrs) (.refl lengths) (positionsLoosen_refl positions)
  | object attrs allowExtra properties =>
    exact .object _ _ _ _ _ _ (.refl attrs) id (propertiesLoosen_refl allowExtra properties)

/-- The same for the positions of a tuple. -/
theorem positionsLoosen_refl (positions : List Node) : PositionsLoosen positions positions := by
  cases positions with
  | nil => exact .nil
  | cons node rest => exact .cons _ _ _ _ (Loosens.refl node) (positionsLoosen_refl rest)

/-- The same for the properties of an object. -/
theorem propertiesLoosen_refl (allowExtra : Bool) (properties : List (String × Node)) :
    PropertiesLoosen allowExtra properties properties := by
  match properties with
  | [] => exact .nil _
  | (name, node) :: rest =>
    exact .keep _ _ _ _ _ _ (Loosens.refl node) (propertiesLoosen_refl allowExtra rest)

end

/-- A looser node asks less of the value itself, if its rule does. -/
theorem Holds.loosen [PatternLanguage] (node node' : Node) (hattrs : node.attrs.Loosens node'.attrs)
    (hrule : ∀ v, node.rule.Holds v → node'.rule.Holds v) (extras : Extras) (v : Value)
    (h : node.Holds extras v) : node'.Holds extras v :=
  ⟨hrule v h.1, fun p hp => h.2 p (hattrs.validator p hp)⟩

/-- A looser node has looser attributes. -/
theorem Loosens.attrs (node node' : Node) (h : node.Loosens node') :
    node.attrs.Loosens node'.attrs := by
  cases h <;> assumption

/-- What fits in the place of a node fits in that of a looser one, if this is so for the values that
are present. -/
theorem Fits.loosen [PatternLanguage] (node node' : Node) (h : node.Loosens node') (extras : Extras)
    (hpresent : ∀ v, node.Conforms extras v → node'.Conforms extras v) (value? : Option Value)
    (hfits : node.Fits extras value?) : node'.Fits extras value? := by
  cases hfits with
  | absent _ hoptional => exact .absent node' (h.attrs.optional hoptional)
  | present _ v hv => exact .present node' v (hpresent v hv)

/-- An object that refuses undeclared keys has kept all its properties. -/
theorem keys_of_propertiesLoosen (properties properties' : List (String × Node))
    (h : PropertiesLoosen false properties properties') :
    Entries.keys properties' = Entries.keys properties := by
  match properties with
  | [] =>
    cases h
    rfl
  | (name, node) :: rest =>
    cases h with
    | keep _ _ _ _ _ rest' _ hothers =>
      exact congrArg (name :: ·) (keys_of_propertiesLoosen rest rest' hothers)

/-- The rule of a looser object holds of the maps of which that of the stricter one holds. -/
theorem holds_of_propertiesLoosen [PatternLanguage]
    (attrs attrs' : Attributes) (allowExtra allowExtra' : Bool)
    (properties properties' : List (String × Node)) (hextra : allowExtra = true → allowExtra' = true)
    (h : PropertiesLoosen allowExtra' properties properties') (v : Value)
    (hv : (object attrs allowExtra properties).rule.Holds v) :
    (object attrs' allowExtra' properties').rule.Holds v := by
  obtain ⟨entries, rfl, honly⟩ := hv
  refine ⟨entries, rfl, ?_⟩
  cases allowExtra' with
  | true => exact fun _ hallowed => nomatch hallowed
  | false =>
    -- Undeclared keys were refused before as well, and the declared ones are the same.
    obtain rfl : allowExtra = false := Bool.eq_false_iff.2 fun hallow => nomatch hextra hallow
    rintro _ ⟨⟩ key hkey
    rw [keys_of_propertiesLoosen properties properties' h]
    exact honly _ rfl key hkey

mutual

/-- What conforms to a node conforms to a looser one. -/
theorem Conforms.loosen [PatternLanguage]
    (node node' : Node) (h : node.Loosens node') (extras : Extras) (v : Value)
    (hv : node.Conforms extras v) : node'.Conforms extras v := by
  -- First comes what the node asks of the value itself, then what is below.
  have hholds (hrule : ∀ v, node.rule.Holds v → node'.rule.Holds v) : node'.Holds extras v :=
    hv.holds.loosen node node' h.attrs hrule extras v
  cases node with
  | leaf attrs rule =>
    cases h with
    | leaf _ attrs' _ rule' _ hrule =>
      exact .leaf attrs' rule' v (hholds (hrule.holds rule rule'))
  | arrayOf attrs lengths item =>
    cases hv with
    | arrayOf _ _ _ items _ heach =>
      cases h with
      | arrayOf _ attrs' _ lengths' _ item' _ hbounds hitem =>
        have hitems (x : Value) (hx : x ∈ items) : item'.Conforms extras x :=
          Conforms.loosen item item' hitem extras x (heach x hx)
        exact .arrayOf attrs' lengths' item' items (hholds (hbounds.holds lengths lengths')) hitems
      | dropItem _ attrs' _ lengths' _ _ hbounds =>
        exact .leaf attrs' (.array lengths') _ (hholds (hbounds.holds lengths lengths'))
  | tuple attrs lengths positions =>
    cases hv with
    | tuple _ _ _ items _ heach =>
      cases h with
      | tuple _ attrs' _ lengths' _ positions' _ hbounds hpositions =>
        exact .tuple attrs' lengths' positions' items
          (hholds (hbounds.holds lengths lengths'))
          (positionsFit positions positions' hpositions extras (items[·]?) heach)
      | dropPositions _ attrs' _ lengths' _ _ hbounds =>
        exact .leaf attrs' (.array lengths') _ (hholds (hbounds.holds lengths lengths'))
  | object attrs allowExtra properties =>
    cases hv with
    | object _ _ _ entries _ heach =>
      cases h with
      | object _ attrs' _ allowExtra' _ properties' _ hextra hproperties =>
        exact .object attrs' allowExtra' properties' entries
          (hholds (holds_of_propertiesLoosen attrs attrs' _ _ _ _ hextra hproperties))
          (propertiesFit allowExtra' properties properties' hproperties extras
            (Entries.find? entries) heach)
termination_by structural node

/-- What fits in the positions of a tuple fits in the looser ones. -/
theorem positionsFit [PatternLanguage]
    (positions positions' : List Node) (h : PositionsLoosen positions positions')
    (extras : Extras) (value? : Nat → Option Value)
    (hfits : ∀ (i : Nat) (node : Node), positions[i]? = some node → node.Fits extras (value? i)) :
    ∀ (i : Nat) (node' : Node), positions'[i]? = some node' → node'.Fits extras (value? i) := by
  intro i node' hnode'
  cases positions with
  | nil =>
    cases h with
    | nil => cases hnode'
  | cons node rest =>
    cases h with
    | cons _ first' _ rest' hfirst hothers =>
      -- The places of the others are counted from the second position on.
      cases i with
      | zero =>
        obtain rfl : first' = node' := Option.some.inj hnode'
        exact Fits.loosen node first' hfirst extras
          (fun v => Conforms.loosen node first' hfirst extras v) _ (hfits 0 node rfl)
      | succ i =>
        exact positionsFit rest rest' hothers extras (fun j => value? (j + 1))
          (fun j other hother => hfits (j + 1) other hother) i node' hnode'
termination_by structural positions

/-- What fits in the places of the properties of an object fits in the looser ones. -/
theorem propertiesFit [PatternLanguage]
    (allowExtra' : Bool) (properties properties' : List (String × Node))
    (h : PropertiesLoosen allowExtra' properties properties') (extras : Extras)
    (value? : String → Option Value)
    (hfits : ∀ name node, (name, node) ∈ properties → node.Fits extras (value? name)) :
    ∀ name node', (name, node') ∈ properties' → node'.Fits extras (value? name) := by
  intro name node' hmem'
  match properties with
  | [] =>
    cases h with
    | nil => cases hmem'
  | (name₀, node) :: rest =>
    have hrest (name : String) (other : Node) (hmem : (name, other) ∈ rest) :
        other.Fits extras (value? name) := hfits name other (List.mem_cons_of_mem _ hmem)
    cases h with
    | keep _ _ _ first' _ rest' hfirst hothers =>
      rcases List.mem_cons.1 hmem' with heq | hmem'
      · obtain ⟨rfl, rfl⟩ := Prod.mk.inj heq
        exact Fits.loosen node node' hfirst extras
          (fun v => Conforms.loosen node node' hfirst extras v) _
          (hfits name node List.mem_cons_self)
      · exact propertiesFit _ rest rest' hothers extras value? hrest name node' hmem'
    | drop _ _ _ _ hothers =>
      exact propertiesFit _ rest properties' hothers extras value? hrest name node' hmem'
termination_by structural properties

end

end Node

/-! ## The whole schema -/

/-- A schema is loosened when its root is. -/
def Schema.Loosens (s s' : Schema) : Prop := s.node.Loosens s'.node

/-- Loosening a schema never invalidates an input: what has no errors under the schema has none under
a looser one, whatever the extra arguments are. -/
theorem Schema.loosening_keeps_valid [PatternLanguage]
    (s s' : Schema) (h : s.Loosens s') (extraParams : List String)
    (v v' : Validator) (hv : s.compile extraParams = .ok v) (hv' : s'.compile extraParams = .ok v')
    (value : Value) (args : List Value) (hvalid : v.validate value args = []) :
    v'.validate value args = [] := by
  rw [s.validate_eq_nil_iff extraParams v hv] at hvalid
  rw [s'.validate_eq_nil_iff extraParams v' hv']
  exact Node.Conforms.loosen s.node s'.node h _ value hvalid

namespace Demo

/-- A name of at most 30 characters, which may be absent. -/
def longName : Node := .ofString [.optional, .own (.maxLen 30)]

/-- Any number from 0 as an age. -/
def anyAge : Node := .ofNumber .float [.own (.min (.ofNat 0))]

/-- The schema of user records, loosened: hobbies are no longer looked at, and users need no age. -/
def looseSchema : Schema :=
  .ofSettings
    [.property "name" longName,
      .property "age" anyAge,
      .property "hobbies" (.ofArray .unchecked [.optional]),
      .property "users" (.ofArray (.each (.ofObject [.own (.property "name" name)])) [])]

/-- The bound of a name is raised. -/
theorem name_loosens : name.Loosens longName := by
  have hraised : LengthBounds.Loosens { max? := some 15 } { max? := some 30 } :=
    ⟨fun _ h => (nomatch h), fun n' h => ⟨15, rfl, by rw [← Option.some.inj h]; decide⟩⟩
  exact .leaf _ _ _ _ ⟨fun _ => rfl, fun _ h => (nomatch h)⟩
    (.string _ _ hraised fun _ h => (nomatch h))

/-- The kind of an age is widened, one bound lowered and the other dropped. -/
theorem age_loosens : age.Loosens anyAge := by
  have hlowered (x' : Binary64) (h : some (Binary64.ofNat 0) = some x') :
      ∃ x ∈ some (Binary64.ofNat 13), x' = x ∨ x'.le x = true := by
    rw [← Option.some.inj h]
    exact ⟨.ofNat 13, rfl, .inr (by decide +kernel)⟩
  exact .leaf _ _ _ _ ⟨id, fun _ h => (nomatch h)⟩
    (.number _ _ rfl hlowered fun _ h => (nomatch h))

/-- The loosened schema is a loosening. -/
theorem schema_loosens : schema.Loosens looseSchema := by
  have husers : (Node.ofObject [.own (.property "name" name), .own (.property "age" age)]).Loosens
      (.ofObject [.own (.property "name" name)]) :=
    .object _ _ _ _ _ _ (.refl _) id (.keep _ _ _ _ _ _ (.refl name) (.drop _ _ _ _ (.nil _)))
  exact .object _ _ _ _ _ _ (.refl _) id
    (.keep _ _ _ _ _ _ name_loosens (.keep _ _ _ _ _ _ age_loosens
      (.keep _ _ _ _ _ _ (.dropItem _ _ _ _ _ (.refl _) (.refl _))
        (.keep _ _ _ _ _ _ (.arrayOf _ _ _ _ _ _ (.refl _) (.refl _) husers) (.nil _)))))

/-- A record of a user who knows another one. -/
def record : Value :=
  .map [("name", .string "Ann"), ("age", toValue 44), ("users", toValue [sampleUser "B" 20])]

/-- A record without errors has none under the loosened schema either. -/
theorem loosening_keeps_valid_record :
    schema.Loosens looseSchema ∧
      schema.compile ["limit"] =
        .ok { plan := schema.node.plan .root, extraParams := ["limit"] } ∧
      looseSchema.compile ["limit"] =
        .ok { plan := looseSchema.node.plan .root, extraParams := ["limit"] } ∧
      Validator.validate { plan := schema.node.plan .root, extraParams := ["limit"] }
        record [toValue 3] = [] ∧
      Validator.validate { plan := looseSchema.node.plan .root, extraParams := ["limit"] }
        record [toValue 3] = [] := by
  have hloose : looseSchema.compile ["limit"] =
      .ok { plan := looseSchema.node.plan .root, extraParams := ["limit"] } :=
    (looseSchema.compile_eq_ok_iff _ _).2 ⟨by decide +kernel, rfl⟩
  have hvalid : Validator.validate { plan := schema.node.plan .root, extraParams := ["limit"] }
      record [toValue 3] = [] := by
    decide +kernel
  exact ⟨schema_loosens, compile_schema, hloose, hvalid,
    schema.loosening_keeps_valid looseSchema schema_loosens _ _ _ compile_schema hloose _ _ hvalid⟩

end Demo

end DataShape
