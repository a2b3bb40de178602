import DataShape.Schema.Basic

/-!
# Building schemas from settings

A node is built from a list of settings, each of which sets one attribute. Of several settings of
one attribute the last one counts. A property that is declared twice keeps its first place and its
last node.
-/

namespace DataShape

/-- A setting of a node: one that all nodes know, or one of its own kind. -/
inductive Setting (Own : Type)
  | optional
  | validator (p : Predicate)
  | error (c : Constraint) (p : Producer)
  | own (s : Own)

/-- The settings of string nodes. -/
inductive StringSetting
  | minLen (n : UInt64)
  | maxLen (n : UInt64)
  | pattern (source : String)

/-- The settings of number nodes. -/
inductive NumberSetting
  | min (x : Binary64)
  | max (x : Binary64)
  | kind (k : NumberKind)

/-- What an array node asks of its items. -/
inductive Items
  | unchecked
  | each (item : Node)
  | positions (nodes : List Node)

/-- The settings of array nodes. -/
inductive ArraySetting
  | minLen (n : UInt64)
  | maxLen (n : UInt64)
  | items (items : Items)

/-- The settings of object nodes. -/
inductive ObjectSetting
  | property (name : String) (node : Node)
  | denyExtra

/-- The settings of the root. -/
inductive RootSetting
  | property (name : String) (node : Node)
  | denyExtra
  | validator (p : Predicate)
  | error (c : Constraint) (p : Producer)

/-! ## Settings by other names -/

/-- Reports a constraint by a function without a text. -/
def Setting.errorBy {Own : Type} (c : Constraint) (run : FailureContext → ValidationError) :
    Setting Own :=
  .error c (.closure run none)

namespace NumberSetting

/-- Asks for a whole number. -/
def integer : NumberSetting := .kind .integer

/-- Asks for a float. -/
def float : NumberSetting := .kind .float

end NumberSetting

namespace ArraySetting

/-- Asks the same of all items. -/
def each (item : Node) : ArraySetting := .items (.each item)

/-- Asks something of each position. -/
def positions (nodes : List Node) : ArraySetting := .items (.positions nodes)

end ArraySetting

/-- Reports a constraint of the root by a function without a text. -/
def RootSetting.errorBy (c : Constraint) (run : FailureContext → ValidationError) : RootSetting :=
  .error c (.closure run none)

/-! ## Nodes under construction -/

/-- A node under construction: its attributes and what its kind adds. -/
structure Draft (Rules : Type) where
  attrs : Attributes := {}
  rules : Rules

namespace Draft

/-- Applies a setting, one of the own kind by `set`. -/
def apply {Rules Own : Type} (set : Rules → Own → Rules) (d : Draft Rules) :
    Setting Own → Draft Rules
  | .optional => { d with attrs := { d.attrs with optional := true } }
  | .validator p => { d with attrs := { d.attrs with validator? := some p } }
  | .error c p => { d with attrs := { d.attrs with errors := d.attrs.errors.insert c p } }
  | .own s => { d with rules := set d.rules s }

/-- Applies settings in order, starting from the default attributes. -/
def build {Rules Own : Type} (set : Rules → Own → Rules) (rules : Rules)
    (settings : List (Setting Own)) : Draft Rules :=
  settings.foldl (apply set) { rules }

end Draft

/-- Applies a setting of string nodes. -/
def StringRules.set (rules : StringRules) : StringSetting → StringRules
  | .minLen n => { rules with lengths := { rules.lengths with min? := some n } }
  | .maxLen n => { rules with lengths := { rules.lengths with max? := some n } }
  | .pattern source => { rules with pattern? := some source }

/-- Applies a setting of number nodes. -/
def NumberRules.set (rules : NumberRules) : NumberSetting → NumberRules
  | .min x => { rules with min? := some x }
  | .max x => { rules with max? := some x }
  | .kind k => { rules with kind := k }

/-- The rules of an array node under construction. -/
structure ArrayRules where
  lengths : LengthBounds := {}
  items : Items := .unchecked

/-- Applies a setting of array nodes. -/
def ArrayRules.set (rules : ArrayRules) : ArraySetting → ArrayRules
  | .minLen n => { rules with lengths := { rules.lengths with min? := some n } }
  | .maxLen n => { rules with lengths := { rules.lengths with max? := some n } }
  | .items items => { rules with items }

/-- The rules of an object node under construction. -/
structure ObjectRules where
  properties : List (String × Node) := []
  allowExtra : Bool := true

/-- Applies a setting of object nodes. -/
def ObjectRules.set (rules : ObjectRules) : ObjectSetting → ObjectRules
  | .property name node => { rules with properties := Entries.insert name node rules.properties }
  | .denyExtra => { rules with allowExtra := false }

namespace Node

/-- A string node. -/
def ofString (settings : List (Setting StringSetting)) : Node :=
  let d := Draft.build StringRules.set {} settings
  leaf d.attrs (.string d.rules)

/-- A number node of a kind, which a setting may still change. -/
def ofNumber (kind : NumberKind) (settings : List (Setting NumberSetting)) : Node :=
  let d := Draft.build NumberRules.set { kind } settings
  leaf d.attrs (.number d.rules)

/-- A boolean node, which has no settings of its own. -/
def ofBool (settings : List (Setting Empty)) : Node :=
  let d := Draft.build (fun (rules : Unit) _ => rules) () settings
  leaf d.attrs .bool

/-- An array node that looks at its items as given, which a setting may still change. -/
def ofArray (items : Items) (settings : List (Setting ArraySetting)) : Node :=
  let d := Draft.build ArrayRules.set { items } settings
  match d.rules.items with
  | .unchecked => leaf d.attrs (.array d.rules.lengths)
  | .each item => arrayOf d.attrs d.rules.lengths item
  | .positions nodes => tuple d.attrs d.rules.lengths nodes

/-- An object node. -/
def ofObject (settings : List (Setting ObjectSetting)) : Node :=
  let d := Draft.build ObjectRules.set {} settings
  object d.attrs d.rules.allowExtra d.rules.properties

end Node

namespace Schema

/-- Applies a setting of the root. -/
def set (s : Schema) : RootSetting → Schema
  | .property name node => s.withProperty name node
  | .denyExtra => { s with allowExtra := false }
  | .validator p => { s with validator? := some p }
  | .error c p => s.withError c p

/-- The schema with the given settings. -/
def ofSettings (settings : List RootSetting) : Schema := settings.foldl set {}

end Schema

end DataShape
