import DataShape.Pattern.Room
import DataShape.Pattern.Search
import DataShape.Pattern.Symbol
import DataShape.Text.Alphabetic
import DataShape.Text.Numeric

/-!
# Reading patterns

The reader goes through the symbols of a pattern one by one. Its state holds the branch that is
being read, the finished branches beside it, the groups around it, and a mode that says what the
next symbol continues: an item, a group head, a count or a set. Each symbol takes one step, so
reading ends with the text.

Within brackets a second, smaller state is at work, a stack of sets with a cursor.

Every part carries its depth along: groups, brackets, repetitions, sequences, alternatives and set
operators lie one level above the deepest part within them.
-/

namespace DataShape

/-- A part of a pattern and its depth. -/
structure Nested (α : Type) where
  value : α
  depth : Nat

/-- The greatest depth among several. -/
def greatestDepth (depths : List Nat) : Nat := depths.foldl max 0

/-- The depth of several parts side by side. One part alone is not a level of its own. -/
def depthBeside (depths : List Nat) : Nat :=
  if 2 ≤ depths.length then greatestDepth depths + 1 else greatestDepth depths

/-- The flags that hold for a part of a pattern. -/
structure PatternFlags where
  ignoreCase : Bool := false
  multiLine : Bool := false
  dotAll : Bool := false
  /-- Repetitions are lazy unless a `?` follows. -/
  swapGreed : Bool := false

namespace PatternFlags

/-- Switches the flag with the given letter. Unicode classes are always on. -/
def switch (flags : PatternFlags) (on : Bool) : Char → Option PatternFlags
  | 'i' => some { flags with ignoreCase := on }
  | 'm' => some { flags with multiLine := on }
  | 's' => some { flags with dotAll := on }
  | 'U' => some { flags with swapGreed := on }
  | 'u' => if on then some flags else none
  | _ => none

/-- Reads flag letters, those after a `-` being switched off. Nothing may stand twice, and a letter
has to follow the `-`. -/
def read (flags : PatternFlags) (on : Bool) (seen : List Char) : List Char → Option PatternFlags
  | [] => if seen.head? = some '-' then none else some flags
  | c :: cs =>
    if seen.contains c then none
    else if c = '-' then read flags false (c :: seen) cs
    else do read (← flags.switch on c) on (c :: seen) cs

/-- A set of characters under the flags. -/
def apply (flags : PatternFlags) (s : CharSet) : CharSet :=
  if flags.ignoreCase then .caseless s else s

end PatternFlags

/-- The operators between sets. -/
inductive SetOperator
  | intersection
  | difference
  | symmetricDifference

namespace SetOperator

/-- The character that is doubled to write the operator. -/
def ofChar? : Char → Option SetOperator
  | '&' => some intersection
  | '-' => some difference
  | '~' => some symmetricDifference
  | _ => none

/-- The set that the operator makes of two sets. -/
def apply : SetOperator → CharSet → CharSet → CharSet
  | intersection => .intersection
  | difference => .difference
  | symmetricDifference => .symmetricDifference

end SetOperator

/-- An open bracket: what has been read since. -/
structure SetFrame where
  negated : Bool := false
  /-- The sets and operators before the last operator. -/
  left? : Option (Nested CharSet × SetOperator) := none
  items : CharSet := .empty
  depths : List Nat := []
  /-- The text since the opening bracket, last character first, as long as it is plain. -/
  text? : Option (List Char) := some []

namespace SetFrame

/-- Adds a set to the items. -/
def add (frame : SetFrame) (s : Nested CharSet) : SetFrame :=
  { frame with items := frame.items.union s.value, depths := s.depth :: frame.depths }

/-- The items after the operators before them. -/
def operand (frame : SetFrame) : Nested CharSet :=
  let depth := depthBeside frame.depths
  match frame.left? with
  | some (left, op) => ⟨op.apply left.value frame.items, max left.depth depth + 1⟩
  | none => ⟨frame.items, depth⟩

/-- Starts the right side of an operator. -/
def operate (frame : SetFrame) (op : SetOperator) : SetFrame :=
  { frame with left? := some (frame.operand, op), items := .empty, depths := [] }

/-- The set that the bracket encloses. -/
def result (frame : SetFrame) : Nested CharSet :=
  let s := frame.operand
  ⟨if frame.negated then s.value.complement else s.value, s.depth + 1⟩

/-- The named set that a closed nested bracket stands for when `:name:` or `:^name:` is in it. -/
def named? (flags : PatternFlags) (frame : SetFrame) : Option CharSet := do
  let ']' :: ':' :: back ← frame.text? | none
  let ':' :: name := back.reverse | none
  match name with
  | '^' :: name => do return .complement (flags.apply (← CharSet.named? (String.ofList name)))
  | name => do return flags.apply (← CharSet.named? (String.ofList name))

/-- Notes a symbol in the text. -/
def note (frame : SetFrame) : Symbol → SetFrame
  | .plain c => { frame with text? := frame.text?.map (c :: ·) }
  | _ => { frame with text? := none }

end SetFrame

/-- What the next symbol in a bracket continues. -/
inductive SetCursor
  /-- An opening bracket, a `^` included if `mayNegate` is false; `fresh` as long as it has
  no item. -/
  | opened (mayNegate fresh : Bool)
  | item
  /-- A character that may begin a range. -/
  | after (c : Char)
  /-- A character and a `-`. -/
  | dash (c : Char)
  | afterSet
  | setDash
  /-- One half of an operator. -/
  | half (c : Char)

/-- The brackets that are open, the innermost apart. -/
structure SetState where
  frame : SetFrame := {}
  outer : List SetFrame := []
  cursor : SetCursor := .opened true true

namespace SetState

/-- The state with another cursor. -/
def withCursor (st : SetState) (cursor : SetCursor) : SetState := { st with cursor }

/-- Adds a set without brackets to the innermost bracket. -/
def add (st : SetState) (s : CharSet) : SetState := { st with frame := st.frame.add ⟨s, 0⟩ }

/-- Adds a character to the innermost bracket. -/
def addChar (flags : PatternFlags) (st : SetState) (c : Char) : SetState :=
  st.add (flags.apply (.single c))

/-- Starts the right side of an operator. -/
def operate (st : SetState) (op : SetOperator) : SetState :=
  { st with frame := st.frame.operate op, cursor := .item }

/-- Closes the innermost bracket: the state of the next one, or the finished set. -/
def close (flags : PatternFlags) (st : SetState) : SetState ⊕ Nested CharSet :=
  match st.outer with
  | [] => .inr st.frame.result
  | frame :: outer =>
    let s := ((st.frame.named? flags).map (⟨·, 0⟩)).getD st.frame.result
    .inl { frame := { frame.add s with text? := none }, outer, cursor := .item }

/-- Reads a symbol where an item may begin. -/
def item (flags : PatternFlags) (st : SetState) :
    Symbol → Except PatternError (SetState ⊕ Nested CharSet)
  | .plain '[' => .ok (.inl { outer := st.frame :: st.outer })
  | .plain ']' => .ok (st.close flags)
  | .plain c =>
    .ok (.inl (st.withCursor (if (SetOperator.ofChar? c).isSome then .half c else .after c)))
  | .literal c => .ok (.inl (st.withCursor (.after c)))
  | .set s => .ok (.inl ((st.add s).withCursor .afterSet))
  | .assertion _ => .error .notInSet

/-- Reads a symbol after a character. -/
def afterChar (flags : PatternFlags) (st : SetState) (c : Char) :
    Symbol → Except PatternError (SetState ⊕ Nested CharSet)
  | .plain '-' => .ok (.inl (st.withCursor (.dash c)))
  | symbol => (st.addChar flags c).item flags symbol

/-- Ends a range. -/
def endRange (flags : PatternFlags) (st : SetState) (first last : Char) :
    Except PatternError (SetState ⊕ Nested CharSet) :=
  if first ≤ last then .ok (.inl ((st.add (flags.apply (.range first last))).withCursor .item))
  else .error .reversedRange

/-- Reads a symbol that has been noted in the innermost bracket. -/
def step (flags : PatternFlags) (st : SetState) (symbol : Symbol) :
    Except PatternError (SetState ⊕ Nested CharSet) :=
  match st.cursor, symbol with
  | .opened true fresh, .plain '^' =>
    .ok (.inl { st with frame := { st.frame with negated := true }, cursor := .opened false fresh })
  | .opened _ _, .plain '-' => .ok (.inl ((st.addChar flags '-').withCursor (.opened false false)))
  | .opened _ true, .plain ']' => .ok (.inl ((st.addChar flags ']').withCursor .item))
  | .opened _ _, _ => st.item flags symbol
  | .item, _ => st.item flags symbol
  | .after c, _ => st.afterChar flags c symbol
  | .dash c, .plain ']' => .ok (((st.addChar flags c).addChar flags '-').close flags)
  | .dash c, .plain '-' => .ok (.inl ((st.addChar flags c).operate .difference))
  | .dash c, .plain d => st.endRange flags c d
  | .dash c, .literal d => st.endRange flags c d
  | .dash _, _ => .error .notInSet
  | .afterSet, .plain '-' => .ok (.inl (st.withCursor .setDash))
  | .afterSet, _ => st.item flags symbol
  | .setDash, .plain ']' => .ok ((st.addChar flags '-').close flags)
  | .setDash, .plain '-' => .ok (.inl (st.operate .difference))
  | .setDash, _ => .error .notInSet
  | .half c, .plain d =>
    match SetOperator.ofChar? c with
    | some op => if c = d then .ok (.inl (st.operate op)) else st.afterChar flags c symbol
    | none => st.afterChar flags c symbol
  | .half c, _ => st.afterChar flags c symbol

/-- Reads a symbol. -/
def read (flags : PatternFlags) (st : SetState) (symbol : Symbol) :
    Except PatternError (SetState ⊕ Nested CharSet) :=
  { st with frame := st.frame.note symbol }.step flags symbol

end SetState

/-- What the next symbol of a pattern continues. -/
inductive PatternMode
  | text
  /-- A repetition, which a `?` makes lazy. -/
  | repetition (least : Nat) (most? : Option Nat)
  | opened
  /-- A group head after its `?`, last character first. -/
  | head (text : List Char)
  /-- A count in braces, last character first. -/
  | count (text : List Char)
  | set (st : SetState)

/-- The part of a pattern between two brackets: the number of the group, if it has one, the finished
branches and the items of the one being read, last first. An item is `none` where flags are set,
which cannot be repeated. -/
structure GroupFrame where
  number? : Option Nat := none
  flags : PatternFlags := {}
  branches : List (Nested Regex) := []
  items : List (Nested (Option Regex)) := []

namespace GroupFrame

/-- Adds an item to the branch. -/
def push (frame : GroupFrame) (r : Nested Regex) : GroupFrame :=
  { frame with items := ⟨some r.value, r.depth⟩ :: frame.items }

/-- The branch being read. -/
def branch (frame : GroupFrame) : Nested Regex :=
  ⟨.concat (frame.items.reverse.filterMap Nested.value), depthBeside (frame.items.map Nested.depth)⟩

/-- All branches. -/
def alternatives (frame : GroupFrame) : Nested Regex :=
  match frame.branches with
  | [] => frame.branch
  | _ =>
    let branches := (frame.branch :: frame.branches).reverse
    ⟨.alternation (branches.map Nested.value), depthBeside (branches.map Nested.depth)⟩

/-- The group that the brackets enclose. -/
def group (frame : GroupFrame) : Nested Regex :=
  let r := frame.alternatives
  match frame.number? with
  | some number => ⟨.group number r.value, r.depth + 1⟩
  | none => ⟨r.value, r.depth + 1⟩

/-- Repeats the last item. -/
def repeatLast (frame : GroupFrame) (least : Nat) (most? : Option Nat) (greedy : Bool) :
    Except PatternError GroupFrame :=
  match frame.items with
  | ⟨some r, depth⟩ :: items =>
    let greedy := greedy != frame.flags.swapGreed
    .ok { frame with items := ⟨some (r.repeated least most? greedy), depth + 1⟩ :: items }
  | _ => .error .nothingToRepeat

end GroupFrame

/-- The state of the reader. -/
structure PatternReader where
  frame : GroupFrame := {}
  outer : List GroupFrame := []
  /-- The number of groups opened so far whose match is kept. -/
  groups : Nat := 0
  names : List String := []
  mode : PatternMode := .text

namespace PatternReader

/-- The greatest depth that a pattern may have. -/
def depthLimit : Nat := 250

/-- The number that a text spells, blanks around it allowed. It has at most 32 bits. -/
def number? (text : List Char) : Option Nat := do
  let digits := ((text.dropWhile isBlank).reverse.dropWhile isBlank).reverse
  guard (!digits.isEmpty && digits.all Char.isDigit)
  let n := digits.foldl (fun n c => 10 * n + (c.toNat - '0'.toNat)) 0
  guard (n < Nat.pow 2 32)
  return n

/-- The least and the most rounds that a count spells: `n`, `n,` or `n,m`. -/
def count? (text : List Char) : Option (Nat × Option Nat) := do
  let least ← number? (text.takeWhile (· != ','))
  match text.dropWhile (· != ',') with
  | [] => return (least, some least)
  | [_] => return (least, none)
  | _ :: rest =>
    let most ← number? rest
    guard (least ≤ most)
    return (least, some most)

/-- The text may name a group. Names begin with a letter or `_`, and may go on with numbers, points
and brackets. -/
def isGroupName : List Char → Bool
  | [] => false
  | c :: cs =>
    let isLetter (c : Char) := c == '_' || isAlphabetic c
    isLetter c && cs.all fun c => isLetter c || isNumeric c || ['.', '[', ']'].contains c

/-- The name of a group whose head so far is the text, if the head is that of a named group. -/
def groupName? : List Char → Option (List Char)
  | 'P' :: '<' :: name => some name
  | '<' :: name => some name
  | _ => none

/-- Opens a group. -/
def openGroup (st : PatternReader) (flags : PatternFlags) (number? : Option Nat) :
    PatternReader :=
  { st with frame := { number?, flags }, outer := st.frame :: st.outer, mode := .text }

/-- Opens a group whose match is kept. -/
def openNumbered (st : PatternReader) : PatternReader :=
  { st.openGroup st.frame.flags (some (st.groups + 1)) with groups := st.groups + 1 }

/-- Closes a group: it becomes an item of the branch around it. -/
def closeGroup (st : PatternReader) : Except PatternError PatternReader :=
  match st.outer with
  | [] => .error .unopenedGroup
  | frame :: outer => .ok { st with frame := frame.push st.frame.group, outer, mode := .text }

/-- Adds an item. -/
def push (st : PatternReader) (r : Nested Regex) : PatternReader :=
  { st with frame := st.frame.push r, mode := .text }

/-- Adds an item that is one character of a set. -/
def pushSet (st : PatternReader) (s : Nested CharSet) : PatternReader :=
  st.push ⟨.ofSet s.value, s.depth⟩

/-- Repeats the last item. -/
def repeatLast (st : PatternReader) (least : Nat) (most? : Option Nat) (greedy : Bool) :
    Except PatternError PatternReader := do
  return { st with frame := ← st.frame.repeatLast least most? greedy, mode := .text }

/-- Goes on to a mode that needs an item to repeat. -/
def expectItem (st : PatternReader) (mode : PatternMode) : Except PatternError PatternReader :=
  match st.frame.items with
  | ⟨some _, _⟩ :: _ => .ok { st with mode }
  | _ => .error .nothingToRepeat

/-- Reads a plain character where an item may begin. -/
def plain (st : PatternReader) (c : Char) : Except PatternError PatternReader :=
  let flags := st.frame.flags
  match c with
  | '(' => .ok { st with mode := .opened }
  | ')' => st.closeGroup
  | '|' => .ok { st with
      frame := { st.frame with branches := st.frame.branch :: st.frame.branches, items := [] }
      mode := .text }
  | '[' => .ok { st with mode := .set {} }
  | '?' => st.expectItem (.repetition 0 (some 1))
  | '*' => st.expectItem (.repetition 0 none)
  | '+' => st.expectItem (.repetition 1 none)
  | '\x7b' => st.expectItem (.count [])
  | '.' => .ok (st.pushSet ⟨.complement (if flags.dotAll then .empty else .single '\n'), 0⟩)
  | '^' => .ok (st.push ⟨.assertion (if flags.multiLine then .lineStart else .textStart), 0⟩)
  | '$' => .ok (st.push ⟨.assertion (if flags.multiLine then .lineEnd else .textEnd), 0⟩)
  | _ => .ok (st.pushSet ⟨flags.apply (.single c), 0⟩)

/-- Reads a symbol where an item may begin. -/
def item (st : PatternReader) : Symbol → Except PatternError PatternReader
  | .plain c => st.plain c
  | .literal c => .ok (st.pushSet ⟨st.frame.flags.apply (.single c), 0⟩)
  | .set s => .ok (st.pushSet ⟨s, 0⟩)
  | .assertion a => .ok (st.push ⟨.assertion a, 0⟩)

/-- Reads a character of a group head. -/
def headChar (st : PatternReader) (text : List Char) (c : Char) :
    Except PatternError PatternReader :=
  match groupName? text.reverse with
  | some name =>
    if c ≠ '>' then .ok { st with mode := .head (c :: text) }
    else if !isGroupName name then .error .malformedGroup
    else if st.names.contains (String.ofList name) then
      .error (.groupNameTaken (String.ofList name))
    else .ok { st.openNumbered with names := String.ofList name :: st.names }
  | none =>
    if c = ':' || c = ')' then
      match st.frame.flags.read true [] text.reverse with
      | none => .error .malformedFlags
      | some flags =>
        if c = ':' then .ok (st.openGroup flags none)
        else if text.isEmpty then .error .malformedFlags
        else .ok { st with
          frame := { st.frame with flags, items := ⟨none, 0⟩ :: st.frame.items }, mode := .text }
    else .ok { st with mode := .head (c :: text) }

/-- Reads a symbol. -/
def read (st : PatternReader) (symbol : Symbol) : Except PatternError PatternReader :=
  match st.mode, symbol with
  | .text, _ => st.item symbol
  | .repetition least most?, .plain '?' => st.repeatLast least most? false
  | .repetition least most?, _ => do (← st.repeatLast least most? true).item symbol
  | .opened, .plain '?' => .ok { st with mode := .head [] }
  | .opened, _ => st.openNumbered.item symbol
  | .head text, .plain c => st.headChar text c
  | .head _, _ => .error .malformedGroup
  | .count text, .plain '\x7d' =>
    match count? text.reverse with
    | some (least, most?) => .ok { st with mode := .repetition least most? }
    | none => .error .malformedCount
  | .count text, .plain c => .ok { st with mode := .count (c :: text) }
  | .count _, _ => .error .malformedCount
  | .set sets, _ => do
    match ← sets.read st.frame.flags symbol with
    | .inl next => return { st with mode := .set next }
    | .inr s => return st.pushSet s

/-- The expression that has been read, if nothing is open. -/
def result (st : PatternReader) : Except PatternError Regex :=
  match st.mode, st.outer with
  | .text, [] =>
    let r := st.frame.alternatives
    if r.depth ≤ depthLimit then .ok r.value else .error .tooDeep
  | .count _, _ => .error .malformedCount
  | .set _, _ => .error .unclosedSet
  | _, _ => .error .unclosedGroup

/-- The expression that has been read, at the end of the text. -/
def finish (st : PatternReader) : Except PatternError Regex :=
  match st.mode with
  | .repetition least most? => do (← st.repeatLast least most? true).result
  | _ => st.result

end PatternReader

/-- The regular expression that a text spells. -/
def Regex.ofString (source : String) : Except PatternError Regex := do
  let symbols ← Symbol.ofText source.toList
  let reader ← symbols.foldlM PatternReader.read {}
  let regex ← reader.finish
  if regex.fits then return regex else throw .tooLarge

end DataShape
