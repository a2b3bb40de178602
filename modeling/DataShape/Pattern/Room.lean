import DataShape.Pattern.Expression
import DataShape.Text.Utf8

/-!
# The room that an expression takes

A pattern is refused when an automaton for it would take more than ten mebibytes. Two automata are
laid out, one that reads the bytes of a text forwards and one that reads them backwards, and both
have to fit. A state takes 32 bytes, a fork 4 more for each of its branches, and a table of byte
ranges 8 more for each range. Counted repetition is laid out round by round.

`Regex.layout` says what is laid out for an expression, in order, and `Layout.place` lays it out.
The order matters for sets beyond ASCII: read backwards, the encodings of a set share their lead
bytes, which are found again through an index of limited size, and which of them are found depends
on the numbers of the states.
-/

namespace DataShape

/-- Room that has been taken: the number of states, and the bytes taken on top of them. -/
structure Room where
  states : Nat
  extra : Nat

namespace Room

/-- The number of bytes that an automaton may take. -/
def limit : Nat := 10 * Nat.pow 1024 2

/-- The number of bytes taken. -/
def size (room : Room) : Nat := 32 * room.states + room.extra

/-- The room of two parts. -/
def add (a b : Room) : Room := ⟨a.states + b.states, a.extra + b.extra⟩

/-- Takes more room, if there is as much. -/
def take (room more : Room) : Option Room :=
  if (room.add more).size ≤ limit then some (room.add more) else none

end Room

/-- What is laid out, in order. -/
inductive Layout
  | space (room : Room)
  /-- The encodings of a set, read backwards. -/
  | encodings (sequences : List Utf8.Sequence)
  | both (first second : Layout)
  | copies (count : Nat) (each : Layout)

namespace Layout

/-- A state that reads one byte: the state after it, and the bytes that it reads. -/
structure Reader where
  next : Nat
  bytes : Utf8.ByteRange
deriving DecidableEq

/-- The number of cells of the index. -/
def indexSize : Nat := 1000

/-- The cell of the index in which the state is kept. -/
def Reader.cell (reader : Reader) : Nat :=
  let mix (hash : UInt64) (n : Nat) : UInt64 := (hash ^^^ UInt64.ofNat n) * 1099511628211
  let hash := mix (mix (mix 14695981039346656037 reader.next) reader.bytes.first) reader.bytes.last
  hash.toNat % indexSize

/-- The states laid out for a set so far: the number of the next one, and the index, in which a
later state takes the place of an earlier one in the same cell. -/
structure Shelf where
  next : Nat
  index : Array (Option (Reader × Nat))

/-- The number of a state that does as the reader: one that is found in the index, or a new one. -/
def Shelf.find (shelf : Shelf) (reader : Reader) : Shelf × Nat :=
  let cell := reader.cell
  match (shelf.index[cell]?).join.filter (·.1 = reader) with
  | some (_, state) => (shelf, state)
  | none => (⟨shelf.next + 1, shelf.index.set! cell (some (reader, shelf.next))⟩, shelf.next)

/-- Lays out one sequence, the state of its first byte in front of the state `stop`. -/
def Shelf.lay (stop : Nat) (shelf : Shelf) (sequence : Utf8.Sequence) : Shelf :=
  (sequence.foldl (fun (shelf, next) bytes => shelf.find ⟨next, bytes⟩) (shelf, stop)).1

/-- The room for encodings after `states` states: a fork to all of them, the state in which they
stop, and the states between. -/
def encodingsRoom (sequences : List Utf8.Sequence) (states : Nat) : Room :=
  let shelf : Shelf := ⟨states + 2, Array.replicate indexSize none⟩
  let shelf := sequences.foldl (Shelf.lay (states + 1)) shelf
  ⟨shelf.next - states, 4 * sequences.length⟩

/-- Does a step several times, as long as it succeeds. -/
def iterate {α : Type} (step : α → Option α) : Nat → α → Option α
  | 0, a => some a
  | count + 1, a =>
    match step a with
    | some b => iterate step count b
    | none => none

/-- Lays something out in the room that is left. -/
def place : Layout → Room → Option Room
  | space more, room => room.take more
  | encodings sequences, room => room.take (encodingsRoom sequences room.states)
  | both first second, room => (first.place room).bind second.place
  | copies count each, room => iterate each.place count room

/-- One layout after the other. -/
def append : List Layout → Layout
  | [] => space ⟨0, 0⟩
  | [layout] => layout
  | layout :: more => both layout (append more)

/-- A layout from the end of which the automaton goes on: a fork takes one more branch for that. -/
def link (layout : Layout) (endsInFork : Bool) : Layout :=
  if endsInFork then both layout (space ⟨0, 4⟩) else layout

/-- Layouts from the ends of which the automaton goes on. -/
def linkAll (layouts : List Layout) (endsInFork : Bool) : List Layout :=
  if endsInFork then layouts.map (·.link true) else layouts

end Layout

/-- The direction in which an automaton reads. -/
inductive Direction
  | forwards
  | backwards
deriving DecidableEq

/-! ## Sets -/

namespace Utf8

/-- Sequences by their first range: what is left of those with the same. -/
def rests (sequences : List Sequence) : List (List Sequence) :=
  (sequences.splitBy fun s t => s.head? = t.head?).map (·.map List.tail)

/-- The tables that read, forwards, sequences of at most `depth` ranges, which stand in ascending
order. A table is known by what it has to read. -/
def tables : (depth : Nat) → List Sequence → List (List Sequence)
  | 0, _ => []
  | depth + 1, sequences =>
    sequences :: ((rests sequences).filter (·.any (!·.isEmpty))).flatMap (tables depth)

end Utf8

/-- What is laid out for a set. Within ASCII it is one table. Forwards, tables that read the same
are one table. -/
def CharSet.layout (direction : Direction) (s : CharSet) : Layout :=
  if s.ranges.all (·.2 < 0x80) then .space ⟨2, 8 * s.ranges.length⟩
  else
    let sequences := s.ranges.flatMap fun range => Utf8.sequences range.1 range.2
    match direction with
    | .backwards => .encodings sequences
    | .forwards =>
      let tables := (Utf8.tables 4 sequences).eraseDups
      .space ⟨tables.length + 1, 8 * (tables.flatMap Utf8.rests).length⟩

/-! ## Alternatives that are all texts -/

/-- The bytes that begin one of the texts. -/
def firstBytes (texts : List (List UInt8)) : List UInt8 := (texts.filterMap List.head?).eraseDups

/-- What is left of the texts that begin with the byte. -/
def restsAfter (b : UInt8) (texts : List (List UInt8)) : List (List UInt8) :=
  (texts.filter (·.head? = some b)).map List.tail

/-- The texts between those that are at their end. -/
def textsBetween : List (List UInt8) → List (List (List UInt8))
  | [] => [[]]
  | [] :: texts => [] :: textsBetween texts
  | text :: texts =>
    match textsBetween texts with
    | part :: parts => (text :: part) :: parts
    | [] => [[text]]

/-- The room for texts of at most `depth` bytes. They are read as a tree, in which a text that is at
its end divides those before it from those after it. -/
def textTree : (depth : Nat) → List (List UInt8) → Room
  | 0, _ => ⟨0, 0⟩
  | depth + 1, texts =>
    let texts :=
      match texts with
      | [] :: texts => [] :: texts.dropWhile (·.isEmpty)
      | _ => texts
    let parts := textsBetween texts
    let full := parts.filter (!·.isEmpty)
    let tables := full.map fun part =>
      let count := (firstBytes part).length
      Room.mk 1 (if count = 1 then 0 else 8 * count)
    let below := full.flatMap fun part => (firstBytes part).map fun b =>
      let rests := restsAfter b part
      if rests.all (·.isEmpty) then ⟨0, 0⟩ else textTree depth rests
    (tables ++ below).foldl Room.add ⟨1, 4 * (full.length + (parts.length - 1))⟩

/-! ## Expressions -/

namespace Regex

/-- The bytes of a text that is not empty, in the direction of reading. -/
def bytes? (direction : Direction) : Regex → Option (List UInt8)
  | text [] => none
  | text cs =>
    match direction with
    | .forwards => some (Utf8.bytes cs)
    | .backwards => some (Utf8.bytes cs).reverse
  | _ => none

/-- No match is empty, as far as the parts show. -/
def readsAlways (r : Regex) : Bool := r.leastLength?.any (0 < ·)

/-- The last state of the automaton is a fork. -/
def endsInFork (direction : Direction) : Regex → Bool
  | text _ | one _ | assertion _ | alt _ _ => false
  | seq r s => if direction = .forwards then s.endsInFork direction else r.endsInFork direction
  | times r least (some most) _ => least = most && r.endsInFork direction
  | times r least none _ => least ≠ 0 || r.readsAlways
  | group _ r => direction = .backwards && r.endsInFork direction

/-- What is laid out for a repetition, given what is laid out for the expression and for the
expression with a step from its end. -/
def timesLayout (r linked : Layout) (readsAlways : Bool) (least : Nat) : Option Nat → Layout
  | none =>
    if least ≠ 0 then .both (.copies least linked) (.space ⟨1, 4⟩)
    else if readsAlways then .both (.space ⟨1, 4⟩) linked
    else .both linked (.space ⟨3, 16⟩)
  | some most =>
    if least = most then .both (.copies (least - 1) linked) r
    else if least = 0 && most = 1 then .append [.space ⟨1, 8⟩, linked, .space ⟨1, 0⟩]
    else .append [if least = 0 then .space ⟨1, 0⟩ else .copies least linked, .space ⟨1, 0⟩,
      .copies (most - least) (.both (.space ⟨1, 8⟩) linked)]

/-- What is laid out for an expression, given what is laid out for its alternatives. The fork to
them and the state in which they meet come after the first two. -/
def ofAlternatives (direction : Direction) (r : Regex) (layouts : List Layout) : Layout :=
  match layouts, r.branches.mapM (bytes? direction) with
  | first :: second :: more, none =>
    .append (first :: second :: .space ⟨2, 4 * layouts.length⟩ :: more)
  | _ :: _ :: _, some texts =>
    .space ((textTree ((texts.map List.length).foldl max 0) texts).add ⟨1, 0⟩)
  | _, _ => .append layouts

/-- What is laid out for the alternatives. -/
def alternativeLayouts (direction : Direction) : Regex → List Layout
  | text cs => [.space ⟨max 1 (Utf8.bytes cs).length, 0⟩]
  | one s => [s.layout direction]
  | assertion _ => [.space ⟨1, 0⟩]
  | alt r s =>
    Layout.linkAll (r.alternativeLayouts direction) (r.endsInFork direction) ++
      Layout.linkAll (s.alternativeLayouts direction) (s.endsInFork direction)
  | seq r s =>
    let first := ofAlternatives direction r (r.alternativeLayouts direction)
    let second := ofAlternatives direction s (s.alternativeLayouts direction)
    match direction with
    | .forwards => [.both (first.link (r.endsInFork direction)) second]
    | .backwards => [.both (second.link (s.endsInFork direction)) first]
  | times r least most? _ =>
    let inner := ofAlternatives direction r (r.alternativeLayouts direction)
    [timesLayout inner (inner.link (r.endsInFork direction)) r.readsAlways least most?]
  | group _ r =>
    let inner := ofAlternatives direction r (r.alternativeLayouts direction)
    match direction with
    | .forwards => [.both (.space ⟨2, 0⟩) (inner.link (r.endsInFork direction))]
    | .backwards => [inner]

/-- What is laid out for an expression. -/
def layout (direction : Direction) (r : Regex) : Layout :=
  ofAlternatives direction r (r.alternativeLayouts direction)

/-- What is laid out for an automaton. Unless the expression is bound to the end from which the
automaton reads, the automaton may skip bytes first. Forwards, the whole match is kept as a
group. -/
def automaton (direction : Direction) (r : Regex) : Layout :=
  let bound := if direction = .forwards then r.atTextStart else r.atTextEnd
  let whole := group 0 r
  .append [.space (if bound then ⟨1, 0⟩ else ⟨3, 16⟩),
    (whole.layout direction).link (whole.endsInFork direction), .space ⟨1, 0⟩]

/-- Both automata fit in the room there is. -/
def fits (r : Regex) : Bool :=
  ((r.automaton .forwards).place ⟨0, 0⟩).isSome && ((r.automaton .backwards).place ⟨0, 0⟩).isSome

end Regex

end DataShape
