/-!
# Rounds of a repetition

A repetition goes through rounds of one expression. Several rounds can be under way at once, since a
text may be read in several ways. They are kept as stretches, runs of rounds in the same state, and
rounds in which nothing has been read are left out. So the work at a place of the text grows with
the number of stretches, and not with the number of rounds.

A round may be entered at a place or not. Being entered never keeps a round from ending there, so
the rounds of a stretch are all entered alike, the first one perhaps apart.
-/

namespace DataShape

/-- A repetition of `total` rounds, of which all after the first `least` may be left out. If it is
open, the last round can be repeated without end. -/
structure Repetition where
  least : Nat
  total : Nat
  isOpen : Bool

/-- What can be done with one round at a place of the text. A round may be entered there, from the
round before it or from the start of the repetition, or not. -/
structure RoundRules (α : Type) where
  /-- The round in which nothing has been read. -/
  unread : α
  /-- Nothing has been read in the round. -/
  isIdle : α → Bool
  /-- The round can end at the place, given whether it is entered there. -/
  leaves : Bool → α → Bool
  /-- The round after the next character, given whether it is entered before that. -/
  advance : Bool → α → α

/-- Rounds in the same state, one after the other. -/
structure Stretch (α : Type) where
  first : Nat
  count : Nat
  state : α

/-- The stretches of rounds in which something has been read, in ascending order. -/
abbrev Rounds (α : Type) := Array (Stretch α)

namespace Rounds

variable {α : Type}

/-- How far a pass over the rounds has come: the next round, whether it is entered, and whether the
repetition can end before it. -/
structure Leaving where
  next : Nat
  enters : Bool
  leaves : Bool

/-- Goes through rounds in the same state, given whether the one after them is entered. -/
def Leaving.skip (st : Leaving) (rep : Repetition) (count : Nat) (left : Bool) : Leaving :=
  { next := st.next + count, enters := left,
    leaves := st.leaves || (left && rep.least ≤ st.next + count) }

/-- Goes through rounds in the same state, which end as `ends` says. -/
def Leaving.through (st : Leaving) (rep : Repetition) (count : Nat) (ends : Bool → Bool) :
    Leaving :=
  if count = 0 then st
  else
    let st := st.skip rep 1 (ends st.enters)
    if count = 1 then st else st.skip rep (count - 1) (ends st.enters)

/-- The repetition can end at the place, given whether it is entered there and how one of its rounds
can end. -/
def leaves (rep : Repetition) (unread : α) (ends : Bool → α → Bool) (enters : Bool)
    (rounds : Rounds α) : Bool :=
  let start : Leaving := { next := 0, enters, leaves := enters && rep.least == 0 }
  let idle (st : Leaving) (k : Nat) := st.through rep (k - st.next) fun e => e && ends true unread
  let stop := rounds.foldl
    (fun st m => (idle st m.first).through rep m.count (ends · m.state)) start
  (idle stop rep.total).leaves

/-- How far a pass over the rounds has come: the next round, whether it is entered, and what the
rounds before it are after the next character. -/
structure Advancing (α : Type) where
  next : Nat
  enters : Bool
  rounds : Rounds α

/-- Adds rounds, unless nothing has been read in them. -/
def add (rules : RoundRules α) (rounds : Rounds α) (first count : Nat) (m : α) : Rounds α :=
  if rules.isIdle m then rounds else rounds.push ⟨first, count, m⟩

/-- Goes through rounds in the same state that are all entered alike, given whether they end. The
last round of an open repetition is entered again where it ends. -/
def Advancing.skip (st : Advancing α) (rep : Repetition) (rules : RoundRules α) (count : Nat)
    (m : α) (left : Bool) : Advancing α :=
  let next := st.next + count
  let again := rep.isOpen && left && !st.enters && next == rep.total
  let alike := if again then count - 1 else count
  let rounds :=
    if alike = 0 then st.rounds
    else add rules st.rounds st.next alike (rules.advance st.enters m)
  { next, enters := left,
    rounds := if again then add rules rounds (next - 1) 1 (rules.advance true m) else rounds }

/-- Goes through rounds in the same state. -/
def Advancing.through (st : Advancing α) (rep : Repetition) (rules : RoundRules α) (count : Nat)
    (m : α) : Advancing α :=
  if count = 0 then st
  else
    let left := rules.leaves st.enters m
    if count = 1 || left = st.enters then st.skip rep rules count m left
    else
      let st := st.skip rep rules 1 m left
      st.skip rep rules (count - 1) m (rules.leaves st.enters m)

/-- Goes on to a later round through rounds in which nothing has been read. -/
def Advancing.goTo (st : Advancing α) (rep : Repetition) (rules : RoundRules α) (k : Nat) :
    Advancing α :=
  if st.enters then st.through rep rules (k - st.next) rules.unread else { st with next := k }

/-- The rounds after the next character, given whether the repetition is entered before that. -/
def advance (rep : Repetition) (rules : RoundRules α) (enters : Bool) (rounds : Rounds α) :
    Rounds α :=
  let start : Advancing α := { next := 0, enters, rounds := #[] }
  let stop := rounds.foldl
    (fun st m => (st.goTo rep rules m.first).through rep rules m.count m.state) start
  (stop.goTo rep rules rep.total).rounds

end Rounds

end DataShape
