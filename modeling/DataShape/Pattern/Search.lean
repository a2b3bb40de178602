import DataShape.Pattern.Expression
import DataShape.Pattern.Rounds

/-!
# Searching a text

A text is searched in one pass. `Marks r` says what has been read of the expression `r`: which of
its characters may have been the last one read. `leaves` says whether a match can end at a place,
`advance` moves the marks over the next character, and both go through the expression once, so the
pass takes time in proportion to the text and to the part of the expression that is in use.

An expression is entered at every place of the text, so `search` finds a match wherever it is.
-/

namespace DataShape

/-- A place in a text: the characters before and after it, if there are any. -/
structure Place where
  before? : Option Char
  after? : Option Char

/-- The condition holds at the place. -/
def Assertion.holds (a : Assertion) (p : Place) : Bool :=
  let inWord (c? : Option Char) := c?.any isWordChar
  match a with
  | textStart => p.before?.isNone
  | textEnd => p.after?.isNone
  | lineStart => p.before?.all (· == '\n')
  | lineEnd => p.after?.all (· == '\n')
  | wordBoundary => inWord p.before? != inWord p.after?
  | notWordBoundary => inWord p.before? == inWord p.after?
  | wordStart => !inWord p.before? && inWord p.after?
  | wordEnd => inWord p.before? && !inWord p.after?

namespace Regex

/-- What has been read of an expression. Of a text it is what is left of it, for every place at
which it was entered; of a set, whether the last character was read by it; of a repetition, the
rounds under way. -/
def Marks : Regex → Type
  | text _ => List (List Char)
  | one _ => Bool
  | assertion _ => Unit
  | seq r s => Marks r × Marks s
  | alt r s => Marks r × Marks s
  | times r _ _ _ => Rounds (Marks r)
  | group _ r => Marks r

/-- Nothing has been read. -/
def unread : (r : Regex) → Marks r
  | text _ => ([] : List (List Char))
  | one _ => false
  | assertion _ => ()
  | seq r s => (unread r, unread s)
  | alt r s => (unread r, unread s)
  | times _ _ _ _ => #[]
  | group _ r => unread r

/-- Nothing has been read. -/
def isIdle : (r : Regex) → Marks r → Bool
  | text _, (left : List (List Char)) => left.isEmpty
  | one _, (marked : Bool) => !marked
  | assertion _, _ => true
  | seq r s, (m, n) => isIdle r m && isIdle s n
  | alt r s, (m, n) => isIdle r m && isIdle s n
  | times _ _ _ _, (rounds : Array _) => rounds.isEmpty
  | group _ r, m => isIdle r m

/-- The rounds that a repetition goes through. -/
def repetition (least : Nat) : Option Nat → Repetition
  | some most => ⟨least, most, false⟩
  | none => ⟨least, max least 1, true⟩

/-- The expression can end at the place, given whether it is entered there. -/
def leaves (p : Place) : (r : Regex) → Bool → Marks r → Bool
  | text cs, enters, (left : List (List Char)) => (enters && cs.isEmpty) || left.any (·.isEmpty)
  | one _, _, (marked : Bool) => marked
  | assertion a, enters, _ => enters && a.holds p
  | seq r s, enters, (m, n) => leaves p s (leaves p r enters m) n
  | alt r s, enters, (m, n) => leaves p r enters m || leaves p s enters n
  | times r least most? _, enters, rounds =>
    Rounds.leaves (repetition least most?) (unread r) (leaves p r) enters rounds
  | group _ r, enters, m => leaves p r enters m

/-- The marks after the character `c`, which stands after the place, given whether the expression is
entered at the place. -/
def advance (p : Place) (c : Char) : (r : Regex) → Bool → Marks r → Marks r
  | text cs, enters, (left : List (List Char)) =>
    (if enters then cs :: left else left).filterMap fun
      | d :: ds => if d = c then some ds else none
      | [] => none
  | one s, enters, _ => enters && s.contains c
  | assertion _, _, _ => ()
  | seq r s, enters, (m, n) => (advance p c r enters m, advance p c s (leaves p r enters m) n)
  | alt r s, enters, (m, n) => (advance p c r enters m, advance p c s enters n)
  | times r least most? _, enters, rounds =>
    Rounds.advance (repetition least most?) ⟨unread r, isIdle r, leaves p r, advance p c r⟩ enters
      rounds
  | group _ r, enters, m => advance p c r enters m

/-- The expression, of which the marks have been read, matches a stretch that ends at some later
place of the text. -/
def searchFrom (r : Regex) (before? : Option Char) (marks : Marks r) : List Char → Bool
  | [] => leaves ⟨before?, none⟩ r true marks
  | c :: cs =>
    let place : Place := ⟨before?, some c⟩
    leaves place r true marks || searchFrom r (some c) (advance place c r true marks) cs

/-- The expression matches some stretch of the text. -/
def search (r : Regex) (text : List Char) : Bool := searchFrom r none r.unread text

end Regex

end DataShape
