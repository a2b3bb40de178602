import DataShape.Pattern.Expression

/-!
# The symbols of a pattern

A backslash gives the character after it another meaning, and the meaning is the same everywhere in
a pattern. `Symbol.ofText` resolves all backslashes in one pass: what is left for the grammar are
plain characters, which it may treat as operators, and resolved symbols, which it may not.
-/

namespace DataShape

/-- Why a text is not a pattern. -/
inductive PatternError
  | trailingBackslash
  | unknownEscape (c : Char)
  | backreference
  | unknownProperty
  | malformedCode
  | noSuchCharacter (code : Nat)
  | unopenedGroup
  | unclosedGroup
  | malformedGroup
  | groupNameTaken (name : String)
  | malformedFlags
  | nothingToRepeat
  | malformedCount
  | unclosedSet
  | reversedRange
  | notInSet
  | tooDeep
  | tooLarge
deriving DecidableEq

/-- A symbol of a pattern. -/
inductive Symbol
  /-- A character as it stands. -/
  | plain (c : Char)
  /-- A character that stands for itself. -/
  | literal (c : Char)
  | set (s : CharSet)
  | assertion (a : Assertion)

namespace Symbol

/-- How much of a backslash sequence has been read. -/
inductive Pending
  | nothing
  | backslash
  /-- A letter that a code of `digits` digits or a code in braces follows. -/
  | code (digits : Nat)
  /-- A code of which `left` digits are to come. -/
  | digits (left value : Nat)
  /-- A code in braces; `seen` as soon as it has a digit. -/
  | braces (seen : Bool) (value : Nat)

/-- The value of a hexadecimal digit. -/
def hexDigit? (c : Char) : Option Nat :=
  if '0' ≤ c && c ≤ '9' then some (c.toNat - '0'.toNat)
  else if 'a' ≤ c && c ≤ 'f' then some (c.toNat - 'a'.toNat + 10)
  else if 'A' ≤ c && c ≤ 'F' then some (c.toNat - 'A'.toNat + 10)
  else none

/-- The literal character with the given code point. -/
def ofCode (code : Nat) : Except PatternError Symbol :=
  if code.isValidChar then .ok (literal (Char.ofNat code)) else .error (.noSuchCharacter code)

/-- A letter that stands for a class of characters, an upper-case one for its complement. -/
def setOf? : Char → Option CharSet
  | 'd' => some .digit
  | 's' => some .blank
  | 'w' => some .word
  | 'D' => some CharSet.digit.complement
  | 'S' => some CharSet.blank.complement
  | 'W' => some CharSet.word.complement
  | _ => none

/-- A character that stands for an assertion. -/
def assertionOf? : Char → Option Assertion
  | 'A' => some .textStart
  | 'z' => some .textEnd
  | 'b' => some .wordBoundary
  | 'B' => some .notWordBoundary
  | '<' => some .wordStart
  | '>' => some .wordEnd
  | _ => none

/-- A letter that stands for a control character. -/
def controlOf? : Char → Option Char
  | 'a' => some '\x07'
  | 'f' => some '\x0c'
  | 'n' => some '\n'
  | 'r' => some '\r'
  | 't' => some '\t'
  | 'v' => some '\x0b'
  | _ => none

/-- What a character after a backslash stands for, code points and properties left out. Any ASCII
character other than a letter or a digit stands for itself. -/
def escaped (c : Char) : Except PatternError Symbol :=
  match setOf? c, assertionOf? c, controlOf? c with
  | some s, _, _ => .ok (set s)
  | _, some a, _ => .ok (assertion a)
  | _, _, some d => .ok (literal d)
  | none, none, none =>
    if c.isDigit then .error .backreference
    else if c = 'p' || c = 'P' then .error .unknownProperty
    else if c.toNat < 128 && !c.isAlpha then .ok (literal c)
    else .error (.unknownEscape c)

/-- Reads one more character: what is pending then, and the symbol that it completes. -/
def read (c : Char) : Pending → Except PatternError (Pending × Option Symbol)
  | .nothing => .ok (if c = '\\' then (.backslash, none) else (.nothing, some (plain c)))
  | .backslash =>
    match c with
    | 'x' => .ok (.code 2, none)
    | 'u' => .ok (.code 4, none)
    | 'U' => .ok (.code 8, none)
    | _ => do return (.nothing, some (← escaped c))
  | .code n =>
    if c = '\x7b' then .ok (.braces false 0, none)
    else match hexDigit? c with
      | some d => .ok (.digits (n - 1) d, none)
      | none => .error .malformedCode
  | .digits left value =>
    match hexDigit? c with
    | none => .error .malformedCode
    | some d =>
      let value := 16 * value + d
      if left ≤ 1 then do return (.nothing, some (← ofCode value))
      else .ok (.digits (left - 1) value, none)
  | .braces seen value =>
    if c = '\x7d' then
      if seen then do return (.nothing, some (← ofCode value)) else .error .malformedCode
    else match hexDigit? c with
      | some d => .ok (.braces true (16 * value + d), none)
      | none => .error .malformedCode

/-- The symbols of a text, read with something pending. -/
def ofPending : Pending → List Char → Except PatternError (List Symbol)
  | .nothing, [] => .ok []
  | _, [] => .error .trailingBackslash
  | pending, c :: cs => do
    let (pending, symbol?) ← read c pending
    let rest ← ofPending pending cs
    return symbol?.toList ++ rest

/-- The symbols of a text. -/
def ofText (text : List Char) : Except PatternError (List Symbol) := ofPending .nothing text

end Symbol

end DataShape
