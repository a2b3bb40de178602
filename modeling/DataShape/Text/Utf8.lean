/-!
# Encoded ranges of characters

A character is encoded as one to four bytes: a lead byte, which says how many more follow, and
continuation bytes of six bits each. The encodings of a range of code points are not a range of byte
strings, but they are few sequences of byte ranges, each of which stands for all strings that take
one byte from every range of the sequence. `Utf8.sequences` lists them in ascending order.
-/

namespace DataShape.Utf8

/-- A range of bytes, both ends included. -/
structure ByteRange where
  first : Nat
  last : Nat
deriving DecidableEq

/-- Ranges that encoded characters take their bytes from, one after the other. -/
abbrev Sequence := List ByteRange

/-- The sequences for the numbers from `first` to `last`, written as a byte above `base` and `more`
continuation bytes. A byte whose continuation is not complete stands in a sequence of its own. -/
def split (base : Nat) : (more first last : Nat) → List Sequence
  | 0, first, last => [[⟨base + first, base + last⟩]]
  | more + 1, first, last =>
    let unit := Nat.pow 64 (more + 1)
    let under (byte first last : Nat) : List Sequence :=
      (split 0x80 more first last).map (⟨base + byte, base + byte⟩ :: ·)
    let low := first / unit
    let high := last / unit
    if low = high then under low (first % unit) (last % unit)
    else
      let start := (first + unit - 1) / unit
      let stop := (last + 1) / unit
      (if low < start then under low (first % unit) (unit - 1) else []) ++
        (if start < stop then
          [⟨base + start, base + stop - 1⟩ :: List.replicate (more + 1) ⟨0x80, 0xBF⟩] else []) ++
        (if stop = high then under high 0 (last % unit) else [])

/-- The code points that are encoded in one way, with the base of the lead byte and the number of
continuation bytes. No character has a code point between the third and the fourth. -/
def forms : List (Nat × Nat × Nat × Nat) := [
  (0, 0x7F, 0, 0), (0x80, 0x7FF, 0xC0, 1), (0x800, 0xD7FF, 0xE0, 2), (0xE000, 0xFFFF, 0xE0, 2),
  (0x10000, 0x10FFFF, 0xF0, 3)]

/-- The sequences for the characters from one code point to another. -/
def sequences (first last : Nat) : List Sequence :=
  forms.flatMap fun (low, high, base, more) =>
    if max first low ≤ min last high then split base more (max first low) (min last high) else []

/-- The bytes of a text. -/
def bytes (text : List Char) : List UInt8 := text.flatMap String.utf8EncodeChar

end DataShape.Utf8
