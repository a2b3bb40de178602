/-!
# Ranges of machine words

The integers that a word of a given number of bits can hold, as the least and the greatest of them.
-/

namespace DataShape

/-- The range of a signed word in two's complement. -/
def signedRange (bits : Nat) : Int × Int :=
  (-(Nat.pow 2 (bits - 1) : Int), (Nat.pow 2 (bits - 1) : Int) - 1)

/-- The range of an unsigned word. -/
def unsignedRange (bits : Nat) : Int × Int := (0, (Nat.pow 2 bits : Int) - 1)

end DataShape
