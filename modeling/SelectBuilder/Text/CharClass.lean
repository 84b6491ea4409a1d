/-! # Sets of characters

A `CharClass` is given by closed ranges of code points, the form in which the character
properties of Unicode are published. The tables of this library follow version 14.
-/

namespace SelectBuilder.Text

/-- A set of characters, as closed ranges of code points. -/
structure CharClass where
  ranges : List (Nat × Nat)

namespace CharClass

def has (s : CharClass) (c : Char) : Bool :=
  s.ranges.any fun r => r.1 ≤ c.toNat && c.toNat ≤ r.2

/-- The first code point of the range that holds a character. -/
def rangeStart? (s : CharClass) (c : Char) : Option Nat :=
  (s.ranges.find? fun r => r.1 ≤ c.toNat && c.toNat ≤ r.2).map (·.1)

end CharClass

end SelectBuilder.Text
