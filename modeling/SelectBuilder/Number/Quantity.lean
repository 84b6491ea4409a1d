import SelectBuilder.Number.Binary64
import SelectBuilder.Number.Decimal

/-! # Quantities

What numbers of every kind have in common is their value, however it is written. A finite value is
kept as a decimal whose coefficient does not end in a zero, so two numbers are equal in value just
when their quantities are, and no power of ten has to be worked out to see it.
-/

namespace SelectBuilder

/-- The number `coefficient * 10 ^ exponent`, or one beyond all of these. -/
inductive Quantity where
  | finite (coefficient exponent : Int)
  | infinite (negative : Bool)
deriving DecidableEq, Repr, Inhabited

namespace Quantity

/-- Move the zeros at the end of a coefficient into the exponent. -/
def reduce (coefficient : Nat) (exponent : Int) : Nat × Int :=
  if coefficient = 0 then (0, 0)
  else if coefficient % 10 = 0 then reduce (coefficient / 10) (exponent + 1)
  else (coefficient, exponent)
termination_by coefficient

def ofScaled (negative : Bool) (coefficient : Nat) (exponent : Int) : Quantity :=
  let (c, e) := reduce coefficient exponent
  .finite (if negative then -c else c) e

def ofInt (n : Int) : Quantity := ofScaled (n < 0) n.natAbs 0

/-- The value as an integer, if it is one. -/
def toInt? : Quantity → Option Int
  | .finite c e => if 0 ≤ e then some (c * Nat.pow 10 e.toNat) else none
  | .infinite _ => none

/-- Compare two magnitudes by the places of their first digits, and then by their digits. -/
def compareMagnitudes (c : Nat) (e : Int) (c' : Nat) (e' : Int) : Ordering :=
  if c = 0 ∨ c' = 0 then compare c c'
  else
    (compare (e + (Nat.toDigits 10 c).length) (e' + (Nat.toDigits 10 c').length)).then
      (compare (c * Nat.pow 10 (e - e').toNat) (c' * Nat.pow 10 (e' - e).toNat))

def isLess : Quantity → Quantity → Bool
  | .infinite a, .infinite b => a && !b
  | .infinite a, .finite .. => a
  | .finite .., .infinite b => !b
  | .finite c e, .finite c' e' =>
    if c < 0 then 0 ≤ c' || compareMagnitudes c'.natAbs e' c.natAbs e = .lt
    else 0 < c' && compareMagnitudes c.natAbs e c'.natAbs e' = .lt

end Quantity

/-- The value of a number; half of something is five tenths of it, so every binary fraction is a
decimal. -/
def Binary64.quantity? : Binary64 → Option Quantity
  | .finite negative m q =>
    some (.ofScaled negative (m * Nat.pow 2 q.toNat * Nat.pow 5 (-q).toNat) (min q 0))
  | .infinite negative => some (.infinite negative)
  | .nan => none

def Decimal.quantity? : Decimal → Option Quantity
  | .finite negative coefficient exponent => some (.ofScaled negative coefficient exponent)
  | .infinite negative => some (.infinite negative)
  | .nan .. => none

/-- The binary number nearest to a decimal. -/
def Binary64.ofDecimal : Decimal → Binary64
  | .finite negative coefficient exponent => .ofScaled negative coefficient exponent
  | .infinite negative => .infinite negative
  | .nan .. => .nan

end SelectBuilder
