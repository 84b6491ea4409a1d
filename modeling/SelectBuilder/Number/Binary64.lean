import SelectBuilder.Number.Numeral
import SelectBuilder.Text.Blank

/-! # Binary floating point numbers

Numbers `significand * 2 ^ exponent` of 53 bits, the infinities and the one undefined number.
A numeral is read as the nearest such number, a tie going to the even significand. Powers are
written by name, since what `^` stands for depends on the algebra that is in scope.
-/

namespace SelectBuilder

/-- A finite number has `2 ^ 52 ≤ significand < 2 ^ 53`, or a smaller significand and the least
exponent, which is -1074. -/
inductive Binary64 where
  | finite (negative : Bool) (significand : Nat) (exponent : Int)
  | infinite (negative : Bool)
  | nan
deriving DecidableEq, Repr, Inhabited

namespace Binary64

def isFinite : Binary64 → Bool
  | .finite .. => true
  | _ => false

def zero (negative : Bool) : Binary64 := .finite negative 0 (-1074)

/-- The quotient rounded to the nearest integer, a tie to the even one. -/
def divNearest (num den : Nat) : Nat :=
  let q := num / den
  match compare (2 * (num % den)) den with
  | .lt => q
  | .gt => q + 1
  | .eq => if q % 2 = 0 then q else q + 1

/-- The greatest `e` with `2 ^ e ≤ num / den`. -/
def log2Ratio (num den : Nat) : Int :=
  let e : Int := num.log2 - den.log2
  if num * Nat.pow 2 (-e).toNat < den * Nat.pow 2 e.toNat then e - 1 else e

/-- The number nearest to a positive ratio. -/
def ofRatio (negative : Bool) (num den : Nat) : Binary64 :=
  let q := max (log2Ratio num den - 52) (-1074)
  let m := divNearest (num * Nat.pow 2 (-q).toNat) (den * Nat.pow 2 q.toNat)
  let (m, q) := if m = Nat.pow 2 53 then (Nat.pow 2 52, q + 1) else (m, q)
  if 971 < q then .infinite negative else .finite negative m q

/-- The number nearest to `coefficient * 10 ^ scale`. Beyond 310 places on the left every number
is infinite, and beyond 330 on the right every number is zero. -/
def ofScaled (negative : Bool) (coefficient : Nat) (scale : Int) : Binary64 :=
  let places := scale + (Nat.toDigits 10 coefficient).length
  if coefficient = 0 || places < -330 then zero negative
  else if 310 < places then .infinite negative
  else ofRatio negative (coefficient * Nat.pow 10 scale.toNat) (Nat.pow 10 (-scale).toNat)

/-- Read a number; blanks around it do not count. -/
def ofText? (s : String) : Option Binary64 :=
  let s := Numeral.joinDigits (Text.trim s.toList)
  match Numeral.read? s with
  | some n => some (ofScaled n.negative n.coefficient n.scale)
  | none =>
    let (negative, s) := Numeral.splitSign s
    let s := s.map Char.toLower
    if s = "inf".toList || s = "infinity".toList then some (.infinite negative)
    else if s = "nan".toList then some .nan
    else none

end Binary64

end SelectBuilder
