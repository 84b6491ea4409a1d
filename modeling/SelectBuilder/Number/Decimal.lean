import SelectBuilder.Number.Numeral
import SelectBuilder.Text.Blank

/-! # Decimal numbers

Exact decimals that keep the digits and the exponent they were written with, so `10.50` and
`10.5` are equal in value and differ in text. The text is positional down to the sixth place
after the point and scientific where the exponent is positive or the leading digit lies further
to the right.
-/

namespace SelectBuilder

/-- The number `coefficient * 10 ^ exponent` with a sign, or one of the special values. -/
inductive Decimal where
  | finite (negative : Bool) (coefficient : Nat) (exponent : Int)
  | infinite (negative : Bool)
  | nan (negative : Bool) (signaling : Bool) (payload : List Char)
deriving DecidableEq, Repr, Inhabited

namespace Decimal

def isFinite : Decimal → Bool
  | .finite .. => true
  | _ => false

def signed (negative : Bool) (s : List Char) : List Char :=
  if negative then '-' :: s else s

/-- Digits with a point after the first `point` of them; zeros fill up on either side. -/
def positional (digits : List Char) (point : Int) : List Char :=
  if point ≤ 0 then '0' :: '.' :: List.replicate (-point).toNat '0' ++ digits
  else if digits.length ≤ point then
    digits ++ List.replicate (point.toNat - digits.length) '0'
  else digits.take point.toNat ++ '.' :: digits.drop point.toNat

/-- An exponent is written with its sign. -/
def exponentMark (e : Int) : List Char :=
  'E' :: (if e < 0 then '-' else '+') :: Nat.toDigits 10 e.natAbs

/-- The digits and their exponent in text. The leading digit stands `point` places before the
point. -/
def magnitudeText (coefficient : Nat) (exponent : Int) : List Char :=
  let digits := Nat.toDigits 10 coefficient
  let point := exponent + digits.length
  if exponent ≤ 0 ∧ -6 < point then positional digits point
  else positional digits 1 ++ exponentMark (point - 1)

def chars : Decimal → List Char
  | .finite negative coefficient exponent => signed negative (magnitudeText coefficient exponent)
  | .infinite negative => signed negative "Infinity".toList
  | .nan negative signaling payload =>
    signed negative ((if signaling then "sNaN" else "NaN").toList ++ payload)

def text (d : Decimal) : String := String.ofList d.chars

def ofNumeral (n : Numeral) : Decimal := .finite n.negative n.coefficient n.scale

def afterWord? (word s : List Char) : Option (List Char) :=
  if word.isPrefixOf s then some (s.drop word.length) else none

/-- Read a special value, its letters being in lower case and its sign already taken off. -/
def special? (negative : Bool) (s : List Char) : Option Decimal :=
  if s = "inf".toList || s = "infinity".toList then some (.infinite negative)
  else if let some payload := afterWord? "nan".toList s then
    if payload.all Text.isDecimalDigit then
      some (.nan negative false (payload.dropWhile (· = '0')))
    else none
  else if let some payload := afterWord? "snan".toList s then
    if payload.all Text.isDecimalDigit then
      some (.nan negative true (payload.dropWhile (· = '0')))
    else none
  else none

/-- Read a decimal; blanks around it and underscores in it do not count. -/
def ofText? (s : String) : Option Decimal :=
  let s := (Text.trim s.toList).filter (· ≠ '_')
  match Numeral.read? s with
  | some n => some (ofNumeral n)
  | none =>
    let (negative, s) := Numeral.splitSign s
    special? negative (s.map Char.toLower)

end Decimal

end SelectBuilder
