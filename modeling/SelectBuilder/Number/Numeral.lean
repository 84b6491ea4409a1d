import SelectBuilder.Text.DecimalDigit

/-! # Numerals

The written form of a decimal number: an optional sign, digits with an optional point among,
before or after them, and an optional exponent. Digits of any script are taken.
-/

namespace SelectBuilder

open Text

structure Numeral where
  negative : Bool
  whole : List Char
  fraction : List Char
  exponent : Int

namespace Numeral

/-- Take the underscores out of a text in which each stands between two digits. -/
def joinDigits : List Char → List Char
  | a :: '_' :: b :: s =>
    if isDecimalDigit a && isDecimalDigit b then a :: joinDigits (b :: s)
    else a :: '_' :: joinDigits (b :: s)
  | c :: s => c :: joinDigits s
  | [] => []

/-- The number that a run of digits stands for. -/
def digitsValue (s : List Char) : Nat :=
  s.foldl (fun n c => 10 * n + (digitValue? c).getD 0) 0

/-- The sign in front, true for minus, and what follows it. -/
def splitSign : List Char → Bool × List Char
  | '-' :: s => (true, s)
  | '+' :: s => (false, s)
  | s => (false, s)

def splitDigits (s : List Char) : List Char × List Char :=
  (s.takeWhile isDecimalDigit, s.dropWhile isDecimalDigit)

/-- The digits after a point, if there is a point. -/
def splitFraction : List Char → List Char × List Char
  | '.' :: s => splitDigits s
  | s => ([], s)

/-- The exponent that makes up the whole of a text; an empty text is the exponent zero. -/
def exponent? : List Char → Option Int
  | [] => some 0
  | c :: s =>
    if c = 'e' || c = 'E' then
      let (negative, s) := splitSign s
      if s ≠ [] && s.all isDecimalDigit then
        some (if negative then -(digitsValue s) else digitsValue s)
      else none
    else none

/-- Read a numeral that makes up the whole of a text. -/
def read? (s : List Char) : Option Numeral :=
  let (negative, s) := splitSign s
  let (whole, s) := splitDigits s
  let (fraction, s) := splitFraction s
  if whole = [] && fraction = [] then none
  else (exponent? s).map fun exponent => { negative, whole, fraction, exponent }

/-- The numeral is `coefficient * 10 ^ scale`, up to its sign. -/
def coefficient (n : Numeral) : Nat := digitsValue (n.whole ++ n.fraction)

def scale (n : Numeral) : Int := n.exponent - n.fraction.length

end Numeral

end SelectBuilder
