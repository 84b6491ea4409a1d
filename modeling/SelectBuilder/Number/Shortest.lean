import SelectBuilder.Number.Binary64

/-! # The text of a binary floating point number

The fewest decimal digits that read back as the number, and among those the nearest to it. They
are written positionally, with at least one place after the point, when the leading digit has an
exponent from -4 to 15, and otherwise with a signed exponent of at least two digits.
-/

namespace SelectBuilder.Binary64

/-- A positive number `m * 2 ^ q` as a ratio. -/
structure Ratio where
  num : Nat
  den : Nat

/-- The numbers that read back as a given one: the ends `low / den` and `high / den` lie halfway
to its neighbours, and belong to it if `closed`. -/
structure Interval where
  low : Nat
  high : Nat
  den : Nat
  closed : Bool

def ratio (m : Nat) (q : Int) : Ratio := ⟨m * Nat.pow 2 q.toNat, Nat.pow 2 (-q).toNat⟩

/-- Just below a power of two the numbers lie twice as close as above it. -/
def interval (m : Nat) (q : Int) : Interval where
  low := (if m = Nat.pow 2 52 ∧ -1074 < q then 4 * m - 1 else 4 * m - 2) * Nat.pow 2 q.toNat
  high := (4 * m + 2) * Nat.pow 2 q.toNat
  den := 4 * Nat.pow 2 (-q).toNat
  closed := m % 2 = 0

/-- Whether `digits * 10 ^ e` lies in the interval. -/
def Interval.has (i : Interval) (digits : Nat) (e : Int) : Bool :=
  let value := digits * Nat.pow 10 e.toNat * i.den
  let low := i.low * Nat.pow 10 (-e).toNat
  let high := i.high * Nat.pow 10 (-e).toNat
  (low < value && value < high) || (i.closed && (value = low || value = high))

/-- The least `k` with the ratio below `10 ^ k`. -/
def Ratio.places (r : Ratio) : Int :=
  if r.den ≤ r.num then (Nat.toDigits 10 (r.num / r.den)).length
  else
    let k := (Nat.toDigits 10 (r.den / r.num)).length - 1
    if r.num * Nat.pow 10 k < r.den then -k else 1 - k

/-- The multiple of `10 ^ e` in the interval that is nearest to the ratio, if one of its two
neighbours among them is in the interval at all. A tie goes to the even multiple. -/
def candidate? (r : Ratio) (i : Interval) (e : Int) : Option Nat :=
  let num := r.num * Nat.pow 10 (-e).toNat
  let den := r.den * Nat.pow 10 e.toNat
  let below := num / den
  match i.has below e, i.has (below + 1) e with
  | false, false => none
  | true, false => some below
  | false, true => some (below + 1)
  | true, true =>
    match compare (2 * num) ((2 * below + 1) * den) with
    | .lt => some below
    | .gt => some (below + 1)
    | .eq => some (if below % 2 = 0 then below else below + 1)

/-- Try one digit, then two, and so on; seventeen always suffice. -/
def search (r : Ratio) (i : Interval) (places : Int) : Nat → Nat × Int
  | 0 => ((candidate? r i (places - 17)).getD 0, places - 17)
  | fuel + 1 =>
    let e := places - (17 - fuel)
    match candidate? r i e with
    | some digits => (digits, e)
    | none => search r i places fuel

/-- Digits without the zeros at their end, and the exponent that makes up for them. -/
def dropZeros : List Char → Int → List Char × Int
  | digits, e =>
    let kept := (digits.reverse.dropWhile (· = '0')).reverse
    (kept, e + (digits.length - kept.length : Nat))

/-- The shortest digits of a positive number, and the place of the point counted from their
front. -/
def shortest (m : Nat) (q : Int) : List Char × Int :=
  let r := ratio m q
  let (digits, e) := search r (interval m q) r.places 17
  let (digits, e) := dropZeros (Nat.toDigits 10 digits) e
  (digits, e + digits.length)

def twoDigits (n : Nat) : List Char :=
  if n < 10 then '0' :: Nat.toDigits 10 n else Nat.toDigits 10 n

/-- Lay out digits whose point stands `point` places from their front. -/
def layout (digits : List Char) (point : Int) : List Char :=
  if -4 < point ∧ point ≤ 0 then
    '0' :: '.' :: List.replicate (-point).toNat '0' ++ digits
  else if 0 < point ∧ point ≤ 16 then
    if digits.length ≤ point then
      digits ++ List.replicate (point.toNat - digits.length) '0' ++ ['.', '0']
    else digits.take point.toNat ++ '.' :: digits.drop point.toNat
  else
    let e := point - 1
    (if digits.length = 1 then digits else digits.take 1 ++ '.' :: digits.drop 1) ++
      'e' :: (if e < 0 then '-' else '+') :: twoDigits e.natAbs

def magnitudeText (m : Nat) (q : Int) : List Char :=
  if m = 0 then ['0', '.', '0']
  else
    let (digits, point) := shortest m q
    layout digits point

def chars : Binary64 → List Char
  | .finite negative m q => (if negative then ['-'] else []) ++ magnitudeText m q
  | .infinite negative => if negative then "-inf".toList else "inf".toList
  | .nan => "nan".toList

def text (x : Binary64) : String := String.ofList x.chars

end SelectBuilder.Binary64
