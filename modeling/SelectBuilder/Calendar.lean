/-! # Dates and times

Calendar dates, times of day and their combination, each with its ISO 8601 text. A time may carry
its distance from universal time. Fractions of a second are written with six digits, and only
when they are not zero.
-/

namespace SelectBuilder

structure Date where
  year : Nat
  month : Nat
  day : Nat
deriving DecidableEq, Repr, Inhabited

/-- The distance of a local time from universal time, in microseconds. -/
structure UtcOffset where
  microseconds : Int
deriving DecidableEq, Repr, Inhabited

structure TimeOfDay where
  hour : Nat
  minute : Nat
  second : Nat
  microsecond : Nat
  offset : Option UtcOffset
deriving DecidableEq, Repr, Inhabited

structure DateTime where
  date : Date
  time : TimeOfDay
deriving DecidableEq, Repr, Inhabited

/-- A number in a field of fixed width, filled up with zeros on the left. -/
def fixedWidth (width n : Nat) : List Char :=
  let digits := Nat.toDigits 10 n
  List.replicate (width - digits.length) '0' ++ digits

namespace Date

def chars (d : Date) : List Char :=
  fixedWidth 4 d.year ++ '-' :: fixedWidth 2 d.month ++ '-' :: fixedWidth 2 d.day

def text (d : Date) : String := String.ofList d.chars

def isLeap (year : Nat) : Bool :=
  year % 4 = 0 && (year % 100 ≠ 0 || year % 400 = 0)

/-- Days of a year before the first of a month. -/
def daysBeforeMonth (year month : Nat) : Nat :=
  let lengths := [31, if isLeap year then 29 else 28, 31, 30, 31, 30, 31, 31, 30, 31, 30]
  (lengths.take (month - 1)).foldl (· + ·) 0

/-- Days since the first of January of the year one. -/
def dayNumber (d : Date) : Nat :=
  let y := d.year - 1
  365 * y + y / 4 - y / 100 + y / 400 + daysBeforeMonth d.year d.month + (d.day - 1)

end Date

/-- A fraction of a second in text. -/
def fractionChars (microsecond : Nat) : List Char :=
  if microsecond = 0 then [] else '.' :: fixedWidth 6 microsecond

namespace UtcOffset

def chars (o : UtcOffset) : List Char :=
  let total := o.microseconds.natAbs
  let seconds := total / 1000000
  let fraction := fractionChars (total % 1000000)
  (if o.microseconds < 0 then '-' else '+') ::
    fixedWidth 2 (seconds / 3600) ++ ':' :: fixedWidth 2 (seconds / 60 % 60) ++
    if seconds % 60 = 0 ∧ fraction = [] then [] else ':' :: fixedWidth 2 (seconds % 60) ++ fraction

end UtcOffset

namespace TimeOfDay

def chars (t : TimeOfDay) : List Char :=
  fixedWidth 2 t.hour ++ ':' :: fixedWidth 2 t.minute ++ ':' :: fixedWidth 2 t.second ++
    fractionChars t.microsecond ++ (t.offset.map UtcOffset.chars).getD []

def text (t : TimeOfDay) : String := String.ofList t.chars

/-- Microseconds since midnight of the local day. -/
def microseconds (t : TimeOfDay) : Nat :=
  ((t.hour * 60 + t.minute) * 60 + t.second) * 1000000 + t.microsecond

/-- Two times are the same when neither has an offset and they read alike, or when both have one
and they name the same moment of a day. -/
def same (s t : TimeOfDay) : Bool :=
  match s.offset, t.offset with
  | none, none => s.microseconds = t.microseconds
  | some a, some b => s.microseconds - a.microseconds = t.microseconds - b.microseconds
  | _, _ => false

end TimeOfDay

namespace DateTime

/-- The two parts with `separator` between them. -/
def chars (separator : Char) (t : DateTime) : List Char :=
  t.date.chars ++ separator :: t.time.chars

def isoText (t : DateTime) : String := String.ofList (t.chars 'T')

def spacedText (t : DateTime) : String := String.ofList (t.chars ' ')

def microseconds (t : DateTime) : Nat :=
  t.date.dayNumber * 86400000000 + t.time.microseconds

def same (s t : DateTime) : Bool :=
  match s.time.offset, t.time.offset with
  | none, none => s.microseconds = t.microseconds
  | some a, some b => s.microseconds - a.microseconds = t.microseconds - b.microseconds
  | _, _ => false

end DateTime

/-! ## Reading -/

/-- Read a field of fixed width. -/
def fixedWidth? (width : Nat) (s : List Char) : Option (Nat × List Char) :=
  let digits := s.take width
  if digits.length = width && digits.all Char.isDigit then
    some (digits.foldl (fun n c => 10 * n + (c.toNat - 48)) 0, s.drop width)
  else none

/-- Read a field of two digits that follows a colon. -/
def afterColon? : List Char → Option (Nat × List Char)
  | ':' :: s => fixedWidth? 2 s
  | _ => none

def Date.read? (s : List Char) : Option (Date × List Char) :=
  match fixedWidth? 4 s with
  | some (year, '-' :: s) =>
    match fixedWidth? 2 s with
    | some (month, '-' :: s) => (fixedWidth? 2 s).map fun (day, s) => (⟨year, month, day⟩, s)
    | _ => none
  | _ => none

/-- Read a fraction of a second; digits after the sixth do not count. -/
def readFraction : List Char → Nat × List Char
  | '.' :: s =>
    let digits := (s.takeWhile Char.isDigit).take 6
    (((fixedWidth? 6 (digits ++ List.replicate (6 - digits.length) '0')).map (·.1)).getD 0,
      s.dropWhile Char.isDigit)
  | s => (0, s)

/-- Read hours, minutes, and seconds if there are any, as microseconds. -/
def readClock? (s : List Char) : Option (Nat × List Char) := do
  let (hour, s) ← fixedWidth? 2 s
  let (minute, s) := (afterColon? s).getD (0, s)
  let (second, s) := (afterColon? s).getD (0, s)
  let (fraction, s) := readFraction s
  some (((hour * 60 + minute) * 60 + second) * 1000000 + fraction, s)

/-- The offset of so many microseconds. Less than a second counts as none. -/
def UtcOffset.ofClock (negative : Bool) (n : Nat) : UtcOffset :=
  if n < 1000000 then ⟨0⟩ else ⟨if negative then -n else n⟩

/-- Read an offset that makes up the whole of a text; an empty text has none. -/
def UtcOffset.read? : List Char → Option (Option UtcOffset)
  | [] => some none
  | ['Z'] => some (some ⟨0⟩)
  | '+' :: s =>
    match readClock? s with
    | some (n, []) => some (some (ofClock false n))
    | _ => none
  | '-' :: s =>
    match readClock? s with
    | some (n, []) => some (some (ofClock true n))
    | _ => none
  | _ => none

def TimeOfDay.read? (s : List Char) : Option TimeOfDay := do
  let (n, s) ← readClock? s
  let offset ← UtcOffset.read? s
  let seconds := n / 1000000
  some ⟨seconds / 3600, seconds / 60 % 60, seconds % 60, n % 1000000, offset⟩

def Date.ofText? (s : String) : Option Date :=
  match Date.read? s.toList with
  | some (d, []) => some d
  | _ => none

def TimeOfDay.ofText? (s : String) : Option TimeOfDay := TimeOfDay.read? s.toList

/-- Read a date and a time with any one character between them; a date alone is its midnight. -/
def DateTime.ofText? (s : String) : Option DateTime :=
  match Date.read? s.toList with
  | some (d, []) => some ⟨d, ⟨0, 0, 0, 0, none⟩⟩
  | some (d, _ :: s) => (TimeOfDay.read? s).map fun t => ⟨d, t⟩
  | none => none

end SelectBuilder
