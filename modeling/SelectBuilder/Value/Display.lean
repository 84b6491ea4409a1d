import SelectBuilder.Number.Shortest
import SelectBuilder.Text.Printable
import SelectBuilder.Value

/-! # The text of a value

`Value.display` is the text that stands for a value in a quoted literal. A text stands for
itself; inside a collection every value is written in full, by `Value.full`, with texts in
quotes.
-/

namespace SelectBuilder

namespace Text

/-- Lower case hexadecimal digits in a field of fixed width. -/
def hexadecimal (width n : Nat) : List Char :=
  let digits := Nat.toDigits 16 n
  List.replicate (width - digits.length) '0' ++ digits

/-- A character between quotes. The quote itself, the backslash, and characters without a printed
form are escaped. -/
def quotedChar (quote c : Char) : List Char :=
  if c = quote || c = '\\' then ['\\', c]
  else if c = '\n' then ['\\', 'n']
  else if c = '\r' then ['\\', 'r']
  else if c = '\t' then ['\\', 't']
  else if 0x20 ≤ c.toNat && c.toNat < 0x7F then [c]
  else if c.toNat < 0x100 && !isPrintable c then '\\' :: 'x' :: hexadecimal 2 c.toNat
  else if isPrintable c then [c]
  else if c.toNat < 0x10000 then '\\' :: 'u' :: hexadecimal 4 c.toNat
  else '\\' :: 'U' :: hexadecimal 8 c.toNat

/-- A text in single quotes, or in double ones if it holds single quotes and no double ones. -/
def quoted (s : String) : String :=
  let quote := if s.toList.contains '\x27' && !s.toList.contains '\x22' then '\x22' else '\x27'
  String.ofList (quote :: s.toList.flatMap (quotedChar quote) ++ [quote])

end Text

/-- A constructor applied to its arguments. -/
def application (name : String) (arguments : List String) : String :=
  name ++ "(" ++ ", ".intercalate arguments ++ ")"

/-- The numbers of a list without the zeros at its end, of which at most `most` are dropped. -/
def dropTrailingZeros : Nat → List Nat → List Nat
  | 0, ns => ns
  | most + 1, ns => if ns.getLast? = some 0 then dropTrailingZeros most ns.dropLast else ns

namespace UtcOffset

/-- A span of time by its days, seconds and microseconds, those that are zero left out. -/
def full (o : UtcOffset) : String :=
  if o.microseconds = 0 then "datetime.timezone.utc"
  else
    let days := o.microseconds.fdiv 86400000000
    let rest := (o.microseconds.fmod 86400000000).toNat
    let part (name : String) (n : Int) : List String :=
      if n = 0 then [] else [name ++ "=" ++ toString n]
    application "datetime.timezone"
      [application "datetime.timedelta"
        (part "days" days ++ part "seconds" (rest / 1000000 : Nat) ++
          part "microseconds" (rest % 1000000 : Nat))]

def fullArgument (o : Option UtcOffset) : List String :=
  match o with
  | none => []
  | some o => ["tzinfo=" ++ o.full]

end UtcOffset

def Date.full (d : Date) : String :=
  application "datetime.date" ([d.year, d.month, d.day].map toString)

def TimeOfDay.full (t : TimeOfDay) : String :=
  application "datetime.time"
    ((dropTrailingZeros 2 [t.hour, t.minute, t.second, t.microsecond]).map toString ++
      UtcOffset.fullArgument t.offset)

def DateTime.full (t : DateTime) : String :=
  application "datetime.datetime"
    ((dropTrailingZeros 2 [t.date.year, t.date.month, t.date.day, t.time.hour, t.time.minute,
        t.time.second, t.time.microsecond]).map toString ++
      UtcOffset.fullArgument t.time.offset)

namespace Value

mutual

/-- A value written in full. -/
def full : Value → String
  | .null => "None"
  | .bool b => if b then "True" else "False"
  | .int n => toString n
  | .text s => Text.quoted s
  | .float x => x.text
  | .decimal d => application "Decimal" [Text.quoted d.text]
  | .date d => d.full
  | .datetime t => t.full
  | .time t => t.full
  | .list items => "[" ++ ", ".intercalate (fullItems items) ++ "]"
  | .record fields => "\x7b" ++ ", ".intercalate (fullFields fields) ++ "\x7d"
  | .set items =>
    if items.isEmpty then "set()" else "\x7b" ++ ", ".intercalate (fullItems items) ++ "\x7d"

def fullItems : List Value → List String
  | [] => []
  | v :: vs => full v :: fullItems vs

def fullFields : List (String × Value) → List String
  | [] => []
  | (k, v) :: fs => (Text.quoted k ++ ": " ++ full v) :: fullFields fs

end

/-- The text that stands for a value. -/
def display : Value → String
  | .text s => s
  | .decimal d => d.text
  | .date d => d.text
  | .datetime t => t.spacedText
  | .time t => t.text
  | v => v.full

@[simp] theorem display_text (s : String) : display (.text s) = s := rfl
@[simp] theorem display_int (n : Int) : display (.int n) = toString n := rfl
@[simp] theorem display_decimal (d : Decimal) : display (.decimal d) = d.text := rfl

/-- The items of a set in the order of their texts. -/
def sorted (items : List Value) : List Value :=
  items.mergeSort fun v w => v.display ≤ w.display

end Value

end SelectBuilder
