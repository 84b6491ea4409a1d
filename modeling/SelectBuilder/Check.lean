import SelectBuilder.Query.Vocabulary
import SelectBuilder.Value.Display

/-! # Checks of data of any kind

A check turns a `Value` into data of a definite type or says what is wrong with it. A check of
several fields finds every defect and not only the first, in the order of the fields, and each
defect knows the path to its place.
-/

namespace SelectBuilder

/-- Where an operator stands that has to be a plain comparison. -/
inductive ComparisonPlace where
  | having
  | join
deriving DecidableEq, Repr

inductive DefectCause where
  | missing
  | notText
  | notList
  | notRecord (type : String)
  | notOneOf (words : List String)
  | notInteger
  | unreadableInteger
  | oversize
  | fractional
  | notFinite
  | below (least : Int)
  | notBoolean
  | unreadableBoolean
  | notComparison (place : ComparisonPlace) (operator : Operator)
  | unknownTag (tag : String)
  | missingTag
  | untagged
deriving Repr, DecidableEq

/-- Something wrong with the data at the end of a path. -/
structure Defect where
  path : List String
  cause : DefectCause
deriving Repr, DecidableEq

/-- Words in single quotes, the last two joined by "or". -/
def alternatives : List String → String
  | [] => ""
  | [w] => "'" ++ w ++ "'"
  | [v, w] => "'" ++ v ++ "' or '" ++ w ++ "'"
  | w :: ws => "'" ++ w ++ "', " ++ alternatives ws

def DefectCause.message : DefectCause → String
  | .missing => "Field required"
  | .notText => "Input should be a valid string"
  | .notList => "Input should be a valid tuple"
  | .notRecord type => "Input should be a valid dictionary or instance of " ++ type
  | .notOneOf words => "Input should be " ++ alternatives words
  | .notInteger => "Input should be a valid integer"
  | .unreadableInteger =>
    "Input should be a valid integer, unable to parse string as an integer"
  | .oversize => "Unable to parse input string as an integer, exceeded maximum size"
  | .fractional => "Input should be a valid integer, got a number with a fractional part"
  | .notFinite => "Input should be a finite number"
  | .below least => "Input should be greater than or equal to " ++ toString least
  | .notBoolean => "Input should be a valid boolean"
  | .unreadableBoolean => "Input should be a valid boolean, unable to interpret input"
  | .notComparison .having operator =>
    "Value error, Operator '" ++ operator.word ++ "' is not allowed in HAVING"
  | .notComparison .join operator =>
    "Value error, Operator '" ++ operator.word ++ "' cannot be used in a join predicate"
  | .unknownTag tag =>
    "Input tag '" ++ tag ++ "' found using 'kind' does not match any of the expected tags: " ++
      "'condition', 'group'"
  | .missingTag => "Unable to extract tag using discriminator 'kind'"
  | .untagged => "Input should be a valid dictionary or object to extract fields from"

def Defect.message (d : Defect) : String :=
  ".".intercalate d.path ++ ": " ++ d.cause.message

def Defect.messages (ds : List Defect) : String :=
  "; ".intercalate (ds.map Defect.message)

/-- What a check finds: the checked data, or the defects. -/
inductive Checked (α : Type) where
  | ok (a : α)
  | bad (defects : List Defect)
deriving Repr, DecidableEq

namespace Checked

variable {α β : Type}

def map (f : α → β) : Checked α → Checked β
  | .ok a => .ok (f a)
  | .bad ds => .bad ds

/-- Two checks side by side; the defects of both are kept. -/
def seq (f : Checked (α → β)) (x : Checked α) : Checked β :=
  match f, x with
  | .ok f, .ok a => .ok (f a)
  | .ok _, .bad es => .bad es
  | .bad ds, .ok _ => .bad ds
  | .bad ds, .bad es => .bad (ds ++ es)

instance : Applicative Checked where
  pure := .ok
  map := map
  seq f x := f.seq (x ())

@[simp] theorem map_ok (f : α → β) (a : α) : f <$> (.ok a : Checked α) = .ok (f a) := rfl
@[simp] theorem map_bad (f : α → β) (ds : List Defect) :
    f <$> (.bad ds : Checked α) = .bad ds := rfl
@[simp] theorem ok_seq_ok (f : α → β) (a : α) :
    (.ok f : Checked (α → β)) <*> .ok a = .ok (f a) := rfl

/-- A second check of what the first has found to be in order. -/
def andThen (x : Checked α) (f : α → Checked β) : Checked β :=
  match x with
  | .ok a => f a
  | .bad ds => .bad ds

@[simp] theorem ok_andThen (a : α) (f : α → Checked β) : (Checked.ok a).andThen f = f a := rfl

/-- Place the defects below a step of a path. -/
def under (step : String) : Checked α → Checked α
  | .ok a => .ok a
  | .bad ds => .bad (ds.map fun d => { d with path := step :: d.path })

@[simp] theorem ok_under (step : String) (a : α) : (Checked.ok a).under step = .ok a := rfl

def fault (cause : DefectCause) : Checked α := .bad [⟨[], cause⟩]

/-- Run changes one after the other, the first of the list first. -/
def changes : List (Checked (α → α)) → Checked (α → α)
  | [] => .ok id
  | c :: cs => (fun f g a => g (f a)) <$> c <*> changes cs

end Checked

/-! ## Checks of one value -/

namespace Check

def any (v : Value) : Checked Value := .ok v

def text : Value → Checked String
  | .text s => .ok s
  | _ => .fault .notText

/-- One word of a vocabulary. -/
def word (α : Type) [Named α] : Value → Checked α
  | .text s =>
    match Named.read? s with
    | some a => .ok a
    | none => .fault (.notOneOf (Named.words α))
  | _ => .fault (.notOneOf (Named.words α))

/-- The one word that a field may hold. -/
def constant (s : String) : Value → Checked Unit
  | .text t => if s = t then .ok () else .fault (.notOneOf [s])
  | _ => .fault (.notOneOf [s])

def comparison (place : ComparisonPlace) (v : Value) : Checked Comparison :=
  (word Operator v).andThen fun operator =>
    match operator.comparison? with
    | some c => .ok c
    | none => .fault (.notComparison place operator)

def nullable {α : Type} (check : Value → Checked α) : Value → Checked (Option α)
  | .null => .ok none
  | v => some <$> check v

/-! ### Integers in text -/

/-- Drop the zeros at the front, and underscores among them. One of them stays where no digit and
no minus follows. A text that begins with neither a digit nor a minus is refused. -/
def dropZeros? : List Char → Option (List Char)
  | [] => none
  | '0' :: s =>
    let isFiller (c : Char) : Bool := c = '0' || c = '_'
    let last := ('0' :: s.takeWhile isFiller).getLast?.toList
    match s.dropWhile isFiller with
    | [] => some last
    | '.' :: rest => some (last ++ '.' :: rest)
    | c :: rest => if c.isDigit || c = '-' then some (c :: rest) else none
  | c :: s => if c.isDigit || c = '-' then some (c :: s) else none

/-- Drop a point with nothing but zeros after it, at least one. -/
def dropZeroFraction (s : List Char) : List Char :=
  match s.dropWhile (· ≠ '.') with
  | '.' :: '0' :: zeros => if zeros.all (· = '0') then s.takeWhile (· ≠ '.') else s
  | _ => s

/-- Whether two underscores stand side by side. -/
def hasUnderscorePair : List Char → Bool
  | a :: b :: s => a = '_' && b = '_' || hasUnderscorePair (b :: s)
  | _ => false

/-- Take the underscores out, if none of them stands at an end or beside another one. -/
def dropUnderscores (s : List Char) : List Char :=
  if s.head? = some '_' || s.getLast? = some '_' || hasUnderscorePair s then s
  else s.filter (· ≠ '_')

/-- The most characters of an integer that are read. -/
def longestInteger : Nat := 4300

/-- An integer in its plain form: perhaps a minus, and then ASCII digits of which the first is no
zero unless it is the only one. -/
def plainInteger (s : List Char) : Checked Int :=
  let (negative, digits) := match s with
    | '-' :: digits => (true, digits)
    | digits => (false, digits)
  let run := digits.takeWhile Char.isDigit
  let n : Int := Numeral.digitsValue run
  if digits = ['0'] then .ok 0
  else if run = [] || run.head? = some '0' then .fault .unreadableInteger
  else if longestInteger < run.length + (if negative then 1 else 0) then .fault .oversize
  else if run = digits then .ok (if negative then -n else n)
  else .fault .unreadableInteger

/-- An integer without spaces around it and without a sign in front. -/
def unsignedInteger (negative : Bool) (s : List Char) : Checked Int :=
  match dropZeros? s with
  | none => .fault .unreadableInteger
  | some s =>
    let s := dropUnderscores (dropZeroFraction s)
    plainInteger (if negative then '-' :: s else s)

/-- An integer in text, spaces around it not counting. Beside the plain form it may have a plus in
front, zeros at the front, underscores, and a point with zeros after it. A minus may stand before
the zeros at the front or after them, but not in both places. -/
def integerText (s : String) : Checked Int :=
  match Text.trimWhere Text.isSpace s.toList with
  | '+' :: '-' :: _ => .fault .unreadableInteger
  | '+' :: s => unsignedInteger false s
  | '-' :: s => unsignedInteger true s
  | s => unsignedInteger false s

/-! ### Numbers that stand for integers and truth values -/

/-- The integer that a number stands for, if it is finite and has no fraction. -/
def wholeNumber : Option Quantity → Checked Int
  | none | some (.infinite _) => .fault .notFinite
  | some q =>
    match q.toInt? with
    | some n => .ok n
    | none => .fault .fractional

/-- The least integer that fits into a word of 64 bits. -/
def leastWord : Int := -9223372036854775808

def fitsWord (n : Int) : Bool := leastWord ≤ n && n < -leastWord

/-- The integer that a binary number stands for. The least one that fits into a word is refused
with those that do not. -/
def floatInteger (x : Binary64) : Checked Int :=
  (wholeNumber x.quantity?).andThen fun n =>
    if fitsWord n && n ≠ leastWord then .ok n else .fault .oversize

def integer : Value → Checked Int
  | .bool b => .ok (if b then 1 else 0)
  | .int n => .ok n
  | .float x => floatInteger x
  | .decimal d => wholeNumber d.quantity?
  | .text s => integerText s
  | _ => .fault .notInteger

/-- A natural number. -/
def natural (v : Value) : Checked Nat :=
  (integer v).andThen fun n => if 0 ≤ n then .ok n.toNat else .fault (.below 0)

/-- An integer that is at least one. -/
def positive (v : Value) : Checked { n : Nat // 0 < n } :=
  (integer v).andThen fun n =>
    if h : 0 < n.toNat then .ok ⟨n.toNat, h⟩ else .fault (.below 1)

def yesWords : List String := ["1", "on", "t", "true", "y", "yes"]

def noWords : List String := ["0", "off", "f", "false", "n", "no"]

def booleanText (s : String) : Checked Bool :=
  let s := s.map Char.toLower
  if s ∈ yesWords then .ok true
  else if s ∈ noWords then .ok false
  else .fault .unreadableBoolean

/-- One and zero stand for yes and no; what is no integer of a word is not looked at. -/
def booleanInteger (n : Int) : Checked Bool :=
  if n = 1 then .ok true
  else if n = 0 then .ok false
  else .fault (if fitsWord n then .unreadableBoolean else .notBoolean)

def booleanFloat (x : Binary64) : Checked Bool :=
  match floatInteger x with
  | .ok n => booleanInteger n
  | .bad _ => .fault .notBoolean

/-- A decimal counts as the binary number nearest to it. -/
def boolean : Value → Checked Bool
  | .bool b => .ok b
  | .int n => booleanInteger n
  | .float x => booleanFloat x
  | .decimal d => booleanFloat (.ofDecimal d)
  | .text s => booleanText s
  | _ => .fault .notBoolean

/-- Check the items of a list, each at its position. -/
def itemsFrom {α : Type} (check : Value → Checked α) (position : Nat) :
    List Value → Checked (List α)
  | [] => .ok []
  | v :: vs => List.cons <$> (check v).under (toString position) <*>
      itemsFrom check (position + 1) vs

def list {α : Type} (check : Value → Checked α) : Value → Checked (List α)
  | .list vs | .set vs => itemsFrom check 0 vs
  | _ => .fault .notList

/-- The fields of a record that stands for a part of a query. -/
def fields {α : Type} (type : String) (check : Fields → Checked α) : Value → Checked α
  | .record fs => check fs
  | _ => .fault (.notRecord type)

end Check

/-! ## Checks of one field -/

namespace Fields

variable {α β : Type}

def required (fs : Fields) (name : String) (check : Value → Checked β) : Checked β :=
  match fs.lookup name with
  | some v => (check v).under name
  | none => (Checked.fault .missing).under name

def optional (fs : Fields) (name : String) (default : β) (check : Value → Checked β) :
    Checked β :=
  match fs.lookup name with
  | some v => (check v).under name
  | none => .ok default

/-- The change that a field asks for; without the field nothing changes. -/
def change (fs : Fields) (name : String) (check : Value → Checked β) (set : β → α → α) :
    Checked (α → α) :=
  match fs.lookup name with
  | some v => set <$> (check v).under name
  | none => .ok id

end Fields

end SelectBuilder
