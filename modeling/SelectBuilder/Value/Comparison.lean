import SelectBuilder.Value.Display

/-! # Comparing values

Numbers are compared by value, whatever their kind. An undefined number is not the same as any
value, not even itself; an undefined decimal has no place among the numbers, and one that signals
cannot be compared with a number at all.
-/

namespace SelectBuilder

/-- Why a value cannot be used as it is meant to be. -/
inductive Misfit where
  /-- It is of a kind that makes no sense there. -/
  | wrongKind
  /-- It is a number that is not defined. -/
  | undefined
  /-- It does not have what is asked of it. -/
  | lacking
  /-- It is an integer of more digits than may be written, or there is one in it. -/
  | tooLong (most : Nat)
deriving DecidableEq, Repr

def Misfit.message : Misfit → String
  | .wrongKind => "The value is of the wrong kind"
  | .undefined => "The number is not defined"
  | .lacking => "The value does not have what is asked of it"
  | .tooLong most =>
    "Exceeds the limit (" ++ toString most ++ " digits) for integer string conversion; " ++
      "use sys.set_int_max_str_digits() to increase the limit"

/-- What is asked for, if it is there. -/
def demand {α : Type} : Option α → Except Misfit α
  | some a => pure a
  | none => throw .lacking

@[simp] theorem demand_some {α : Type} (a : α) : demand (some a) = pure a := rfl

namespace Value

def isNumber : Value → Bool
  | .bool _ | .int _ | .float _ | .decimal _ => true
  | _ => false

/-- Whether a value is an undefined number that fails every comparison. -/
def isSignaling : Value → Bool
  | .decimal (.nan _ signaling _) => signaling
  | _ => false

/-- Whether two values other than collections are the same. -/
def testSameScalar : Value → Value → Except Misfit Bool
  | .null, .null => .ok true
  | .text s, .text t => .ok (s = t)
  | .date d, .date e => .ok (d = e)
  | .datetime s, .datetime t => .ok (s.same t)
  | .time s, .time t => .ok (s.same t)
  | v, w =>
    if v.isNumber && w.isNumber then
      if v.isSignaling || w.isSignaling then .error .undefined
      else .ok (v.quantity?.isSome && v.quantity? = w.quantity?)
    else .ok false

/-- Whether two values without a signal in them are the same. -/
def sameScalar (v w : Value) : Bool := (testSameScalar v w).toOption.getD false

mutual

/-- Whether two values are the same: records and sets without regard to order. A set holds no
collections and no signals. -/
def testSame : Value → Value → Except Misfit Bool
  | .list xs, .list ys => if xs.length = ys.length then testSameAll xs ys else .ok false
  | .set xs, .set ys =>
    .ok (xs.length = ys.length && xs.all fun x => ys.any (sameScalar x))
  | .record fs, .record gs => if fs.length = gs.length then testFieldsIn fs gs else .ok false
  | v, w => testSameScalar v w

def testSameAll : List Value → List Value → Except Misfit Bool
  | x :: xs, y :: ys => do if ← testSame x y then testSameAll xs ys else pure false
  | _, _ => .ok true

/-- Whether each of the first fields is among the second. -/
def testFieldsIn : List (String × Value) → List (String × Value) → Except Misfit Bool
  | [], _ => .ok true
  | (k, x) :: fs, gs =>
    match gs.lookup k with
    | some y => do if ← testSame x y then testFieldsIn fs gs else pure false
    | none => .ok false

end

/-- Whether two values can be compared and are the same. -/
def same (v w : Value) : Bool := (testSame v w).toOption.getD false

/-! ## Keys -/

/-- Whether a value can be looked up, as an item of a set has to be. -/
def isKey : Value → Bool
  | .list _ | .record _ | .set _ => false
  | v => !v.isSignaling

/-- The values, of those that are the same only the first. -/
def distinct (items : List Value) : List Value :=
  items.foldl (fun kept v => if kept.any (sameScalar · v) then kept else kept ++ [v]) []

/-- The set of some values. -/
def makeSet (items : List Value) : Except Misfit Value :=
  if items.all isKey then .ok (.set (distinct items)) else .error .wrongKind

/-! ## Order -/

/-- The place of a value among the numbers. An undefined float has none, and is neither above nor
below any number. -/
def measure : Value → Except Misfit (Option Quantity)
  | .float .nan => .ok none
  | .decimal (.nan ..) => .error .undefined
  | v =>
    match v.quantity? with
    | some q => .ok (some q)
    | none => .error .wrongKind

/-- The index that a value names in a list of a given length. Out of bounds the index need not be
an integer: below the list is where it begins, and above is where it ends. -/
def indexIn (v : Value) (length : Nat) : Except Misfit Int :=
  match v with
  | .int n => .ok n
  | .bool b => .ok (if b then 1 else 0)
  | v => do
    match ← measure v with
    | none => return 0
    | some q =>
      if (Quantity.ofInt length).isLess q then return length
      else if (Quantity.ofInt 0).isLess q then throw .wrongKind
      else return 0

end Value

end SelectBuilder
