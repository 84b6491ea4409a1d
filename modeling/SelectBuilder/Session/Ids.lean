import SelectBuilder.Named

/-! # Ids

Where the ids of new parts of a query come from. Numbered ids are a stem with a number, and two
sessions that are told the same things draw the same ones. Unique ids have the layout of random
identifiers of 128 bits: 32 hexadecimal digits, of which one states the version and one the
variant.
-/

namespace SelectBuilder

inductive IdStrategy where
  | numbered
  | unique
deriving DecidableEq, Repr

instance : Named IdStrategy where
  all := [.numbered, .unique]
  word
    | .numbered => "sequential"
    | .unique => "uuid"

inductive IdSource where
  | numbered (stem : String) (next : Nat)
  | unique (next : Nat)
deriving DecidableEq, Repr

namespace IdSource

def ofStem (stem : String) : IdSource := .numbered stem 1

def ofStrategy : IdStrategy → IdSource
  | .numbered => .ofStem "n"
  | .unique => .unique 1

/-- The identifier for a number below `2 ^ 120`, in the layout of version 4. -/
def identifier (n : Nat) : String :=
  let digits := Nat.toDigits 16 n
  let digits := List.replicate (30 - digits.length) '0' ++ digits
  String.ofList (digits.take 12 ++ '4' :: (digits.drop 12).take 3 ++ '8' :: digits.drop 15)

/-- The next id. -/
def id : IdSource → String
  | .numbered stem next => stem ++ toString next
  | .unique next => identifier next

/-- The source after an id has been drawn. -/
def advance : IdSource → IdSource
  | .numbered stem next => .numbered stem (next + 1)
  | .unique next => .unique (next + 1)

/-- The first ids of a source. -/
def take (s : IdSource) : Nat → List String
  | 0 => []
  | n + 1 => s.id :: s.advance.take n

end IdSource

end SelectBuilder
