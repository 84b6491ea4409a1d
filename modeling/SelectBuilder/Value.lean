import SelectBuilder.Calendar
import SelectBuilder.Number.Quantity

/-! # Values

Data of any kind, as it is handed to the builder: a value to compare a column with, or the
written form of a query or of a part of one. A record keeps its fields in the order they were
given.
-/

namespace SelectBuilder

inductive Value where
  | null
  | bool (b : Bool)
  | int (n : Int)
  | text (s : String)
  | float (x : Binary64)
  | decimal (d : Decimal)
  | date (d : Date)
  | datetime (t : DateTime)
  | time (t : TimeOfDay)
  | list (items : List Value)
  | record (fields : List (String × Value))
  | set (items : List Value)
deriving Repr, Inhabited

/-- The fields of a record. -/
abbrev Fields := List (String × Value)

namespace Value

/-- The text that a value is, if it is one. -/
def text? : Value → Option String
  | .text s => some s
  | _ => none

/-- The value of a number; a truth value counts as one or zero. -/
def quantity? : Value → Option Quantity
  | .bool b => some (.ofInt (if b then 1 else 0))
  | .int n => some (.ofInt n)
  | .float x => x.quantity?
  | .decimal d => d.quantity?
  | _ => none

/-- Null, false, zero, and whatever is empty count as no; all else counts as yes. -/
def truth : Value → Bool
  | .null => false
  | .bool b => b
  | .int n => n ≠ 0
  | .text s => s ≠ ""
  | .float (.finite _ m _) => m ≠ 0
  | .decimal (.finite _ c _) => c ≠ 0
  | .list items | .set items => !items.isEmpty
  | .record fields => !fields.isEmpty
  | _ => true

/-- Null and the empty text stand for a value not given yet. -/
def isMissing : Value → Bool
  | .null => true
  | .text s => s = ""
  | _ => false

/-- The items that a value is taken apart into: those of a collection, the names of the fields of
a record, the characters of a text. -/
def items? : Value → Option (List Value)
  | .list vs | .set vs => some vs
  | .record fs => some (fs.map fun f => .text f.1)
  | .text s => some (s.toList.map fun c => .text c.toString)
  | _ => none

end Value

end SelectBuilder
