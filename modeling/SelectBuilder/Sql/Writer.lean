import SelectBuilder.Sql.Name
import SelectBuilder.Value.Comparison

/-! # Writers

What the writing of a statement relies on. How names are quoted is up to the database library, and
quoting may fail at a name. How long an integer may be is up to the host, and one that is longer has
no text.
-/

namespace SelectBuilder

namespace Value

mutual

/-- Whether no integer in a value has more digits than `most`. -/
def digitsWithin (most : Nat) : Value → Bool
  | .int n => n.natAbs < 10 ^ most
  | .list items | .set items => itemsWithin most items
  | .record fields => fieldsWithin most fields
  | _ => true

def itemsWithin (most : Nat) : List Value → Bool
  | [] => true
  | v :: vs => digitsWithin most v && itemsWithin most vs

def fieldsWithin (most : Nat) : Fields → Bool
  | [] => true
  | (_, v) :: fs => digitsWithin most v && fieldsWithin most fs

end

end Value

structure Writer where
  /-- A name as it stands in a statement. -/
  quote : Dialect → String → Except Misfit String
  /-- The most digits that an integer may be written with, if there is a limit. -/
  longest : Option Nat

namespace Writer

/-- Names are quoted as the dialects do it, and integers are of any length. -/
def unbounded : Writer where
  quote d name := .ok (d.quoteName name)
  longest := none

/-- The writer that the builder runs with. -/
def standard : Writer := { unbounded with longest := some 4300 }

/-- Make sure that a value has a text. -/
def check (w : Writer) (v : Value) : Except Misfit Unit :=
  match w.longest with
  | none => pure ()
  | some most => if v.digitsWithin most then pure () else throw (.tooLong most)

@[simp] theorem quote_unbounded (d : Dialect) (name : String) :
    unbounded.quote d name = pure (d.quoteName name) := rfl

@[simp] theorem check_unbounded (v : Value) : unbounded.check v = pure () := rfl

end Writer

end SelectBuilder
