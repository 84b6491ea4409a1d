import SelectBuilder.Check
import SelectBuilder.Schema.Table
import SelectBuilder.Session.Ids
import SelectBuilder.Sql.Dialect

/-! # Faults

Why a request comes to nothing.
-/

namespace SelectBuilder

inductive Fault where
  | unknownDialect (v : Value)
  | unknownOperator (v : Value)
  | unknownStrategy (v : Value)
  | unreadable (defects : List Defect)
  | schema (failure : Schema.Failure)
  | misfit (m : Misfit)

namespace Fault

def message : Fault → String
  | .unknownDialect v => v.full ++ " is not a valid Dialect"
  | .unknownOperator v => v.full ++ " is not a valid ComparisonOperator"
  | .unknownStrategy v => "Unknown id strategy: " ++ v.display
  | .unreadable defects => Defect.messages defects
  | .schema failure => failure.message
  | .misfit m => m.message

end Fault

/-- A step that may not make sense of a value. -/
def orMisfit {α : Type} (r : Except Misfit α) : Except Fault α := r.mapError .misfit

/-- A check as a step that may fail. -/
def Checked.orFault {α : Type} : Checked α → Except Fault α
  | .ok a => .ok a
  | .bad defects => .error (.unreadable defects)

/-- The value of a vocabulary that a word names. -/
def named {α : Type} [Named α] (fault : Value → Fault) (v : Value) : Except Fault α :=
  match v with
  | .text s =>
    match Named.read? s with
    | some a => .ok a
    | none => .error (fault v)
  | v => .error (fault v)

def Dialect.ofValue : Value → Except Fault Dialect := named .unknownDialect

def Operator.ofValue : Value → Except Fault Operator := named .unknownOperator

def IdStrategy.ofValue : Value → Except Fault IdStrategy := named .unknownStrategy

end SelectBuilder
