import SelectBuilder.Schema.Family

/-! # Tables of a database

What a database says about its tables: columns and indexes by name. A description is kept as it is
given; names and types are texts as a rule, but nothing here depends on it.
-/

namespace SelectBuilder.Schema

structure Column where
  name : Value
  type : Value
  nullable : Value := .bool true
deriving Repr

/-- The family of the declared type; a column without one holds texts. -/
def Column.family (c : Column) : Except Misfit Family :=
  (Family.ofValue c.type).map (·.getD .string)

structure Index where
  name : Value
  columns : List Value
  unique : Value := .bool false
deriving Repr

structure Table where
  schema : Value
  name : Value
  columns : List Column := []
  indexes : List Index := []
deriving Repr

/-- The first column with a name. -/
def columnNamed (name : Value) : List Column → Except Misfit (Option Column)
  | [] => .ok none
  | c :: cs => do if ← c.name.testSame name then pure (some c) else columnNamed name cs

def Table.column (t : Table) (name : Value) : Except Misfit (Option Column) :=
  columnNamed name t.columns

/-- Why a table or a list of tables is not to be had. -/
inductive Failure where
  /-- A registry does not know the table. -/
  | unknownTable (schema table : Value)
  /-- A database does not have the table. -/
  | noTable (schema table : Value)
  | inspection (table : Value) (reason : String)
  | schemaListing (reason : String)
  | tableListing (schema : Value) (reason : String)
  /-- A description lacks one of its fields. -/
  | missingField (name : String)
  | misfit (m : Misfit)
deriving Repr

def Failure.message : Failure → String
  | .unknownTable schema table =>
    "Unknown table '" ++
      (if schema.truth then schema.display ++ "." ++ table.display else table.display) ++ "'"
  | .noTable schema table =>
    "Table '" ++ table.display ++ "' not found in schema '" ++
      (if schema.truth then schema.display else "default") ++ "'"
  | .inspection table reason => "Failed to inspect table '" ++ table.display ++ "': " ++ reason
  | .schemaListing reason => "Failed to list schemas: " ++ reason
  | .tableListing schema reason =>
    "Failed to list tables in '" ++ schema.display ++ "': " ++ reason
  | .missingField name => "'" ++ name ++ "'"
  | .misfit m => m.message

/-- Describes a table by its schema and its name. -/
abbrev Provider := Value → Value → Except Failure Table

end SelectBuilder.Schema
