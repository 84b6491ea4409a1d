import SelectBuilder.Schema.Table

/-! # Inspecting a database

An `Inspector` answers questions about a database in raw form, and may fail. `Inspector.describe`
makes a provider of it. A schema that counts as no, such as one with an empty name, is the default
one.
-/

namespace SelectBuilder.Schema

/-- Why an inspector fails. -/
inductive InspectorFailure where
  | noSuchTable (reason : String)
  | other (reason : String)
deriving DecidableEq, Repr

def InspectorFailure.reason : InspectorFailure → String
  | .noSuchTable reason | .other reason => reason

/-- Tables are asked for by name and schema, where null stands for the default schema. Columns and
indexes are described by a list of records each. -/
structure Inspector where
  hasTable : Value → Value → Except InspectorFailure Bool
  columns : Value → Value → Except InspectorFailure Value
  indexes : Value → Value → Except InspectorFailure Value
  schemas : Except InspectorFailure (List Value)
  tables : Value → Except InspectorFailure (List Value)

/-! ## Raw descriptions -/

def rawField (fs : Fields) (name : String) : Except Failure Value :=
  match fs.lookup name with
  | some v => .ok v
  | none => .error (.missingField name)

/-- The type of a column is the text of what is given for it. -/
def Column.ofRaw : Value → Except Failure Column
  | .record fs => do
    let name ← rawField fs "name"
    let type ← rawField fs "type"
    return ⟨name, .text type.display, .bool ((fs.lookup "nullable").getD (.bool true)).truth⟩
  | _ => .error (.misfit .wrongKind)

/-- Positions of an index that name no column are left out. -/
def Index.ofRaw : Value → Except Failure Index
  | .record fs =>
    let name := (fs.lookup "name").getD .null
    match ((fs.lookup "column_names").getD (.list [])).items? with
    | some columns =>
      .ok
        { name := if name.truth then name else .text ""
          columns := columns.filter Value.truth
          unique := .bool ((fs.lookup "unique").getD (.bool false)).truth }
    | none => .error (.misfit .wrongKind)
  | _ => .error (.misfit .lacking)

/-- What each item of a raw description says. -/
def readItems {α : Type} (read : Value → Except Failure α) (v : Value) : Except Failure (List α) :=
  match v.items? with
  | some items => items.mapM read
  | none => .error (.misfit .wrongKind)

namespace Inspector

def schemaOf (schema : Value) : Value := if schema.truth then schema else .null

/-- All there is to know about a table, or a failure at the first question that is not answered. -/
def examine (i : Inspector) (schema table : Value) :
    Except InspectorFailure (Value × Value) := do
  let known ← i.hasTable table (schemaOf schema)
  if known then
    let columns ← i.columns table (schemaOf schema)
    let indexes ← i.indexes table (schemaOf schema)
    pure (columns, indexes)
  else throw (.noSuchTable table.display)

def describe (i : Inspector) : Provider := fun schema name =>
  match i.examine schema name with
  | .ok (columns, indexes) => do
    let columns ← readItems Column.ofRaw columns
    let indexes ← readItems Index.ofRaw indexes
    return { schema, name, columns, indexes }
  | .error (.noSuchTable _) => .error (.noTable schema name)
  | .error (.other reason) => .error (.inspection name reason)

def listSchemas (i : Inspector) : Except Failure (List Value) :=
  i.schemas.mapError fun f => .schemaListing f.reason

def listTables (i : Inspector) (schema : Value) : Except Failure (List Value) :=
  (i.tables (schemaOf schema)).mapError fun f => .tableListing schema f.reason

end Inspector

/-! ## Catalogues -/

/-- A table as a catalogue lists it. -/
structure CatalogTable where
  name : Value
  schema : Value
  columns : Value
  indexes : Value

/-- The questions of an inspector. -/
inductive Question where
  | hasTable
  | columns
  | indexes
  | schemas
  | tables
deriving DecidableEq, Repr

/-- A database given by the list of its tables, where one question may fail. -/
structure Catalog where
  tables : List CatalogTable
  failing : Option (Question × InspectorFailure)

namespace Catalog

def ask {α : Type} (c : Catalog) (question : Question) (answer : α) :
    Except InspectorFailure α :=
  match c.failing with
  | some (failing, failure) => if failing = question then .error failure else .ok answer
  | none => .ok answer

def find? (c : Catalog) (name schema : Value) : Option CatalogTable :=
  c.tables.find? fun t => t.name.same name && t.schema.same schema

/-- The default schema is listed by the name `main`. -/
def schemaName (t : CatalogTable) : Value :=
  if t.schema.truth then t.schema else .text "main"

def inspector (c : Catalog) : Inspector where
  hasTable name schema := c.ask .hasTable (c.find? name schema).isSome
  columns name schema := c.ask .columns (((c.find? name schema).map (·.columns)).getD (.list []))
  indexes name schema := c.ask .indexes (((c.find? name schema).map (·.indexes)).getD (.list []))
  schemas := c.ask .schemas (Value.distinct (c.tables.map schemaName))
  tables schema := c.ask .tables ((c.tables.filter (·.schema.same schema)).map (·.name))

end Catalog

end SelectBuilder.Schema
