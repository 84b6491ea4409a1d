import SelectBuilder.Schema.Table

/-! # Registries

A registry holds descriptions of tables by schema and name. A table that is described again keeps
its place and takes the new description. Names are looked up by value, and a value that cannot be
looked up names no table.
-/

namespace SelectBuilder.Schema

/-- A schema and the name of a table in it. -/
structure TableKey where
  schema : Value
  name : Value
deriving Repr

namespace TableKey

def isKey (k : TableKey) : Bool := k.schema.isKey && k.name.isKey

def same (k l : TableKey) : Bool :=
  k.schema.sameScalar l.schema && k.name.sameScalar l.name

end TableKey

def Table.key (t : Table) : TableKey := ⟨t.schema, t.name⟩

structure Registry where
  entries : List (TableKey × Table)
deriving Repr

namespace Registry

/-- Write a description over the one with the same key, or put it at the end. -/
def put (key : TableKey) (t : Table) : List (TableKey × Table) → List (TableKey × Table)
  | [] => [(key, t)]
  | e :: es => if e.1.same key then (e.1, t) :: es else e :: put key t es

def add (r : Registry) (t : Table) : Registry := ⟨put t.key t r.entries⟩

def ofList (ts : List Table) : Registry := ts.foldl add ⟨[]⟩

/-- The registry of some tables, if all of them can be looked up. -/
def ofTables (ts : List Table) : Except Misfit Registry :=
  if ts.all (·.key.isKey) then .ok (ofList ts) else .error .wrongKind

def find? (r : Registry) (key : TableKey) : Option Table :=
  (r.entries.find? (·.1.same key)).map (·.2)

def has (r : Registry) (schema name : Value) : Except Misfit Bool :=
  let key : TableKey := ⟨schema, name⟩
  if key.isKey then .ok (r.entries.any (·.1.same key)) else .error .wrongKind

/-- The description of a table, by way of which a registry is a provider. -/
def describe (r : Registry) : Provider := fun schema name =>
  let key : TableKey := ⟨schema, name⟩
  if key.isKey then
    match r.find? key with
    | some t => .ok t
    | none => .error (.unknownTable schema name)
  else .error (.misfit .wrongKind)

/-- The schemas, in the order in which they first occur. -/
def schemas (r : Registry) : List Value := Value.distinct (r.entries.map (·.1.schema))

/-- The names of the tables of a schema. -/
def tables (r : Registry) (schema : Value) : Except Misfit (List Value) :=
  (r.entries.filterM fun (e : TableKey × Table) => e.1.schema.testSame schema).map
    fun found => found.map (·.1.name)

end Registry

end SelectBuilder.Schema
