import SelectBuilder.Query.Condition

/-! # Queries

A query as it is put together step by step: tables, selected columns, joins, the filter tree,
grouping, conditions on groups, sorting and paging. Nothing here asks whether a query makes
sense; see `SelectBuilder.Query.Problem` for that.
-/

namespace SelectBuilder

structure Column where
  name : String
  type : String := ""
deriving DecidableEq, Repr, Inhabited

/-- A table of the query, known to the rest of the query by its alias. -/
structure Table where
  aliasName : String
  schema : String := ""
  name : String
  columns : List Column := []
deriving DecidableEq, Repr, Inhabited

/-- A selected column, by itself or under an aggregate. -/
structure Selection where
  id : String
  source : ColumnRef
  aliasName : Option String := none
  aggregate : Option Aggregate := none
  distinct : Bool := false
deriving DecidableEq, Repr, Inhabited

structure Join where
  id : String
  kind : JoinKind := .inner
  left : ColumnRef
  right : ColumnRef
  comparison : Comparison := .equal
deriving DecidableEq, Repr

/-- A condition on the aggregate of a group. -/
structure GroupFilter where
  id : String
  subject : ColumnRef
  aggregate : Aggregate
  comparison : Comparison := .greater
  value : Value := .null
deriving Repr

structure SortKey where
  id : String
  source : ColumnRef
  direction : Direction := .ascending
deriving DecidableEq, Repr

structure Query where
  tables : List Table := []
  columns : List Selection := []
  joins : List Join := []
  filter : Option ConditionGroup := none
  grouping : List ColumnRef := []
  having : List GroupFilter := []
  sorting : List SortKey := []
  limit : Option { n : Nat // 0 < n } := none
  offset : Option Nat := none
  /-- Whether the rows are to be distinct. Any value counts by its truth. -/
  distinct : Value := .bool false
deriving Repr, Inhabited

/-- Parts of a query that are addressed by an id. -/
class Identified (α : Type) where
  id : α → String

instance : Identified Selection := ⟨Selection.id⟩
instance : Identified Join := ⟨Join.id⟩
instance : Identified GroupFilter := ⟨GroupFilter.id⟩
instance : Identified SortKey := ⟨SortKey.id⟩

def Table.column? (t : Table) (name : String) : Option Column :=
  t.columns.find? (·.name = name)

namespace Query

def empty : Query := {}

def aliases (q : Query) : List String := q.tables.map Table.aliasName

def table? (q : Query) (aliasName : String) : Option Table :=
  q.tables.find? (·.aliasName = aliasName)

theorem aliasName_of_table? {q : Query} {aliasName : String} {t : Table}
    (h : q.table? aliasName = some t) : t.aliasName = aliasName := by
  simpa using List.find?_some h

theorem mem_tables_of_table? {q : Query} {aliasName : String} {t : Table}
    (h : q.table? aliasName = some t) : t ∈ q.tables :=
  List.mem_of_find?_eq_some h

theorem table?_isSome_iff {q : Query} {aliasName : String} :
    (q.table? aliasName).isSome ↔ aliasName ∈ q.aliases := by
  simp [table?, aliases]

def column? (q : Query) (r : ColumnRef) : Option Column :=
  (q.table? r.table).bind (·.column? r.column)

/-- The declared type of a column, if the column is known. -/
def columnType? (q : Query) (r : ColumnRef) : Option String :=
  (q.column? r).map Column.type

/-- The conditions of the filter, at whatever depth. -/
def conditions (q : Query) : List Condition :=
  (q.filter.map ConditionGroup.allConditions).getD []

end Query

end SelectBuilder
