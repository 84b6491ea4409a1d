import SelectBuilder.Query.Basic

/-! # The written form of a query

A query and each of its parts as a record, every field given. A member of the filter tree carries
a tag that says whether it is a condition or a group.
-/

namespace SelectBuilder

def optionalText : Option String → Value
  | none => .null
  | some s => .text s

namespace Column

def fields (c : Column) : Fields := [("name", .text c.name), ("data_type", .text c.type)]

def written (c : Column) : Value := .record c.fields

end Column

namespace Table

def fields (t : Table) : Fields :=
  [("alias", .text t.aliasName), ("schema_name", .text t.schema), ("table_name", .text t.name),
    ("columns", .list (t.columns.map Column.written))]

def written (t : Table) : Value := .record t.fields

end Table

namespace ColumnRef

def fields (r : ColumnRef) : Fields :=
  [("table_alias", .text r.table), ("column_name", .text r.column)]

def written (r : ColumnRef) : Value := .record r.fields

end ColumnRef

namespace Selection

def fields (s : Selection) : Fields :=
  ("id", .text s.id) :: s.source.fields ++
    [("alias", optionalText s.aliasName),
      ("aggregate", optionalText (s.aggregate.map Aggregate.word)),
      ("distinct", .bool s.distinct)]

def written (s : Selection) : Value := .record s.fields

end Selection

namespace Join

def fields (j : Join) : Fields :=
  [("id", .text j.id), ("join_type", .text j.kind.word),
    ("left_alias", .text j.left.table), ("left_column", .text j.left.column),
    ("right_alias", .text j.right.table), ("right_column", .text j.right.column),
    ("operator", .text j.comparison.word)]

def written (j : Join) : Value := .record j.fields

end Join

namespace Condition

def fields (c : Condition) : Fields :=
  [("kind", .text "condition"), ("id", .text c.id)] ++ c.subject.fields ++
    [("operator", .text c.operator.word), ("value", c.value), ("value2", c.upper),
      ("values", .list c.values)]

def written (c : Condition) : Value := .record c.fields

end Condition

namespace ConditionGroup

mutual

def fields : ConditionGroup → Fields
  | ⟨id, connective, conditions, groups⟩ =>
    [("kind", .text "group"), ("id", .text id), ("operator", .text connective.word),
      ("conditions", .list (conditions.map Condition.written)),
      ("groups", .list (writtenAll groups))]

def writtenAll : List ConditionGroup → List Value
  | [] => []
  | g :: gs => .record (fields g) :: writtenAll gs

end

def written (g : ConditionGroup) : Value := .record g.fields

end ConditionGroup

def ConditionNode.written : ConditionNode → Value
  | .condition c => c.written
  | .group g => g.written

namespace GroupFilter

def fields (h : GroupFilter) : Fields :=
  ("id", .text h.id) :: h.subject.fields ++
    [("aggregate", .text h.aggregate.word), ("operator", .text h.comparison.word),
      ("value", h.value)]

def written (h : GroupFilter) : Value := .record h.fields

end GroupFilter

namespace SortKey

def fields (k : SortKey) : Fields :=
  ("id", .text k.id) :: k.source.fields ++ [("direction", .text k.direction.word)]

def written (k : SortKey) : Value := .record k.fields

end SortKey

namespace Query

def writtenFilter : Option ConditionGroup → Value
  | none => .null
  | some g => g.written

def writtenCount : Option Nat → Value
  | none => .null
  | some n => .int n

def fields (q : Query) : Fields :=
  [("tables", .list (q.tables.map Table.written)),
    ("columns", .list (q.columns.map Selection.written)),
    ("joins", .list (q.joins.map Join.written)),
    ("where", writtenFilter q.filter),
    ("group_by", .list (q.grouping.map ColumnRef.written)),
    ("having", .list (q.having.map GroupFilter.written)),
    ("order_by", .list (q.sorting.map SortKey.written)),
    ("limit", writtenCount (q.limit.map (·.val))),
    ("offset", writtenCount q.offset),
    ("distinct", q.distinct)]

def written (q : Query) : Value := .record q.fields

end Query

end SelectBuilder
