import SelectBuilder.Query.Basic

/-! # What refers to a table

The parts of a query that would go with a table if it were removed.
-/

namespace SelectBuilder

inductive Reference where
  | column (c : Selection)
  | join (j : Join)
  | condition (c : Condition)
  | grouping (r : ColumnRef)
  | having (h : GroupFilter)
  | sorting (k : SortKey)

def Reference.description : Reference → String
  | .column c => "selected column " ++ c.source.dotted
  | .join j =>
    j.kind.word ++ " join " ++ j.left.dotted ++ " " ++ j.comparison.word ++ " " ++ j.right.dotted
  | .condition c => "filter on " ++ c.subject.dotted ++ " " ++ c.operator.word
  | .grouping r => "group by " ++ r.dotted
  | .having h => "having " ++ h.aggregate.word ++ "(" ++ h.subject.dotted ++ ")"
  | .sorting k => "order by " ++ k.source.dotted ++ " " ++ k.direction.word

namespace Query

def references (q : Query) (aliasName : String) : List Reference :=
  (q.columns.filter (·.source.table = aliasName)).map .column
    ++ (q.joins.filter fun j => j.left.table = aliasName || j.right.table = aliasName).map .join
    ++ (q.conditions.filter (·.subject.table = aliasName)).map .condition
    ++ (q.grouping.filter (·.table = aliasName)).map .grouping
    ++ (q.having.filter (·.subject.table = aliasName)).map .having
    ++ (q.sorting.filter (·.source.table = aliasName)).map .sorting

end Query

end SelectBuilder
