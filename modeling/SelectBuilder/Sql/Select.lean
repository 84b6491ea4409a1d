import SelectBuilder.Query.FromPlan
import SelectBuilder.Query.Written
import SelectBuilder.Sql.Filter
import SelectBuilder.Sql.Literal
import SelectBuilder.Sql.Name
import SelectBuilder.Sql.Page

/-! # SELECT statements

A query as one line of SQL. Every query has a text, a valid one or not: clauses with nothing in
them are left out, and a query without tables is a comment.
-/

namespace SelectBuilder

/-- An aggregate of a column. -/
def Aggregate.apply (a : Aggregate) (columnText : String) : String :=
  match a with
  | .countDistinct => "COUNT(DISTINCT " ++ columnText ++ ")"
  | a => a.word ++ "(" ++ columnText ++ ")"

/-- An aggregate of the distinct values of a column. -/
def Aggregate.applyDistinct (a : Aggregate) (columnText : String) : String :=
  match a with
  | .countDistinct => a.apply columnText
  | a => a.word ++ "(DISTINCT " ++ columnText ++ ")"

def JoinKind.keyword : JoinKind → String
  | .inner => "INNER JOIN"
  | .left => "LEFT JOIN"
  | .right => "RIGHT JOIN"
  | .full => "FULL OUTER JOIN"
  | .cross => "CROSS JOIN"

/-- The kind of join that a step is written with. The table that comes in is written on the right,
so if it is the left side of the join, the sides have changed places. -/
def FromStep.kind (s : FromStep) : JoinKind :=
  if s.reversed then s.join.kind.mirror else s.join.kind

/-- The items of a list condition: its values, or else those that its one value stands for. Here
only a list stands for several; a set is one item like any other value. -/
def Condition.listItems (c : Condition) : List Value :=
  if !c.values.isEmpty then c.values
  else
    match c.value with
    | .null => []
    | .list vs => vs
    | v => [v]

/-- The value of a condition in the shape that its operator takes. -/
def Condition.operandValue (c : Condition) : Value :=
  match c.operator with
  | .isIn | .notIn => .list c.listItems
  | .between => .list [c.value, c.upper]
  | _ => c.value

namespace Query

/-! ## The clauses -/

/-- A selected column. Where rows are distinct already, a column is not made distinct again. -/
def selectionText (d : Dialect) (distinctRows : Bool) (c : Selection) : String :=
  let columnText := d.qualifiedColumn c.source
  let distinct := c.distinct && !distinctRows
  let text :=
    match c.aggregate with
    | none => if distinct then "DISTINCT " ++ columnText else columnText
    | some a => if distinct then a.applyDistinct columnText else a.apply columnText
  match c.aliasName with
  | none => text
  | some aliasName => if aliasName = "" then text else text ++ " AS " ++ d.quoteName aliasName

def selectClause (d : Dialect) (q : Query) : String :=
  (if q.distinct.truth then "SELECT DISTINCT " else "SELECT ") ++
    if q.columns.isEmpty then "*"
    else ", ".intercalate (q.columns.map (selectionText d q.distinct.truth))

def stepText (d : Dialect) (s : FromStep) : String :=
  let joined := s.kind.keyword ++ " " ++ d.tableText s.table
  if s.kind = .cross then joined
  else
    joined ++ " ON " ++ d.qualifiedColumn s.join.left ++ " " ++ s.join.comparison.word ++ " " ++
      d.qualifiedColumn s.join.right

def fromClause (d : Dialect) (plan : FromPlan) : String :=
  Dialect.spaced (("FROM " ++ d.tableText plan.base) :: plan.steps.map (stepText d))

def conditionOperand (q : Query) (c : Condition) : Operand :=
  .ofValue c.operator (Family.declared? (q.columnType? c.subject)) c.operandValue

/-- An operator with what stands on its right, if anything does. -/
def operatorText (operator operand : String) : String :=
  if operand = "" then operator else operator ++ " " ++ operand

def conditionText (d : Dialect) (q : Query) (c : Condition) : String :=
  d.qualifiedColumn c.subject ++ " " ++ operatorText c.operator.word ((q.conditionOperand c).text d)

def whereClause (d : Dialect) (q : Query) : String :=
  match q.filter with
  | none => ""
  | some g =>
    let text := g.text (conditionText d q)
    if text = "" then "" else "WHERE " ++ text

def groupByClause (d : Dialect) (q : Query) : String :=
  if q.grouping.isEmpty then ""
  else "GROUP BY " ++ ", ".intercalate (q.grouping.map d.qualifiedColumn)

/-- The family of the values that an aggregate is compared with. -/
def groupFilterFamily (q : Query) (h : GroupFilter) : Option Family :=
  if h.aggregate.isNumeric then some .numeric else Family.declared? (q.columnType? h.subject)

def groupFilterText (d : Dialect) (q : Query) (h : GroupFilter) : String :=
  h.aggregate.apply (d.qualifiedColumn h.subject) ++ " " ++ h.comparison.word ++ " " ++
    (Literal.ofValue (q.groupFilterFamily h) h.value).text d

def havingClause (d : Dialect) (q : Query) : String :=
  if q.having.isEmpty then ""
  else "HAVING " ++ " AND ".intercalate (q.having.map (groupFilterText d q))

def sortKeyText (d : Dialect) (k : SortKey) : String :=
  d.qualifiedColumn k.source ++ " " ++ k.direction.word

def isPaged (q : Query) : Bool := q.limit.isSome || q.offset.isSome

/-- Where a page needs an order and the query has none, the order is an arbitrary one. -/
def orderByClause (d : Dialect) (q : Query) : String :=
  if !q.sorting.isEmpty then "ORDER BY " ++ ", ".intercalate (q.sorting.map (sortKeyText d))
  else if q.isPaged && d.pagingNeedsOrder then "ORDER BY (SELECT NULL)"
  else ""

def pageClause (d : Dialect) (q : Query) : String :=
  d.pageText (writtenCount (q.limit.map (·.val))) (writtenCount q.offset)

/-- The clauses in their order; one that is left out is empty. -/
def clauses (d : Dialect) (q : Query) (plan : FromPlan) : List String :=
  [selectClause d q, fromClause d plan, whereClause d q, groupByClause d q, havingClause d q,
    orderByClause d q, pageClause d q]

def statement (d : Dialect) (q : Query) (plan : FromPlan) : String :=
  Dialect.spaced ((clauses d q plan).filter (· ≠ ""))

/-- What is written for a query without tables. -/
def noTables : String := "-- No tables selected"

/-- The statement for a query. -/
def sql (d : Dialect) (q : Query) : String :=
  match q.fromPlan? with
  | none => noTables
  | some plan => statement d q plan

end Query

end SelectBuilder
