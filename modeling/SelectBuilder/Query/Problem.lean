import SelectBuilder.Query.FromPlan

/-! # Problems of a query

What keeps a query from being a valid one. Problems are data: a query that has some can still be
edited and rendered. They are listed rule by rule, and within a rule in the order of the parts
they are about.
-/

namespace SelectBuilder

/-- A part of a query that refers to a table. -/
inductive ReferringPart where
  | column (r : ColumnRef)
  | joinLeft
  | joinRight
  | condition (r : ColumnRef)
  | grouping (r : ColumnRef)
  | having (r : ColumnRef)
  | sorting (r : ColumnRef)
deriving DecidableEq, Repr

inductive Problem where
  | noTables
  | ungrouped (r : ColumnRef)
  | repeatedColumnAlias (aliasName : String) (count : Nat)
  | dangling (part : ReferringPart) (table : String)
  | noListItem (operator : Operator) (r : ColumnRef)
  | noBounds (r : ColumnRef)
  | noValue (r : ColumnRef)
  | noGroupValue (aggregate : Aggregate) (r : ColumnRef)
  | tooDeep (height : Nat) (limit : DepthLimit)
  | disconnectedJoin (j : Join)
  | unjoinedTable (aliasName : String)
  | repeatedTableAlias (aliasName : String) (count : Nat)
deriving DecidableEq, Repr

def ReferringPart.description : ReferringPart → String
  | .column r => "Column " ++ r.dotted
  | .joinLeft => "JOIN left side"
  | .joinRight => "JOIN right side"
  | .condition r => "WHERE condition on " ++ r.dotted
  | .grouping r => "GROUP BY " ++ r.dotted
  | .having r => "HAVING " ++ r.dotted
  | .sorting r => "ORDER BY " ++ r.dotted

def Problem.message : Problem → String
  | .noTables => "Select at least one table"
  | .ungrouped r =>
    "Column " ++ r.dotted ++ " must be in GROUP BY or use an aggregate function"
  | .repeatedColumnAlias aliasName count =>
    "Column alias '" ++ aliasName ++ "' is used by " ++ toString count ++ " columns"
  | .dangling part table => part.description ++ " references non-existent table: " ++ table
  | .noListItem operator r =>
    operator.word ++ " on " ++ r.dotted ++ " requires at least one value"
  | .noBounds r => "BETWEEN on " ++ r.dotted ++ " requires two values"
  | .noValue r => "Condition on " ++ r.dotted ++ " requires a value"
  | .noGroupValue aggregate r =>
    "HAVING " ++ aggregate.word ++ "(" ++ r.dotted ++ ") requires a value"
  | .tooDeep height limit =>
    "Filter groups are nested " ++ toString height ++ " levels deep; the maximum is " ++
      limit.text
  | .disconnectedJoin j =>
    "Join " ++ j.left.dotted ++ " " ++ j.comparison.word ++ " " ++ j.right.dotted ++
      " does not connect to the query"
  | .unjoinedTable aliasName => "Table '" ++ aliasName ++ "' is not joined to the query"
  | .repeatedTableAlias aliasName count =>
    "Table alias '" ++ aliasName ++ "' is used by " ++ toString count ++ " tables"

def Problem.messages (ps : List Problem) : String := "; ".intercalate (ps.map Problem.message)

/-- The words that occur more than once, in the order of their first occurrence, with the number of
times they occur. -/
def repeated (words : List String) : List (String × Nat) :=
  (words.eraseDups.map fun w => (w, words.count w)).filter (1 < ·.2)

/-- What the value of a condition lacks for its operator. -/
def Condition.problem? (c : Condition) : Option Problem :=
  match c.operator with
  | .isNull | .isNotNull => none
  | .isIn | .notIn =>
    if c.values.isEmpty && c.value.isMissing then some (.noListItem c.operator c.subject) else none
  | .between =>
    if c.value.isMissing || c.upper.isMissing then some (.noBounds c.subject) else none
  | _ => if c.value.isMissing then some (.noValue c.subject) else none

namespace Query

/-! ## The rules -/

def tableProblems (q : Query) : List Problem := if q.tables.isEmpty then [.noTables] else []

/-- Whether rows are combined into groups. -/
def isAggregating (q : Query) : Bool :=
  !q.grouping.isEmpty || q.columns.any (·.aggregate.isSome)

/-- With grouping or an aggregate, a column by itself has to be a grouping column. -/
def groupingProblems (q : Query) : List Problem :=
  if q.isAggregating then
    (q.columns.filter fun c => c.aggregate.isNone && c.source ∉ q.grouping).map
      (.ungrouped ·.source)
  else []

/-- The aliases that columns are given; an empty one counts as none. -/
def columnAliases (q : Query) : List String :=
  q.columns.filterMap fun c => c.aliasName.filter (· ≠ "")

def columnAliasProblems (q : Query) : List Problem :=
  (repeated q.columnAliases).map fun (aliasName, count) => .repeatedColumnAlias aliasName count

/-- Every reference to a table with the part it stands in. -/
def tableReferences (q : Query) : List (ReferringPart × String) :=
  q.columns.map (fun c => (.column c.source, c.source.table))
    ++ q.joins.flatMap (fun j => [(.joinLeft, j.left.table), (.joinRight, j.right.table)])
    ++ q.conditions.map (fun c => (.condition c.subject, c.subject.table))
    ++ q.grouping.map (fun r => (.grouping r, r.table))
    ++ q.having.map (fun h => (.having h.subject, h.subject.table))
    ++ q.sorting.map (fun k => (.sorting k.source, k.source.table))

def referenceProblems (q : Query) : List Problem :=
  (q.tableReferences.filter (·.2 ∉ q.aliases)).map fun (part, table) => .dangling part table

def valueProblems (q : Query) : List Problem :=
  q.conditions.filterMap Condition.problem?
    ++ (q.having.filter (·.value.isMissing)).map fun h => .noGroupValue h.aggregate h.subject

def nestingProblems (q : Query) (limit : DepthLimit) : List Problem :=
  match q.filter with
  | none => []
  | some g => if limit.excludes g.height then [.tooDeep g.height limit] else []

/-- A join that never touches FROM is lost, and so is a table that no join brings in. A join with a
side that is no table of the query is a dangling reference already. -/
def joinProblems (q : Query) : List Problem :=
  match q.fromPlan? with
  | none => []
  | some plan =>
    (plan.stranded.filter fun j => j.left.table ∈ q.aliases && j.right.table ∈ q.aliases).map
        .disconnectedJoin
      ++ plan.unreachable.map (.unjoinedTable ·.aliasName)

def tableAliasProblems (q : Query) : List Problem :=
  (repeated q.aliases).map fun (aliasName, count) => .repeatedTableAlias aliasName count

/-- All problems of a query whose filter may be nested down to a limit. -/
def problems (q : Query) (limit : DepthLimit) : List Problem :=
  q.tableProblems ++ q.groupingProblems ++ q.columnAliasProblems ++ q.referenceProblems
    ++ q.valueProblems ++ q.nestingProblems limit ++ q.joinProblems ++ q.tableAliasProblems

def isValid (q : Query) (limit : DepthLimit) : Bool := (q.problems limit).isEmpty

end Query

end SelectBuilder
