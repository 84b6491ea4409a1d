import SelectBuilder.Sql.Select
import SelectBuilder.Sql.Writer

/-! # Rendering

How a statement comes about. Whatever is asked for on the way may be missing: the plan of a query
and its first table, the table behind the target of a step, the keyword of a join, the first word of
a declared type, the ends of a range. A name may not be quoted, and a value may have no text. A
failure anywhere is one of the whole, and no query is assumed to be valid.

What the text is where nothing fails, `Query.sql` says.
-/

namespace SelectBuilder

namespace JoinKind

def keywords : List (JoinKind × String) :=
  [(.inner, "INNER JOIN"), (.left, "LEFT JOIN"), (.right, "RIGHT JOIN"),
    (.full, "FULL OUTER JOIN"), (.cross, "CROSS JOIN")]

/-- The kinds that are written as another one when the sides have changed places. -/
def mirrors : List (JoinKind × JoinKind) := [(.left, .right), (.right, .left)]

end JoinKind

/-- What is known of the type of a column: nothing, the family itself, or a declaration. -/
inductive KnownType where
  | unknown
  | family (f : Family)
  | declared (s : String)
deriving DecidableEq, Repr

namespace KnownType

def ofDeclared : Option String → KnownType
  | none => .unknown
  | some s => .declared s

/-- The family that is known, if one is. -/
def family? : KnownType → Option Family
  | .unknown => none
  | .family f => some f
  | .declared s => Family.declared? (some s)

/-- Patterns are texts whatever the column is. -/
def forOperator (type : KnownType) (operator : Operator) : KnownType :=
  if operator = .like ∨ operator = .notLike then .family .string else type

/-- The family that a value is written in. Without a type, and with one that is declared by no
words, the value itself tells. -/
def familyFor (type : KnownType) (v : Value) : Except Misfit Family :=
  match type with
  | .unknown => return Literal.familyOf v
  | .family f => return f
  | .declared s => if s = "" then return Literal.familyOf v else Family.classify s

end KnownType

def Query.knownType (q : Query) (r : ColumnRef) : KnownType := .ofDeclared (q.columnType? r)

/-- The ends of a range, each of them asked for only where the list is long enough. -/
def Operand.readBounds : Value → Except Misfit (Value × Value)
  | .list vs => do
    let low ← if 0 < vs.length then demand vs[0]? else pure .null
    let high ← if 1 < vs.length then demand vs[1]? else pure .null
    return (low, high)
  | v => return (v, .null)

namespace Writer

variable (w : Writer) (d : Dialect)

/-! ## Names -/

def column (r : ColumnRef) : Except Misfit String := do
  return (← w.quote d r.table) ++ "." ++ (← w.quote d r.column)

def qualified (schema name : String) : Except Misfit String := do
  if schema = "" then return ← w.quote d name
  return (← w.quote d schema) ++ "." ++ (← w.quote d name)

def table (t : Table) : Except Misfit String := do
  return (← w.qualified d t.schema t.name) ++ " AS " ++ (← w.quote d t.aliasName)

/-! ## Values -/

/-- The literal for a value. -/
def literal (type : KnownType) : Value → Except Misfit String
  | .null => return "NULL"
  | v => do
    let family ← type.familyFor v
    w.check v
    return (Literal.ofFamily family v).text d

/-- What stands on the right of an operator. -/
def operand (operator : Operator) (type : KnownType) (v : Value) : Except Misfit String := do
  let type := type.forOperator operator
  match operator with
  | .isNull | .isNotNull => return ""
  | .isIn | .notIn =>
    return "(" ++ ", ".intercalate (← (Operand.items v).mapM (w.literal d type)) ++ ")"
  | .between =>
    let (low, high) ← Operand.readBounds v
    return (← w.literal d type low) ++ " AND " ++ (← w.literal d type high)
  | .compare _ | .like | .notLike => w.literal d type v

/-- The page, each of its bounds as it is. -/
def page (limit offset : Value) : Except Misfit String := do
  w.check limit
  w.check offset
  return d.pageText limit offset

/-! ## The filter -/

mutual

/-- The text of a group, in parentheses below the root. A group in which nothing is written has no
text. -/
def group (condition : Condition → Except Misfit String) (depth : Nat) :
    ConditionGroup → Except Misfit String
  | ⟨_, connective, conditions, groups⟩ => do
    let parts := (← conditions.mapM condition) ++ (← nested condition (depth + 1) groups)
    let text := (" " ++ connective.word ++ " ").intercalate parts
    return if parts.isEmpty then "" else if 0 < depth then "(" ++ text ++ ")" else text

/-- The texts of nested groups, without those that have none. -/
def nested (condition : Condition → Except Misfit String) (depth : Nat) :
    List ConditionGroup → Except Misfit (List String)
  | [] => return []
  | g :: gs => do
    let text ← group condition depth g
    let texts ← nested condition depth gs
    return if text = "" then texts else text :: texts

end

def condition (q : Query) (c : Condition) : Except Misfit String := do
  let columnText ← w.column d c.subject
  let operandText ← w.operand d c.operator (q.knownType c.subject) c.operandValue
  return columnText ++ " " ++ Query.operatorText c.operator.word operandText

def whereClause (q : Query) : Except Misfit String := do
  match q.filter with
  | none => return ""
  | some g =>
    let text ← group (w.condition d q) 0 g
    return if text = "" then "" else "WHERE " ++ text

/-! ## The other clauses -/

def selection (distinctRows : Bool) (c : Selection) : Except Misfit String := do
  let columnText ← w.column d c.source
  let distinct := c.distinct && !distinctRows
  let text :=
    match c.aggregate with
    | none => if distinct then "DISTINCT " ++ columnText else columnText
    | some a => if distinct then a.applyDistinct columnText else a.apply columnText
  match c.aliasName with
  | none => return text
  | some aliasName =>
    if aliasName = "" then return text
    return text ++ " AS " ++ (← w.quote d aliasName)

def selectClause (q : Query) : Except Misfit String := do
  let keyword := if q.distinct.truth then "SELECT DISTINCT " else "SELECT "
  if q.columns.isEmpty then return keyword ++ "*"
  return keyword ++ ", ".intercalate (← q.columns.mapM (w.selection d q.distinct.truth))

/-- Of a step, only the join and the alias of its target are used. -/
def step (q : Query) (s : FromStep) : Except Misfit String := do
  let kind := if s.reversed then (JoinKind.mirrors.lookup s.join.kind).getD s.join.kind
    else s.join.kind
  let tableText ← w.table d (← demand (q.table? s.target))
  let keyword ← demand (JoinKind.keywords.lookup kind)
  if kind = .cross then return keyword ++ " " ++ tableText
  return keyword ++ " " ++ tableText ++ " ON " ++ (← w.column d s.join.left) ++ " " ++
    s.join.comparison.word ++ " " ++ (← w.column d s.join.right)

def fromClause (q : Query) : Except Misfit String := do
  let plan ← demand q.fromPlan?
  let baseText ← w.table d (← demand q.tables.head?)
  return Dialect.spaced (("FROM " ++ baseText) :: (← plan.steps.mapM (w.step d q)))

def groupByClause (q : Query) : Except Misfit String := do
  if q.grouping.isEmpty then return ""
  return "GROUP BY " ++ ", ".intercalate (← q.grouping.mapM (w.column d))

def groupFilter (q : Query) (h : GroupFilter) : Except Misfit String := do
  let columnText ← w.column d h.subject
  let type := if h.aggregate.isNumeric then .family .numeric else q.knownType h.subject
  let operandText ← w.operand d (.compare h.comparison) type h.value
  return h.aggregate.apply columnText ++ " " ++ h.comparison.word ++ " " ++ operandText

def havingClause (q : Query) : Except Misfit String := do
  if q.having.isEmpty then return ""
  return "HAVING " ++ " AND ".intercalate (← q.having.mapM (w.groupFilter d q))

def sortKey (k : SortKey) : Except Misfit String := do
  return (← w.column d k.source) ++ " " ++ k.direction.word

def orderByClause (q : Query) : Except Misfit String := do
  if q.sorting.isEmpty then
    return if q.isPaged && d.pagingNeedsOrder then "ORDER BY (SELECT NULL)" else ""
  return "ORDER BY " ++ ", ".intercalate (← q.sorting.mapM (w.sortKey d))

def pageClause (q : Query) : Except Misfit String :=
  w.page d (Query.writtenCount (q.limit.map (·.val))) (Query.writtenCount q.offset)

end Writer

/-- The statement for a query, as far as the writer gets it. -/
def Query.render (w : Writer) (d : Dialect) (q : Query) : Except Misfit String := do
  if q.tables.isEmpty then return noTables
  let clauses := [← w.selectClause d q, ← w.fromClause d q, ← w.whereClause d q,
    ← w.groupByClause d q, ← w.havingClause d q, ← w.orderByClause d q, ← w.pageClause d q]
  return Dialect.spaced (clauses.filter (· ≠ ""))

end SelectBuilder
