import SelectBuilder.Query.Edit
import SelectBuilder.Query.Problem
import SelectBuilder.Query.Reference
import SelectBuilder.Session.Fault
import SelectBuilder.Session.Settings
import SelectBuilder.Sql.Render

/-! # Sessions

A session owns the query that is being put together. Every call makes one edit, and then the
problems and the statement are worked out anew. The query is held before that, and stays if there is
no statement for it: then the session keeps the statement that it had. Otherwise a call that fails
changes nothing but the source of ids (`Proofs/Session/Coherence`); an id that was drawn is not
drawn again.

A call is made with a writer for the statement. Where none is named, nothing fails in writing.
-/

namespace SelectBuilder

structure Session where
  settings : Settings
  provider : Option Schema.Provider
  ids : IdSource
  dialect : Dialect
  query : Query
  problems : List Problem
  sql : String

/-- What can be asked of a session. What is loaded is a query that has been built. All other
arguments are of any kind: what ends up in a part of the query is checked with that part, an id that
is no text names nothing, and a group that counts as no stands for the root. -/
inductive Call where
  | load (q : Query)
  | reset
  | switchDialect (dialect : Value)
  | addTable (schema name : Value)
  | removeTable (aliasName : Value)
  | references (aliasName : Value)
  | addColumn (table column aliasName aggregate distinct : Value)
  | removeColumn (id : Value)
  | updateColumn (id : Value) (patch : Fields)
  | moveColumn (id index : Value)
  | addJoin (leftTable leftColumn rightTable rightColumn kind operator : Value)
  | removeJoin (id : Value)
  | updateJoin (id : Value) (patch : Fields)
  | addCondition (table column operator value upper values group : Value)
  | removeCondition (id : Value)
  | updateCondition (id : Value) (patch : Fields)
  | addGroup (operator parent : Value)
  | canAddGroup (parent : Value)
  | removeGroup (id : Value)
  | updateGroup (id : Value) (patch : Fields)
  | clearFilter
  | addGrouping (table column : Value)
  | removeGrouping (table column : Value)
  | addHaving (table column aggregate operator value : Value)
  | removeHaving (id : Value)
  | updateHaving (id : Value) (patch : Fields)
  | addSorting (table column direction : Value)
  | removeSorting (id : Value)
  | updateSorting (id direction : Value)
  | moveSorting (id index : Value)
  | setLimit (limit : Value)
  | setOffset (offset : Value)
  | setDistinct (distinct : Value)

/-- What a session answers. -/
inductive Reply where
  | nothing
  | table (t : Table)
  | column (c : Selection)
  | join (j : Join)
  | condition (c : Condition)
  | group (g : ConditionGroup)
  | having (h : GroupFilter)
  | sorting (k : SortKey)
  | references (rs : List Reference)
  | permission (b : Bool)

def Reply.written : Reply → Value
  | .nothing => .null
  | .table t => t.written
  | .column c => c.written
  | .join j => j.written
  | .condition c => c.written
  | .group g => g.written
  | .having h => h.written
  | .sorting k => k.written
  | .references rs => .list (rs.map fun r => .text r.description)
  | .permission b => .bool b

namespace Session

/-- A session after a call, and the answer to it. -/
abbrev Outcome := Session × Except Fault Reply

def maxDepth (s : Session) : Int := (s.settings.maxDepth.val : Int)

def depthLimit (s : Session) : DepthLimit := .depth s.maxDepth

/-- Hold a query, and work out what belongs to it. -/
def install (s : Session) (q : Query) : Session :=
  { s with query := q, problems := q.problems s.depthLimit, sql := q.sql s.dialect }

/-- The dialect that a session starts with: that of the settings, unless another one is asked
for. -/
def startDialect (settings : Settings) (dialect : Value) : Except Fault Dialect :=
  if dialect.truth then Dialect.ofValue dialect else .ok settings.dialect

/-- A session with an empty query. -/
def start (settings : Settings) (dialect : Value) (ids : Option IdSource)
    (provider : Option Schema.Provider) : Except Fault Session :=
  (startDialect settings dialect).map fun dialect =>
    install
      { settings, provider, dialect
        ids := ids.getD (.ofStrategy settings.idStrategy)
        query := .empty, problems := [], sql := "" }
      .empty

/-- The session after an id has been drawn from it. -/
def drawn (s : Session) : Session := { s with ids := s.ids.advance }

/-- Take up a query, and answer. The query is held first, then its problems are worked out, and
then its statement; if there is none, the other two stay as they are by then. -/
def takeUp (s : Session) (q : Query) (reply : Reply) (w : Writer := .unbounded) : Outcome :=
  let held := { s with query := q }
  let judged := { held with problems := q.problems held.depthLimit }
  match q.render w judged.dialect with
  | .ok sql => ({ judged with sql }, .ok reply)
  | .error m => (judged, .error (.misfit m))

/-! ## Kinds of calls -/

def done (s : Session) (q : Query) (w : Writer := .unbounded) : Outcome := s.takeUp q .nothing w

/-- An edit that may have nothing to do. -/
def edited (s : Session) (q : Option Query) (w : Writer := .unbounded) : Outcome :=
  s.done (q.getD s.query) w

/-- An edit that may fail. -/
def attempted (s : Session) (q : Except Fault (Option Query)) (w : Writer := .unbounded) :
    Outcome :=
  match q with
  | .ok q => s.edited q w
  | .error fault => (s, .error fault)

/-- An edit by data that are checked first. -/
def checked (s : Session) (q : Checked (Option Query)) (w : Writer := .unbounded) : Outcome :=
  s.attempted q.orFault w

/-- Remove what an id names. -/
def removed (s : Session) (id : Value) (remove : String → Option Query)
    (w : Writer := .unbounded) : Outcome :=
  s.edited (id.text?.bind remove) w

/-- Patch what an id names. -/
def patched (s : Session) (id : Value) (update : String → Checked (Option Query))
    (w : Writer := .unbounded) : Outcome :=
  match id.text? with
  | some id => s.checked (update id) w
  | none => s.edited none w

/-- Move what an id names to an index. -/
def moved {α : Type} [Identified α] (s : Session) (items : List α) (id index : Value)
    (move : String → Int → Option Query) (w : Writer := .unbounded) : Outcome :=
  match id.text? with
  | some id => s.attempted (orMisfit ((Identified.indexFor items id index).map (move id))) w
  | none => s.edited none w

/-- Add a new part of the query, which is checked after its id has been drawn. -/
def added {α : Type} (s : Session) (part : Checked α) (add : Query → α → Query)
    (reply : α → Reply) (w : Writer := .unbounded) : Outcome :=
  match part.orFault with
  | .ok a => s.drawn.takeUp (add s.query a) (reply a) w
  | .error fault => (s.drawn, .error fault)

/-- An edit that answers with what it adds, or with nothing if it is refused. -/
def refusable (s : Session) (q : Option Query) (reply : Reply) (w : Writer := .unbounded) :
    Outcome :=
  match q with
  | none => (s, .ok .nothing)
  | some q => s.takeUp q reply w

/-! ## Single calls -/

/-- The columns of a table, as the provider describes it. -/
def describedColumns (s : Session) (schema name : Value) : Except Fault (List Column) :=
  match s.provider with
  | none => .ok []
  | some provider =>
    match provider schema name with
    | .ok t =>
      t.columns.mapM fun c => (Column.ofFields [("name", c.name), ("data_type", c.type)]).orFault
    | .error failure => .error (.schema failure)

/-- The new table of a call, under an alias that is free. -/
def readTable (s : Session) (schema name : Value) : Except Fault Table := do
  let columns ← s.describedColumns schema name
  match name with
  | .text name =>
    let schema ← ((Check.text schema).under "schema_name").orFault
    return { aliasName := Alias.allocate name s.query.aliases, schema, name, columns }
  | _ => throw (.misfit .lacking)

def addTable (s : Session) (schema name : Value) (w : Writer := .unbounded) : Outcome :=
  match s.readTable schema name with
  | .ok t => s.takeUp (s.query.addTable t) (.table t) w
  | .error fault => (s, .error fault)

/-- The new condition of a call, or what is wrong with it. -/
def readCondition (id : String) (table column operator value upper values : Value) :
    Except Fault Condition :=
  match values.items? with
  | none => .error (.misfit .wrongKind)
  | some items =>
    (Condition.ofFields [("id", .text id), ("table_alias", table), ("column_name", column),
      ("operator", operator), ("value", value), ("value2", upper), ("values", .list items)]).orFault

/-- Without a filter, a second id is drawn for its root. -/
def addCondition (s : Session) (condition : Except Fault Condition) (group : Value)
    (w : Writer := .unbounded) : Outcome :=
  match condition with
  | .error fault => (s.drawn, .error fault)
  | .ok c =>
    match s.query.filter with
    | none => s.drawn.drawn.refusable (s.query.addCondition c group s.drawn.ids.id) (.condition c) w
    | some g => s.drawn.refusable (s.query.addCondition c group g.id) (.condition c) w

def addGroup (s : Session) (operator parent : Value) (w : Writer := .unbounded) : Outcome :=
  match (Check.word Connective operator).under "operator" |>.orFault with
  | .error fault => (s.drawn, .error fault)
  | .ok connective =>
    let g : ConditionGroup := { id := s.ids.id, connective }
    s.drawn.refusable (s.query.addGroup g parent s.depthLimit) (.group g) w

def canAddGroup (s : Session) (parent : Value) : Bool :=
  match s.query.filter, parent.text? with
  | some g, some parent => g.canNest parent s.depthLimit
  | _, _ => false

/-- Whatever would be removed with a table. -/
def references (s : Session) (aliasName : Value) : List Reference :=
  (aliasName.text?.map s.query.references).getD []

def switchDialect (s : Session) (dialect : Value) (w : Writer := .unbounded) : Outcome :=
  match Dialect.ofValue dialect with
  | .ok dialect => { s with dialect }.done .empty w
  | .error fault => (s, .error fault)

/-- The column that a call is about. -/
def readColumnRef (table column : Value) : Checked ColumnRef :=
  ColumnRef.ofFields [("table_alias", table), ("column_name", column)]

/-- One call. -/
def step (s : Session) (c : Call) (w : Writer := .unbounded) : Outcome :=
  match c with
  | .load q => s.done q w
  | .reset => s.done .empty w
  | .switchDialect dialect => s.switchDialect dialect w
  | .addTable schema name => s.addTable schema name w
  | .removeTable aliasName => s.removed aliasName s.query.removeTable w
  | .references aliasName => (s, .ok (.references (s.references aliasName)))
  | .addColumn table column aliasName aggregate distinct =>
    s.added (Selection.ofFields [("id", .text s.ids.id), ("table_alias", table),
        ("column_name", column), ("alias", aliasName), ("aggregate", aggregate),
        ("distinct", distinct)])
      Query.addColumn .column w
  | .removeColumn id => s.removed id s.query.removeColumn w
  | .updateColumn id patch => s.patched id (s.query.updateColumn · patch) w
  | .moveColumn id index => s.moved s.query.columns id index s.query.moveColumn w
  | .addJoin leftTable leftColumn rightTable rightColumn kind operator =>
    s.added (Join.ofFields [("id", .text s.ids.id), ("join_type", kind),
        ("left_alias", leftTable), ("left_column", leftColumn), ("right_alias", rightTable),
        ("right_column", rightColumn), ("operator", operator)])
      Query.addJoin .join w
  | .removeJoin id => s.removed id s.query.removeJoin w
  | .updateJoin id patch => s.patched id (s.query.updateJoin · patch) w
  | .addCondition table column operator value upper values group =>
    s.addCondition (readCondition s.ids.id table column operator value upper values) group w
  | .removeCondition id => s.removed id s.query.removeCondition w
  | .updateCondition id patch => s.patched id (s.query.updateCondition · patch) w
  | .addGroup operator parent => s.addGroup operator parent w
  | .canAddGroup parent => (s, .ok (.permission (s.canAddGroup parent)))
  | .removeGroup id => s.removed id s.query.removeGroup w
  | .updateGroup id patch => s.patched id (s.query.updateGroup · patch) w
  | .clearFilter => s.edited s.query.clearFilter w
  | .addGrouping table column =>
    s.checked (s.query.addGrouping <$> readColumnRef table column) w
  | .removeGrouping table column =>
    s.checked (s.query.removeGrouping <$> readColumnRef table column) w
  | .addHaving table column aggregate operator value =>
    s.added (GroupFilter.ofFields [("id", .text s.ids.id), ("table_alias", table),
        ("column_name", column), ("aggregate", aggregate), ("operator", operator),
        ("value", value)])
      Query.addHaving .having w
  | .removeHaving id => s.removed id s.query.removeHaving w
  | .updateHaving id patch => s.patched id (s.query.updateHaving · patch) w
  | .addSorting table column direction =>
    s.added (SortKey.ofFields [("id", .text s.ids.id), ("table_alias", table),
        ("column_name", column), ("direction", direction)])
      Query.addSorting .sorting w
  | .removeSorting id => s.removed id s.query.removeSorting w
  | .updateSorting id direction =>
    s.patched id (s.query.updateSorting · [("direction", direction)]) w
  | .moveSorting id index => s.moved s.query.sorting id index s.query.moveSorting w
  | .setLimit limit => s.checked (some <$> s.query.setLimit limit) w
  | .setOffset offset => s.checked (some <$> s.query.setOffset offset) w
  | .setDistinct distinct => s.done (s.query.setDistinct distinct) w

/-- The session after some calls. -/
def run (s : Session) (calls : List Call) (w : Writer := .unbounded) : Session :=
  calls.foldl (fun s c => (s.step c w).1) s

end Session

end SelectBuilder
