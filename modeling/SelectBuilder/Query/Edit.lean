import SelectBuilder.Query.Alias
import SelectBuilder.Query.Condition.Edit

/-! # Edits of a query

An edit that has nothing to do answers `none`, which stands for the query as it was. Aliases of
tables stay distinct, and a table that is removed takes with it whatever refers to it.
-/

namespace SelectBuilder

/-! ## Parts addressed by an id -/

namespace Identified

variable {α : Type} [Identified α]

/-- The list without the items that have an id. -/
def without? (items : List α) (i : String) : Option (List α) :=
  let kept := items.filter (id · ≠ i)
  if kept.length = items.length then none else some kept

/-- Change the items with an id by a patch, which is read only if there is such an item. -/
def patched? (patch : Fields → Checked (α → α)) (items : List α) (i : String) (fs : Fields) :
    Checked (Option (List α)) :=
  if items.any (id · = i) then
    (fun change => some (items.map fun a => if id a = i then change a else a)) <$> patch fs
  else .ok none

/-- Bring an index into the bounds of a list of a given length. -/
def clamp (index : Int) (length : Nat) : Nat := min index.toNat length

/-- The index that a value names for an item with an id, among the other items. -/
def indexFor (items : List α) (i : String) (v : Value) : Except Misfit Int :=
  if items.any (id · = i) then v.indexIn (items.length - 1) else .ok 0

/-- Move the first item with an id to an index of the list that is left without it. -/
def moved? (items : List α) (i : String) (index : Int) : Option (List α) :=
  match items.find? (id · = i) with
  | none => none
  | some a =>
    let rest := items.eraseP (id · = i)
    some (rest.insertIdx (clamp index rest.length) a)

end Identified

namespace Query

/-! ## Tables -/

/-- Append a table. An alias that is empty or taken is replaced by a free one. -/
def addTable (q : Query) (t : Table) : Query :=
  let t :=
    if t.aliasName = "" || t.aliasName ∈ q.aliases then
      { t with aliasName := Alias.allocate t.name q.aliases }
    else t
  { q with tables := q.tables ++ [t] }

/-- Remove the tables with an alias and whatever refers to them. -/
def removeTable (q : Query) (aliasName : String) : Option Query :=
  if aliasName ∈ q.aliases then
    some
      { q with
        tables := q.tables.filter (·.aliasName ≠ aliasName)
        columns := q.columns.filter (·.source.table ≠ aliasName)
        joins := q.joins.filter fun j => j.left.table ≠ aliasName && j.right.table ≠ aliasName
        filter := q.filter.bind fun g => (g.prune (·.subject.table = aliasName)).rest g
        grouping := q.grouping.filter (·.table ≠ aliasName)
        having := q.having.filter (·.subject.table ≠ aliasName)
        sorting := q.sorting.filter (·.source.table ≠ aliasName) }
  else none

/-! ## Selected columns -/

def addColumn (q : Query) (c : Selection) : Query := { q with columns := q.columns ++ [c] }

def removeColumn (q : Query) (id : String) : Option Query :=
  (Identified.without? q.columns id).map fun columns => { q with columns }

def updateColumn (q : Query) (id : String) (fs : Fields) : Checked (Option Query) :=
  Option.map (fun columns => { q with columns }) <$>
    Identified.patched? Selection.patch q.columns id fs

def moveColumn (q : Query) (id : String) (index : Int) : Option Query :=
  (Identified.moved? q.columns id index).map fun columns => { q with columns }

/-! ## Joins -/

def addJoin (q : Query) (j : Join) : Query := { q with joins := q.joins ++ [j] }

def removeJoin (q : Query) (id : String) : Option Query :=
  (Identified.without? q.joins id).map fun joins => { q with joins }

def updateJoin (q : Query) (id : String) (fs : Fields) : Checked (Option Query) :=
  Option.map (fun joins => { q with joins }) <$> Identified.patched? Join.patch q.joins id fs

/-! ## The filter -/

def setFilter (q : Query) (g : ConditionGroup) : Query := { q with filter := some g }

def clearFilter (q : Query) : Option Query :=
  q.filter.map fun _ => { q with filter := none }

/-- The id of the group that an edit is meant for: the root, unless another one is given. -/
def target (root : ConditionGroup) (group : Value) : Option String :=
  if group.truth then group.text? else some root.id

/-- Add a condition to a group. Without a filter the condition becomes the only one of a new root,
with a given id. -/
def addCondition (q : Query) (c : Condition) (group : Value) (rootId : String) : Option Query :=
  match q.filter with
  | none => some (q.setFilter { id := rootId, conditions := [c] })
  | some g => (target g group).bind fun id => (g.addConditionTo id c).map q.setFilter

/-- The query with what is left of its filter. -/
def pruned (q : Query) : Pruned ConditionGroup → Option Query
  | .untouched => none
  | .emptied => some { q with filter := none }
  | .trimmed g => some (q.setFilter g)

def removeCondition (q : Query) (id : String) : Option Query :=
  q.filter.bind fun g => q.pruned (g.removeConditionFrom id)

def updateCondition (q : Query) (id : String) (fs : Fields) : Checked (Option Query) :=
  match q.filter with
  | none => .ok none
  | some g => Option.map q.setFilter <$> g.updateCondition id fs

/-- Nest a group in another one. Without a filter it becomes the root, unless it is too high. -/
def addGroup (q : Query) (new : ConditionGroup) (parent : Value) (limit : DepthLimit) :
    Option Query :=
  match q.filter with
  | none => if limit.excludes new.height then none else some (q.setFilter new)
  | some g => (target g parent).bind fun id => (g.nest id new limit).map q.setFilter

/-- Whether adding a group depends on the limit: it does not where the parent is no group. -/
def addGroupIsLimited (q : Query) (parent : Value) : Bool :=
  match q.filter with
  | none => true
  | some g => ((target g parent).bind g.find?).isSome

/-- Remove a nested group, or the whole filter with its root. -/
def removeGroup (q : Query) (id : String) : Option Query :=
  q.filter.bind fun g =>
    if g.id = id then some { q with filter := none } else (g.removeGroup id).map q.setFilter

def updateGroup (q : Query) (id : String) (fs : Fields) : Checked (Option Query) :=
  match q.filter with
  | none => .ok none
  | some g => Option.map q.setFilter <$> g.update id fs

/-! ## Grouping and sorting -/

/-- Group by one more column, unless it is one of the grouping columns already. -/
def addGrouping (q : Query) (r : ColumnRef) : Option Query :=
  if r ∈ q.grouping then none else some { q with grouping := q.grouping ++ [r] }

def removeGrouping (q : Query) (r : ColumnRef) : Option Query :=
  if r ∈ q.grouping then some { q with grouping := q.grouping.filter (· ≠ r) } else none

def addHaving (q : Query) (h : GroupFilter) : Query := { q with having := q.having ++ [h] }

def removeHaving (q : Query) (id : String) : Option Query :=
  (Identified.without? q.having id).map fun having => { q with having }

def updateHaving (q : Query) (id : String) (fs : Fields) : Checked (Option Query) :=
  Option.map (fun having => { q with having }) <$>
    Identified.patched? GroupFilter.patch q.having id fs

def addSorting (q : Query) (k : SortKey) : Query := { q with sorting := q.sorting ++ [k] }

def removeSorting (q : Query) (id : String) : Option Query :=
  (Identified.without? q.sorting id).map fun sorting => { q with sorting }

def updateSorting (q : Query) (id : String) (fs : Fields) : Checked (Option Query) :=
  Option.map (fun sorting => { q with sorting }) <$>
    Identified.patched? SortKey.patch q.sorting id fs

def moveSorting (q : Query) (id : String) (index : Int) : Option Query :=
  (Identified.moved? q.sorting id index).map fun sorting => { q with sorting }

/-! ## Paging and distinct rows -/

/-- Set the limit, and check what the query holds. -/
def setLimit (q : Query) (v : Value) : Checked Query :=
  (fun limit distinct => { q with limit, distinct := .bool distinct }) <$>
    (Check.nullable Check.positive v).under "limit"
    <*> (Check.boolean q.distinct).under "distinct"

/-- Set the offset, and check what the query holds. -/
def setOffset (q : Query) (v : Value) : Checked Query :=
  (fun offset distinct => { q with offset, distinct := .bool distinct }) <$>
    (Check.nullable Check.natural v).under "offset"
    <*> (Check.boolean q.distinct).under "distinct"

/-- The value is held as it is, and checked when the page is set. -/
def setDistinct (q : Query) (distinct : Value) : Query := { q with distinct }

end Query

end SelectBuilder
