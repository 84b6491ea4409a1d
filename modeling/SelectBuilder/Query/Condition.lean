import SelectBuilder.Query.DepthLimit
import SelectBuilder.Query.Vocabulary

/-! # Filter conditions

The filter of a query is a tree: a group combines conditions and nested groups with one
connective. A group's conditions come before its nested groups, and every traversal visits a
group before what it holds. The root has depth zero. Ids are not assumed to be distinct; what is
looked up by id is the first of that order.
-/

namespace SelectBuilder

/-- A column, by the alias of its table and its name. -/
structure ColumnRef where
  table : String
  column : String
deriving DecidableEq, Repr, Inhabited

/-- The column as it is named in messages. -/
def ColumnRef.dotted (r : ColumnRef) : String := r.table ++ "." ++ r.column

/-- One condition. A list operator takes `values`, or `value` if there are none; a range runs
from `value` to `upper`; the null tests take no value, and all other operators take `value`. -/
structure Condition where
  id : String
  subject : ColumnRef
  operator : Operator := .compare .equal
  value : Value := .null
  upper : Value := .null
  values : List Value := []
deriving Repr, Inhabited

structure ConditionGroup where
  id : String
  connective : Connective := .and
  conditions : List Condition := []
  groups : List ConditionGroup := []
deriving Repr, Inhabited

/-- A member of the tree. -/
inductive ConditionNode where
  | condition (c : Condition)
  | group (g : ConditionGroup)
deriving Repr

namespace ConditionNode

/-- The tag that tells the two kinds of members apart. -/
def kind : ConditionNode → String
  | .condition _ => "condition"
  | .group _ => "group"

def id : ConditionNode → String
  | .condition c => c.id
  | .group g => g.id

end ConditionNode

namespace ConditionGroup

def isEmpty (g : ConditionGroup) : Bool := g.conditions.isEmpty && g.groups.isEmpty

/-- The direct members, in the order in which they are written. -/
def children (g : ConditionGroup) : List ConditionNode :=
  g.conditions.map .condition ++ g.groups.map .group

mutual

/-- All members with their depths, that of the group itself being given. -/
def nodes (depth : Int) : ConditionGroup → List (ConditionNode × Int)
  | ⟨id, connective, conditions, groups⟩ =>
    (.group ⟨id, connective, conditions, groups⟩, depth) ::
      conditions.map (fun c => (.condition c, depth)) ++ nodesOf (depth + 1) groups

def nodesOf (depth : Int) : List ConditionGroup → List (ConditionNode × Int)
  | [] => []
  | g :: gs => nodes depth g ++ nodesOf depth gs

end

mutual

/-- All conditions of the tree. -/
def allConditions : ConditionGroup → List Condition
  | ⟨_, _, conditions, groups⟩ => conditions ++ allConditionsOf groups

def allConditionsOf : List ConditionGroup → List Condition
  | [] => []
  | g :: gs => allConditions g ++ allConditionsOf gs

end

mutual

/-- The first group with an id, and its depth. -/
def locate (id : String) (depth : Nat) : ConditionGroup → Option (ConditionGroup × Nat)
  | ⟨own, connective, conditions, groups⟩ =>
    if own = id then some (⟨own, connective, conditions, groups⟩, depth)
    else locateIn id (depth + 1) groups

def locateIn (id : String) (depth : Nat) : List ConditionGroup → Option (ConditionGroup × Nat)
  | [] => none
  | g :: gs => (locate id depth g).or (locateIn id depth gs)

end

def find? (g : ConditionGroup) (id : String) : Option ConditionGroup := (g.locate id 0).map (·.1)

def depth? (g : ConditionGroup) (id : String) : Option Nat := (g.locate id 0).map (·.2)

mutual

/-- The number of levels nested below a group. -/
def height : ConditionGroup → Nat
  | ⟨_, _, _, groups⟩ => levels groups

/-- The number of levels that some sibling groups and all below them make up. -/
def levels : List ConditionGroup → Nat
  | [] => 0
  | g :: gs => max (1 + height g) (levels gs)

end

/-- Whether a group without nested groups may be added to the group with an id. -/
def canNest (g : ConditionGroup) (id : String) (limit : DepthLimit) : Bool :=
  match g.depth? id with
  | none => false
  | some depth => limit.admits (depth + 1)

/-! The same functions by the fields of a group. -/

theorem nodes_eq (depth : Int) (g : ConditionGroup) :
    g.nodes depth = (.group g, depth) ::
      g.conditions.map (fun c => (.condition c, depth)) ++ nodesOf (depth + 1) g.groups := by
  cases g; rfl

theorem allConditions_eq (g : ConditionGroup) :
    g.allConditions = g.conditions ++ allConditionsOf g.groups := by
  cases g; rfl

theorem height_eq (g : ConditionGroup) : g.height = levels g.groups := by
  cases g; rfl

end ConditionGroup

end SelectBuilder
