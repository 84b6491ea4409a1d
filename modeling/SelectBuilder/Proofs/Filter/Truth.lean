import SelectBuilder.Query.Condition

/-!
# What a filter means

A condition of a filter is true, false or unknown of a row, and a group combines its members by its
connective.  A group without a condition at any depth has no value of its own: it is left out by
the group around it, so that an empty group neither admits nor refuses rows.
-/

namespace SelectBuilder

/-- The truth values of SQL. -/
inductive Truth where
  | false
  | unknown
  | true
deriving DecidableEq, Repr

namespace Truth

/-- False wins over unknown, and unknown over true. -/
def and : Truth → Truth → Truth
  | .false, _ => .false
  | .unknown, .false => .false
  | .unknown, _ => .unknown
  | .true, t => t

/-- True wins over unknown, and unknown over false. -/
def or : Truth → Truth → Truth
  | .true, _ => .true
  | .unknown, .true => .true
  | .unknown, _ => .unknown
  | .false, t => t

end Truth

namespace Connective

/-- The value of two members. -/
def apply : Connective → Truth → Truth → Truth
  | .and => Truth.and
  | .or => Truth.or

/-- The value of some members, if there are any. -/
def combine? (k : Connective) : List Truth → Option Truth
  | [] => none
  | t :: ts => some (ts.foldl k.apply t)

theorem combine?_eq_none_iff {k : Connective} {ts : List Truth} :
    k.combine? ts = none ↔ ts = [] := by
  cases ts <;> simp [combine?]

end Connective

namespace ConditionGroup

mutual

/-- The value of a group: that of its members that have one. -/
def value? (truth : Condition → Truth) : ConditionGroup → Option Truth
  | ⟨_, connective, conditions, groups⟩ =>
    connective.combine? (conditions.map truth ++ valuesOf truth groups)

/-- The values of the groups that have one. -/
def valuesOf (truth : Condition → Truth) : List ConditionGroup → List Truth
  | [] => []
  | g :: gs => (value? truth g).toList ++ valuesOf truth gs

end

theorem value?_eq (truth : Condition → Truth) (g : ConditionGroup) :
    g.value? truth =
      g.connective.combine? (g.conditions.map truth ++ valuesOf truth g.groups) := by
  cases g
  rfl

mutual

/-- A group has no value just when there is no condition in it at any depth. -/
theorem value?_eq_none_iff (truth : Condition → Truth) :
    (g : ConditionGroup) → (g.value? truth = none ↔ g.allConditions = [])
  | ⟨_, _, conditions, groups⟩ => by
    simp only [value?, allConditions, Connective.combine?_eq_none_iff, List.append_eq_nil_iff,
      List.map_eq_nil_iff, valuesOf_eq_nil_iff truth groups]

theorem valuesOf_eq_nil_iff (truth : Condition → Truth) :
    (gs : List ConditionGroup) → (valuesOf truth gs = [] ↔ allConditionsOf gs = [])
  | [] => by simp [valuesOf, allConditionsOf]
  | g :: gs => by
    simp only [valuesOf, allConditionsOf, List.append_eq_nil_iff, Option.toList_eq_nil_iff,
      value?_eq_none_iff truth g, valuesOf_eq_nil_iff truth gs]

end

end ConditionGroup

end SelectBuilder
