import SelectBuilder.Query.Condition.Edit

/-!
# What the edits of a filter leave

An edit that has nothing to do in a tree answers so, and then hands back the very tree, and it does
the same for the sibling groups on every level.  What the tree is after the edit does not depend on
where this happens.  There is one lemma for every edit here which says what a group is after it, in
terms of its nested groups after it; all that is said of an edit at any depth goes by induction over
the tree with it.
-/

namespace SelectBuilder

/-- A list is as it was if all items are. -/
theorem map_eq_self {α : Type} {f : α → α} {l : List α} (h : ∀ a ∈ l, f a = a) : l.map f = l :=
  (List.map_congr_left h).trans (List.map_id' l)

namespace ConditionGroup

/-- What holds of a group if it holds of its nested groups holds of every group. -/
theorem inductionOn {motive : ConditionGroup → Prop}
    (step : ∀ g : ConditionGroup, (∀ h ∈ g.groups, motive h) → motive g) (g : ConditionGroup) :
    motive g :=
  step g fun h _ ↦ inductionOn step h
termination_by sizeOf g
decreasing_by
  have hlt := List.sizeOf_lt_of_mem ‹h ∈ g.groups›
  cases g
  simp only [mk.sizeOf_spec] at hlt ⊢
  omega

section ChangeAt

variable (id : String) (change : ConditionGroup → Int → Option ConditionGroup) (depth : Int)

theorem getD_changeIn (gs : List ConditionGroup) :
    (changeIn id change depth gs).getD gs = gs.map fun g ↦ (g.changeAt id change depth).getD g := by
  induction gs with
  | nil => rfl
  | cons g gs ih =>
    rw [changeIn, List.map_cons, ← ih]
    cases changeAt id change depth g <;> cases changeIn id change depth gs <;> rfl

theorem getD_changeAt_of_eq {g : ConditionGroup} (h : g.id = id) :
    (g.changeAt id change depth).getD g = (change g depth).getD g := by
  obtain ⟨own, connective, conditions, groups⟩ := g
  rw [changeAt, if_pos h]

theorem getD_changeAt_of_ne {g : ConditionGroup} (h : g.id ≠ id) :
    (g.changeAt id change depth).getD g =
      { g with groups := g.groups.map fun g ↦ (g.changeAt id change (depth + 1)).getD g } := by
  obtain ⟨own, connective, conditions, groups⟩ := g
  rw [changeAt, if_neg h, ← getD_changeIn]
  cases changeIn id change (depth + 1) groups <;> rfl

end ChangeAt

section Without

variable (id : String)

theorem getD_withoutIn (gs : List ConditionGroup) :
    (withoutIn id gs).getD gs = (gs.filter (·.id ≠ id)).map fun g ↦ (g.without id).getD g := by
  induction gs with
  | nil => rfl
  | cons g gs ih =>
    by_cases h : g.id = id
    · rw [List.filter_cons_of_neg (by simpa using h), ← ih, withoutIn, if_pos h]
      rfl
    · rw [List.filter_cons_of_pos (by simpa using h), List.map_cons, ← ih, withoutIn, if_neg h]
      cases without id g <;> cases withoutIn id gs <;> rfl

theorem getD_without (g : ConditionGroup) :
    (g.without id).getD g =
      { g with groups := (g.groups.filter (·.id ≠ id)).map fun g ↦ (g.without id).getD g } := by
  obtain ⟨own, connective, conditions, groups⟩ := g
  rw [without, ← getD_withoutIn]
  cases withoutIn id groups <;> rfl

end Without

section MapConditions

mutual

/-- The tree with its conditions changed, on every level. -/
def mapConditions (f : Condition → Condition) : ConditionGroup → ConditionGroup
  | ⟨id, connective, conditions, groups⟩ =>
    ⟨id, connective, conditions.map f, mapConditionsIn f groups⟩

def mapConditionsIn (f : Condition → Condition) : List ConditionGroup → List ConditionGroup
  | [] => []
  | g :: gs => mapConditions f g :: mapConditionsIn f gs

end

variable (f f' : Condition → Condition)

theorem mapConditionsIn_eq (gs : List ConditionGroup) :
    mapConditionsIn f gs = gs.map (mapConditions f) := by
  induction gs with
  | nil => rfl
  | cons g gs ih => rw [mapConditionsIn, ih, List.map_cons]

theorem mapConditions_eq (g : ConditionGroup) :
    g.mapConditions f =
      { g with conditions := g.conditions.map f, groups := g.groups.map (mapConditions f) } := by
  cases g
  rw [mapConditions, mapConditionsIn_eq]

theorem mapConditions_id (g : ConditionGroup) : g.mapConditions (fun c ↦ c) = g := by
  induction g using inductionOn with
  | step g ih =>
    rw [mapConditions_eq, map_eq_self ih, List.map_id']
    cases g
    rfl

theorem mapConditions_mapConditions (g : ConditionGroup) :
    (g.mapConditions f).mapConditions f' = g.mapConditions (f' ∘ f) := by
  induction g using inductionOn with
  | step g ih =>
    simp only [mapConditions_eq, List.map_map, mk.injEq, true_and]
    exact List.map_congr_left ih

end MapConditions

section ChangeConditions

variable (id : String) (change : Condition → Condition)

theorem getD_changeConditionsIn (gs : List ConditionGroup) :
    (changeConditionsIn id change gs).getD gs =
      gs.map fun g ↦ (g.changeConditions id change).getD g := by
  induction gs with
  | nil => rfl
  | cons g gs ih =>
    rw [changeConditionsIn, List.map_cons, ← ih]
    cases changeConditions id change g <;> cases changeConditionsIn id change gs <;> rfl

theorem getD_changeConditions (g : ConditionGroup) :
    (g.changeConditions id change).getD g =
      { g with
        conditions := g.conditions.map fun c ↦ if c.id = id then change c else c
        groups := g.groups.map fun g ↦ (g.changeConditions id change).getD g } := by
  obtain ⟨own, connective, conditions, groups⟩ := g
  rw [← getD_changeConditionsIn, changeConditions]
  split
  next hconditions hgroups =>
    rw [List.any_eq_false] at hconditions
    have hsame : (conditions.map fun c ↦ if c.id = id then change c else c) = conditions :=
      (List.map_congr_left fun c hc ↦ if_neg (by simpa using hconditions c hc)).trans
        (List.map_id' conditions)
    simp only [hsame, hgroups]
    rfl
  next => rfl

/-- To change the conditions with an id is to change all conditions, the others by nothing. -/
theorem getD_changeConditions_eq_mapConditions (g : ConditionGroup) :
    (g.changeConditions id change).getD g =
      g.mapConditions fun c ↦ if c.id = id then change c else c := by
  induction g using inductionOn with
  | step g ih =>
    rw [getD_changeConditions, mapConditions_eq, mk.injEq]
    exact ⟨rfl, rfl, rfl, List.map_congr_left ih⟩

end ChangeConditions

section Prune

variable (matched : Condition → Bool)

/-- What is left in a group, were it to stay. -/
def kept (g : ConditionGroup) : ConditionGroup :=
  { g with
    conditions := g.conditions.filter (!matched ·)
    groups := (pruneIn matched g.groups).getD g.groups }

theorem kept_eq_self {g : ConditionGroup} (hconditions : g.conditions.any matched = false)
    (hgroups : pruneIn matched g.groups = none) : g.kept matched = g := by
  have hfilter : g.conditions.filter (!matched ·) = g.conditions := by
    rw [List.filter_eq_self]
    simpa using hconditions
  rw [kept, hfilter, hgroups]
  cases g
  rfl

theorem prune_eq (g : ConditionGroup) :
    g.prune matched =
      if g.conditions.any matched = false ∧ pruneIn matched g.groups = none then .untouched
      else if (g.kept matched).isEmpty then .emptied else .trimmed (g.kept matched) := by
  obtain ⟨id, connective, conditions, groups⟩ := g
  rw [prune]
  split
  next hconditions hgroups => exact (if_pos ⟨hconditions, hgroups⟩).symm
  next h => exact (if_neg fun h' ↦ h h'.1 h'.2).symm

/-- A group either stays with what is left in it, or nothing is left in it. -/
theorem rest_prune (g : ConditionGroup) :
    (g.prune matched).rest g = some (g.kept matched) ∨
      (g.prune matched).rest g = none ∧ (g.kept matched).isEmpty := by
  rw [prune_eq]
  split
  next h =>
    rw [kept_eq_self matched h.1 h.2]
    exact .inl rfl
  next =>
    split
    next hempty => exact .inr ⟨rfl, hempty⟩
    next => exact .inl rfl

/-- Of sibling groups, those stay of which something is left. -/
theorem getD_pruneIn (gs : List ConditionGroup) :
    (pruneIn matched gs).getD gs = gs.filterMap fun g ↦ (g.prune matched).rest g := by
  induction gs with
  | nil => rfl
  | cons g gs ih =>
    rw [pruneIn, List.filterMap_cons, ← ih]
    cases prune matched g <;> cases pruneIn matched gs <;> rfl

end Prune

end ConditionGroup

end SelectBuilder
