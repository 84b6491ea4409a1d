import SelectBuilder.Proofs.Filter.Edits

/-!
# The height of a filter tree

Only nesting a group makes a tree higher, and it does so within the limit or not at all.  Where a
group is changed, its depth counts together with its height, so the statement about a change at any
depth (`height_changeAt_le`) bounds their sum.
-/

namespace SelectBuilder

namespace ConditionGroup

theorem levels_le_iff {gs : List ConditionGroup} {n : Nat} :
    levels gs ≤ n ↔ ∀ g ∈ gs, g.height + 1 ≤ n := by
  induction gs with
  | nil => simp [levels]
  | cons g gs ih => rw [levels, Nat.max_le, ih, List.forall_mem_cons, Nat.add_comm]

theorem height_le_iff {g : ConditionGroup} {n : Nat} :
    g.height ≤ n ↔ ∀ h ∈ g.groups, h.height + 1 ≤ n := by
  rw [height_eq, levels_le_iff]

theorem height_lt_of_mem {g h : ConditionGroup} (hh : h ∈ g.groups) : h.height < g.height :=
  height_le_iff.mp (Nat.le_refl g.height) h hh

theorem height_congr {g h : ConditionGroup} (hgroups : g.groups = h.groups) :
    g.height = h.height := by
  rw [height_eq, height_eq, hgroups]

/-- A group is no higher than another if its nested groups are no higher than some of those. -/
theorem height_le_of_forall {g g' : ConditionGroup}
    (h : ∀ h' ∈ g'.groups, ∃ h ∈ g.groups, h'.height ≤ h.height) : g'.height ≤ g.height := by
  rw [height_le_iff]
  intro h' hh'
  obtain ⟨h₀, hh₀, hle⟩ := h h' hh'
  have := height_lt_of_mem hh₀
  omega

theorem height_kept_le (matched : Condition → Bool) (g : ConditionGroup) :
    (g.kept matched).height ≤ g.height := by
  induction g using inductionOn with
  | step g ih =>
    refine height_le_of_forall fun h' hh' ↦ ?_
    rw [kept, getD_pruneIn] at hh'
    obtain ⟨h, hh, hrest⟩ := List.mem_filterMap.mp hh'
    refine ⟨h, hh, ?_⟩
    rcases rest_prune matched h with hkept | ⟨hnone, -⟩
    · rw [hkept, Option.some.injEq] at hrest
      exact hrest ▸ ih h hh
    · rw [hnone] at hrest
      cases hrest

/-- What is left of a pruned group is no higher than the group was. -/
theorem height_rest_prune_le (matched : Condition → Bool) {g g' : ConditionGroup}
    (h : (g.prune matched).rest g = some g') : g'.height ≤ g.height := by
  obtain hkept | ⟨hnone, -⟩ := rest_prune matched g
  · rw [hkept] at h
    cases h
    exact height_kept_le matched g
  · rw [hnone] at h
    cases h

theorem height_without_le (id : String) (g : ConditionGroup) :
    ((g.without id).getD g).height ≤ g.height := by
  induction g using inductionOn with
  | step g ih =>
    rw [getD_without]
    refine height_le_of_forall fun h' hh' ↦ ?_
    obtain ⟨h, hh, rfl⟩ := List.mem_map.mp hh'
    have hmem := (List.mem_filter.mp hh).1
    exact ⟨h, hmem, ih h hmem⟩

theorem height_changeConditions_le (id : String) (change : Condition → Condition)
    (g : ConditionGroup) : ((g.changeConditions id change).getD g).height ≤ g.height := by
  induction g using inductionOn with
  | step g ih =>
    rw [getD_changeConditions]
    refine height_le_of_forall fun h' hh' ↦ ?_
    obtain ⟨h, hh, rfl⟩ := List.mem_map.mp hh'
    exact ⟨h, hh, ih h hh⟩

/-- A change that keeps to the limit at the group that it changes keeps to it in the tree. -/
theorem height_changeAt_le (id : String) (change : ConditionGroup → Int → Option ConditionGroup)
    {limit : Int}
    (hchange : ∀ g depth, depth + ((change g depth).getD g).height ≤ max (depth + g.height) limit)
    (g : ConditionGroup) (depth : Int) :
    depth + ((g.changeAt id change depth).getD g).height ≤ max (depth + g.height) limit := by
  induction g using inductionOn generalizing depth with
  | step g ih =>
    by_cases h : g.id = id
    · rw [getD_changeAt_of_eq id change depth h]
      exact hchange g depth
    · rw [getD_changeAt_of_ne id change depth h]
      have hle : ConditionGroup.height
          { g with groups := g.groups.map fun g ↦ (g.changeAt id change (depth + 1)).getD g } ≤
          (max (depth + g.height) limit - depth).toNat := by
        rw [height_le_iff]
        intro h' hh'
        obtain ⟨h₀, hh₀, rfl⟩ := List.mem_map.mp hh'
        have := ih h₀ hh₀ (depth + 1)
        have := height_lt_of_mem hh₀
        omega
      omega

theorem height_addGroup (g new : ConditionGroup) :
    (g.addGroup new).height = max g.height (new.height + 1) := by
  rw [height_eq, height_eq g, addGroup]
  induction g.groups with
  | nil => simp [levels, Nat.add_comm]
  | cons h hs ih => rw [List.cons_append, levels, ih, levels, Nat.max_assoc]

/-- Where a group is nested, it keeps to the limit. -/
theorem height_nested_le (g new : ConditionGroup) (depth limit : Int) :
    depth + ((if (DepthLimit.depth limit).excludes (depth + (1 + new.height)) then none
      else some (g.addGroup new)).getD g).height ≤ max (depth + g.height) limit := by
  split
  next => exact Int.le_max_left _ _
  next hin =>
    simp only [DepthLimit.excludes_depth] at hin
    rw [Option.getD_some, height_addGroup]
    omega

end ConditionGroup

end SelectBuilder
