import SelectBuilder.Proofs.Filter.Edits

/-!
# Pruning the filter

Pruning takes out the conditions that match, and with them the groups that are emptied by it.  In
the order in which a tree is gone through, what is left of its conditions is simply those that do
not match, since a group that goes has none of them.

A group that is emptied goes, and takes with it the group around it if that is empty then; but one
that was empty before stays.  `rest_prune_eq` puts this into one condition on the group, which holds
at every level alike: something in the group matches, and nothing is left in it.
-/

namespace SelectBuilder

namespace ConditionGroup

theorem isEmpty_iff {g : ConditionGroup} : g.isEmpty ↔ g.conditions = [] ∧ g.groups = [] := by
  simp [isEmpty]

theorem allConditions_of_isEmpty {g : ConditionGroup} (h : g.isEmpty) : g.allConditions = [] := by
  obtain ⟨hconditions, hgroups⟩ := isEmpty_iff.mp h
  rw [allConditions_eq, hconditions, hgroups]
  rfl

variable (matched : Condition → Bool)

mutual

/-- Nothing is taken out where nothing matches. -/
theorem prune_eq_untouched : (g : ConditionGroup) →
    (∀ c ∈ g.allConditions, matched c = false) → g.prune matched = .untouched
  | ⟨_, _, conditions, groups⟩, h => by
    rw [allConditions, List.forall_mem_append] at h
    rw [prune_eq, if_pos ⟨by simpa using h.1, pruneIn_eq_none groups h.2⟩]

theorem pruneIn_eq_none : (gs : List ConditionGroup) →
    (∀ c ∈ allConditionsOf gs, matched c = false) → pruneIn matched gs = none
  | [], _ => rfl
  | g :: gs, h => by
    rw [allConditionsOf, List.forall_mem_append] at h
    rw [pruneIn, prune_eq_untouched g h.1, pruneIn_eq_none gs h.2]

end

mutual

/-- The conditions that are left are those that do not match, in their order. -/
theorem allConditions_kept : (g : ConditionGroup) →
    (g.kept matched).allConditions = g.allConditions.filter (!matched ·)
  | ⟨_, _, conditions, groups⟩ => by
    rw [kept, allConditions, allConditions, List.filter_append, getD_pruneIn,
      allConditionsOf_filterMap_rest groups]

theorem allConditionsOf_filterMap_rest : (gs : List ConditionGroup) →
    allConditionsOf (gs.filterMap fun g ↦ (g.prune matched).rest g) =
      (allConditionsOf gs).filter (!matched ·)
  | [] => rfl
  | g :: gs => by
    rw [allConditionsOf, List.filter_append, ← allConditions_kept g,
      ← allConditionsOf_filterMap_rest gs, List.filterMap_cons]
    rcases rest_prune matched g with h | ⟨h, hempty⟩
    · rw [h]
      rfl
    · rw [h, allConditions_of_isEmpty hempty]
      rfl

end

theorem allConditions_rest_prune (g : ConditionGroup) :
    (((g.prune matched).rest g).map allConditions).getD [] =
      g.allConditions.filter (!matched ·) := by
  rw [← allConditions_kept]
  rcases rest_prune matched g with h | ⟨h, hempty⟩
  · rw [h]
    rfl
  · rw [h, allConditions_of_isEmpty hempty]
    rfl

/-! ## When a group goes -/

/-- Nothing is taken out just where nothing matches. -/
theorem untouched_iff (g : ConditionGroup) :
    g.conditions.any matched = false ∧ pruneIn matched g.groups = none ↔
      ∀ c ∈ g.allConditions, matched c = false := by
  rw [allConditions_eq, List.forall_mem_append, List.any_eq_false]
  refine and_congr (by simp) ⟨fun h ↦ ?_, pruneIn_eq_none matched g.groups⟩
  -- What is left of the nested groups is all of them, so no condition of theirs matches.
  have hrest := allConditionsOf_filterMap_rest matched g.groups
  rw [← getD_pruneIn, h, Option.getD_none, eq_comm, List.filter_eq_self] at hrest
  simpa using hrest

/-- A group goes if something in it matches and nothing is left in it, and stays otherwise. -/
theorem rest_prune_eq (g : ConditionGroup) :
    (g.prune matched).rest g =
      if g.allConditions.any matched ∧ (g.kept matched).isEmpty then none
      else some (g.kept matched) := by
  have hiff := g.untouched_iff matched
  rw [prune_eq]
  by_cases h : ∀ c ∈ g.allConditions, matched c = false
  · have hany : ¬ g.allConditions.any matched := by simpa using h
    obtain ⟨hconditions, hgroups⟩ := hiff.mpr h
    rw [if_pos ⟨hconditions, hgroups⟩, if_neg (fun h' ↦ hany h'.1),
      kept_eq_self matched hconditions hgroups]
    rfl
  · have hany : g.allConditions.any matched := by simpa using h
    rw [if_neg (mt hiff.mp h)]
    by_cases hempty : (g.kept matched).isEmpty
    · rw [if_pos hempty, if_pos ⟨hany, hempty⟩]
      rfl
    · rw [if_neg hempty, if_neg fun h' ↦ hempty h'.2]
      rfl

theorem kept_eq (g : ConditionGroup) :
    g.kept matched =
      { g with
        conditions := g.conditions.filter (!matched ·)
        groups := g.groups.filterMap fun g ↦ (g.prune matched).rest g } := by
  rw [kept, getD_pruneIn]

theorem kept_of_forall {g : ConditionGroup} (h : ∀ c ∈ g.allConditions, matched c = false) :
    g.kept matched = g :=
  kept_eq_self matched ((untouched_iff matched g).mpr h).1 ((untouched_iff matched g).mpr h).2

end ConditionGroup

end SelectBuilder
