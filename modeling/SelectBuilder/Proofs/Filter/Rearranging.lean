import SelectBuilder.Proofs.Filter.Height
import SelectBuilder.Proofs.Filter.Undoing

/-!
# Filters in another order

What two filters have in common when one comes from the other by changing places: of conditions, and
of nested groups, within any group at any depth.  They are equally high and have the same
conditions, in an order of their own.

The relation is generated by changes in one group, so there is one case for the group itself and one
for a group inside of another; that it is an equivalence makes one direction of an inequality enough
for the height.
-/

namespace SelectBuilder.ConditionGroup

/-- A filter comes from another by changing the places of conditions and of nested groups within
groups. -/
inductive Rearranged : ConditionGroup → ConditionGroup → Prop where
  | refl (g) : Rearranged g g
  | trans {g g' g''} : Rearranged g g' → Rearranged g' g'' → Rearranged g g''
  | members {id connective conditions conditions' groups groups'} :
      conditions.Perm conditions' → groups.Perm groups' →
      Rearranged ⟨id, connective, conditions, groups⟩ ⟨id, connective, conditions', groups'⟩
  | nested {id connective conditions g g'} (before after : List ConditionGroup) :
      Rearranged g g' →
      Rearranged ⟨id, connective, conditions, before ++ g :: after⟩
        ⟨id, connective, conditions, before ++ g' :: after⟩

namespace Rearranged

variable {g g' : ConditionGroup}

theorem symm (h : g.Rearranged g') : g'.Rearranged g := by
  induction h with
  | refl g => exact .refl g
  | trans _ _ ih ih' => exact ih'.trans ih
  | members hconditions hgroups => exact .members hconditions.symm hgroups.symm
  | nested before after _ ih => exact .nested before after ih

theorem height_le (h : g.Rearranged g') : g'.height ≤ g.height := by
  induction h with
  | refl g => exact Nat.le_refl _
  | trans _ _ ih ih' => exact Nat.le_trans ih' ih
  | members _ hgroups =>
    exact height_le_of_forall fun h' hh' ↦ ⟨h', hgroups.mem_iff.mpr hh', Nat.le_refl _⟩
  | @nested _ _ _ g g' before after _ ih =>
    refine height_le_of_forall fun h' hh' ↦ ?_
    rcases List.mem_append.mp hh' with hbefore | hafter
    · exact ⟨h', List.mem_append_left _ hbefore, Nat.le_refl _⟩
    rcases List.mem_cons.mp hafter with rfl | hafter
    · exact ⟨g, List.mem_append_right _ List.mem_cons_self, ih⟩
    · exact ⟨h', List.mem_append_right _ (List.mem_cons_of_mem _ hafter), Nat.le_refl _⟩

theorem height_eq (h : g.Rearranged g') : g.height = g'.height :=
  Nat.le_antisymm h.symm.height_le h.height_le

theorem allConditions_perm (h : g.Rearranged g') : g.allConditions.Perm g'.allConditions := by
  induction h with
  | refl g => exact .refl _
  | trans _ _ ih ih' => exact ih.trans ih'
  | members hconditions hgroups =>
    simp only [allConditions, allConditionsOf_eq_flatMap]
    exact hconditions.append (hgroups.flatMap_right allConditions)
  | nested before after _ ih =>
    simp only [allConditions, allConditionsOf_eq_flatMap, List.flatMap_append, List.flatMap_cons]
    exact ((ih.append_right _).append_left _).append_left _

end Rearranged

end SelectBuilder.ConditionGroup
