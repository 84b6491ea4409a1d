import Mathlib.Data.List.Flatten
import Mathlib.Data.List.Nodup
import Mathlib.Data.List.Perm.Subperm
import SelectBuilder.Proofs.Filter.Edits

/-!
# The ids of a filter tree

Conditions and groups of a tree share their ids: what an edit is meant for is looked up among all of
them.  Every edit of the tree is looked at here for what it does to the ids.  Most of them can only
lose some.  An edit of the group with an id is made wherever there is one, so that a new member
would be added several times over; that it is added once (`ids_changeAt_subperm`) takes distinct
ids.
-/

namespace SelectBuilder

namespace ConditionGroup

/-- The ids of all members of a tree. -/
def ids (g : ConditionGroup) : List String := (g.nodes 0).map (·.1.id)

mutual

theorem map_id_nodes (depth : Int) : (g : ConditionGroup) → (g.nodes depth).map (·.1.id) = g.ids
  | ⟨_, _, _, groups⟩ => by
    simp [ids, nodes, Function.comp_def, map_id_nodesOf (depth + 1) groups,
      map_id_nodesOf 1 groups]

theorem map_id_nodesOf (depth : Int) :
    (gs : List ConditionGroup) → (nodesOf depth gs).map (·.1.id) = gs.flatMap ids
  | [] => rfl
  | g :: gs => by
    rw [nodesOf, List.map_append, map_id_nodes depth g, map_id_nodesOf depth gs, List.flatMap_cons]

end

theorem ids_eq (g : ConditionGroup) :
    g.ids = g.id :: (g.conditions.map Condition.id ++ g.groups.flatMap ids) := by
  rw [ids, nodes_eq, List.map_append, map_id_nodesOf]
  simp [ConditionNode.id, Function.comp_def]

theorem id_mem_ids (g : ConditionGroup) : g.id ∈ g.ids := by
  rw [ids_eq]
  exact List.mem_cons_self

theorem ids_congr {g h : ConditionGroup} (hid : g.id = h.id)
    (hconditions : g.conditions.map Condition.id = h.conditions.map Condition.id)
    (hgroups : g.groups.flatMap ids = h.groups.flatMap ids) : g.ids = h.ids := by
  rw [ids_eq g, ids_eq h, hid, hconditions, hgroups]

/-! ## Edits that can only lose ids -/

theorem ids_sublist {g h : ConditionGroup} (hid : g.id = h.id)
    (hconditions : g.conditions.Sublist h.conditions)
    (hgroups : (g.groups.flatMap ids).Sublist (h.groups.flatMap ids)) : g.ids.Sublist h.ids := by
  rw [ids_eq g, ids_eq h, hid]
  exact ((hconditions.map _).append hgroups).cons_cons _

theorem ids_kept_sublist (matched : Condition → Bool) (g : ConditionGroup) :
    (g.kept matched).ids.Sublist g.ids := by
  induction g using inductionOn with
  | step g ih =>
    refine ids_sublist rfl List.filter_sublist ?_
    rw [kept, getD_pruneIn, List.filterMap_eq_flatMap_toList, List.flatMap_assoc]
    refine List.Sublist.flatMap_right _ fun h hh ↦ ?_
    rcases rest_prune matched h with hrest | ⟨hrest, -⟩
    · simpa [hrest] using ih h hh
    · simp [hrest]

theorem ids_rest_prune_sublist (matched : Condition → Bool) (g : ConditionGroup) :
    ((((g.prune matched).rest g).map ids).getD []).Sublist g.ids := by
  obtain hkept | ⟨hnone, -⟩ := rest_prune matched g
  · rw [hkept]
    exact g.ids_kept_sublist matched
  · rw [hnone]
    exact List.nil_sublist _

theorem ids_without_sublist (id : String) (g : ConditionGroup) :
    ((g.without id).getD g).ids.Sublist g.ids := by
  induction g using inductionOn with
  | step g ih =>
    rw [getD_without]
    refine ids_sublist rfl (.refl _) ?_
    rw [List.flatMap_map]
    refine (List.Sublist.flatMap_right _ fun h hh ↦ ?_).trans (List.filter_sublist.flatMap _)
    exact ih h (List.mem_of_mem_filter hh)

/-! ## Changes of conditions -/

theorem ids_mapConditions {f : Condition → Condition} (hf : ∀ c, (f c).id = c.id)
    (g : ConditionGroup) : (g.mapConditions f).ids = g.ids := by
  induction g using inductionOn with
  | step g ih =>
    rw [mapConditions_eq]
    refine ids_congr rfl ?_ ?_
    · rw [List.map_map]
      exact List.map_congr_left fun c _ ↦ hf c
    · rw [List.flatMap_map]
      exact List.flatMap_congr ih

theorem ids_changeConditions (id : String) {change : Condition → Condition}
    (hchange : ∀ c, (change c).id = c.id) (g : ConditionGroup) :
    ((g.changeConditions id change).getD g).ids = g.ids := by
  rw [getD_changeConditions_eq_mapConditions]
  refine ids_mapConditions (fun c ↦ ?_) g
  split
  next => exact hchange c
  next => rfl

/-! ## Changes of groups -/

section ChangeAt

variable (id : String) (change : ConditionGroup → Int → Option ConditionGroup)

/-- Where no member has the id, nothing changes. -/
theorem getD_changeAt_of_not_mem (g : ConditionGroup) (depth : Int) (h : id ∉ g.ids) :
    (g.changeAt id change depth).getD g = g := by
  induction g using inductionOn generalizing depth with
  | step g ih =>
    have hne : g.id ≠ id := fun heq ↦ h (heq ▸ g.id_mem_ids)
    have hgroups : ∀ g' ∈ g.groups, (g'.changeAt id change (depth + 1)).getD g' = g' := by
      intro g' hg'
      refine ih g' hg' _ fun hmem ↦ h ?_
      rw [ids_eq]
      exact List.mem_cons_of_mem _ (List.mem_append_right _ (List.mem_flatMap_of_mem hg' hmem))
    rw [getD_changeAt_of_ne id change depth hne,
      (List.map_congr_left hgroups).trans (List.map_id' _)]
    cases g
    rfl

/-- Of some groups without an id in common, one is changed at most. -/
theorem flatMap_ids_subperm {extra : List String} {f : ConditionGroup → ConditionGroup}
    (gs : List ConditionGroup) (hsame : ∀ g ∈ gs, id ∉ g.ids → f g = g)
    (hchange : ∀ g ∈ gs, (f g).ids.Subperm (extra ++ g.ids)) (hgs : (gs.flatMap ids).Nodup) :
    ((gs.map f).flatMap ids).Subperm (extra ++ gs.flatMap ids) := by
  induction gs with
  | nil => exact List.nil_subperm
  | cons g gs ih =>
    obtain ⟨hsameg, hsame⟩ := List.forall_mem_cons.mp hsame
    obtain ⟨hchangeg, hchange⟩ := List.forall_mem_cons.mp hchange
    rw [List.flatMap_cons, List.nodup_append] at hgs
    obtain ⟨-, hnodup, hdisjoint⟩ := hgs
    rw [List.map_cons, List.flatMap_cons, List.flatMap_cons]
    by_cases hmem : id ∈ g.ids
    · -- The id is that of a member of this group, so it is not found in the others.
      have hrest : gs.map f = gs := by
        refine (List.map_congr_left fun g' hg' ↦ hsame g' hg' fun hmem' ↦ ?_).trans
          (List.map_id' gs)
        exact hdisjoint id hmem id (List.mem_flatMap_of_mem hg' hmem') rfl
      rw [hrest, ← List.append_assoc]
      exact hchangeg.append (.refl _)
    · rw [hsameg hmem]
      refine ((List.Subperm.refl _).append (ih hsame hchange hnodup)).trans ?_
      exact (List.perm_append_comm_assoc _ _ _).subperm

/-- A change of the group with an id adds what it adds to that group, once. -/
theorem ids_changeAt_subperm {extra : List String}
    (hchange : ∀ g depth, ((change g depth).getD g).ids.Subperm (extra ++ g.ids))
    (g : ConditionGroup) (depth : Int) (hg : g.ids.Nodup) :
    ((g.changeAt id change depth).getD g).ids.Subperm (extra ++ g.ids) := by
  induction g using inductionOn generalizing depth with
  | step g ih =>
    by_cases h : g.id = id
    · rw [getD_changeAt_of_eq id change depth h]
      exact hchange g depth
    · rw [getD_changeAt_of_ne id change depth h, ids_eq, ids_eq g]
      have hgroups : (g.groups.flatMap ids).Nodup := by
        rw [ids_eq] at hg
        exact (List.nodup_append.mp hg.of_cons).2.1
      have hsub := flatMap_ids_subperm id g.groups
        (fun g' _ hmem ↦ getD_changeAt_of_not_mem id change g' (depth + 1) hmem)
        (fun g' hg' ↦ ih g' hg' (depth + 1)
          ((List.nodup_flatMap.mp hgroups).1 g' hg')) hgroups
      refine ((List.Subperm.refl (g.id :: g.conditions.map Condition.id)).append hsub).trans ?_
      exact (List.perm_append_comm_assoc _ _ _).subperm

end ChangeAt

/-! ## Edits of one group -/

theorem ids_addCondition (g : ConditionGroup) (c : Condition) :
    (g.addCondition c).ids.Perm (c.id :: g.ids) := by
  rw [ids_eq (g.addCondition c), ids_eq g]
  simp only [addCondition, List.map_append, List.map_cons, List.map_nil]
  grind

theorem ids_addGroup (g new : ConditionGroup) : (g.addGroup new).ids.Perm (new.ids ++ g.ids) := by
  rw [ids_eq (g.addGroup new), ids_eq g]
  simp only [addGroup, List.flatMap_append, List.flatMap_singleton]
  grind

end ConditionGroup

end SelectBuilder
