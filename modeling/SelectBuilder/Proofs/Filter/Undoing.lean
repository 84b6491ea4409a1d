import Mathlib.Data.List.Flatten
import Mathlib.Data.List.Nodup
import SelectBuilder.Proofs.Filter.Pruning

/-!
# Undoing what was added to a filter

A condition or a group that is added to the groups with an id is taken out again, wherever that was,
by removing what has its id, if nothing else in the tree has it.

The two removals differ in what they leave of a group.  Removing a nested group takes nothing else
with it, so that it always undoes the addition.  Removing a condition takes with it a group that it
empties, so it does not bring back a group that was empty before the condition was added; every
other group, and all groups around it, have something in them and stay.
-/

namespace SelectBuilder

section Append

variable {α β : Type} {l : List α} {a : α}

/-- An item at the end is taken out again by what does not let it pass. -/
theorem filter_append_of_neg {p : α → Bool} (h : ¬ p a) : (l ++ [a]).filter p = l.filter p := by
  rw [List.filter_append, List.filter_cons_of_neg h, List.filter_nil, List.append_nil]

theorem filter_ne_append [DecidableEq β] {f : α → β} (h : f a ∉ l.map f) :
    (l ++ [a]).filter (f · ≠ f a) = l := by
  rw [filter_append_of_neg (by simp), List.filter_eq_self]
  exact fun b hb ↦ decide_eq_true fun heq ↦ h (heq ▸ List.mem_map_of_mem hb)

end Append

namespace ConditionNode

/-- The group that a member of the tree is, if it is one. -/
def group? : ConditionNode → Option ConditionGroup
  | .group g => some g
  | .condition _ => none

@[simp] theorem group?_group (g : ConditionGroup) : (group g).group? = some g := rfl

@[simp] theorem group?_condition (c : Condition) : (condition c).group? = none := rfl

end ConditionNode

namespace ConditionGroup

/-! ## The groups of a tree -/

/-- All groups of a tree, itself first. -/
def allGroups (g : ConditionGroup) : List ConditionGroup := (g.nodes 0).filterMap (·.1.group?)

mutual

theorem filterMap_group?_nodes (depth : Int) : (g : ConditionGroup) →
    (g.nodes depth).filterMap (·.1.group?) = g.allGroups
  | ⟨_, _, _, groups⟩ => by
    simp [allGroups, nodes, List.filterMap_map, Function.comp_def,
      filterMap_group?_nodesOf (depth + 1) groups, filterMap_group?_nodesOf 1 groups]

theorem filterMap_group?_nodesOf (depth : Int) : (gs : List ConditionGroup) →
    (nodesOf depth gs).filterMap (·.1.group?) = gs.flatMap allGroups
  | [] => rfl
  | g :: gs => by
    rw [nodesOf, List.filterMap_append, filterMap_group?_nodes depth g,
      filterMap_group?_nodesOf depth gs, List.flatMap_cons]

end

theorem allGroups_eq (g : ConditionGroup) : g.allGroups = g :: g.groups.flatMap allGroups := by
  rw [allGroups, nodes_eq, List.filterMap_append, filterMap_group?_nodesOf]
  simp [List.filterMap_map, Function.comp_def]

/-- What holds of all groups of a tree holds of it and of all groups of the nested groups. -/
theorem forall_mem_allGroups {motive : ConditionGroup → Prop} {g : ConditionGroup} :
    (∀ h ∈ g.allGroups, motive h) ↔
      motive g ∧ ∀ g' ∈ g.groups, ∀ h ∈ g'.allGroups, motive h := by
  rw [allGroups_eq, List.forall_mem_cons, List.forall_mem_flatMap]

mutual

theorem map_fst_locate (id : String) (depth : Nat) : (g : ConditionGroup) →
    (g.locate id depth).map (·.1) = g.allGroups.find? (·.id = id)
  | ⟨own, connective, conditions, groups⟩ => by
    rw [locate, allGroups_eq, List.find?_cons]
    by_cases h : own = id
    · simp [h]
    · simpa [h] using map_fst_locateIn id (depth + 1) groups

theorem map_fst_locateIn (id : String) (depth : Nat) : (gs : List ConditionGroup) →
    (locateIn id depth gs).map (·.1) = (gs.flatMap allGroups).find? (·.id = id)
  | [] => rfl
  | g :: gs => by
    rw [locateIn, List.flatMap_cons, List.find?_append, ← map_fst_locate id depth g,
      ← map_fst_locateIn id depth gs]
    cases locate id depth g <;> rfl

end

theorem find?_eq (g : ConditionGroup) (id : String) :
    g.find? id = g.allGroups.find? (·.id = id) :=
  map_fst_locate id 0 g

/-- Where no two groups share an id, the group that is found is the only one with the id. -/
theorem find?_eq_some_of_mem {g h : ConditionGroup} (hids : (g.allGroups.map id).Nodup)
    (hmem : h ∈ g.allGroups) : g.find? h.id = some h := by
  cases hfind : g.find? h.id with
  | none =>
    rw [find?_eq, List.find?_eq_none] at hfind
    exact absurd (decide_eq_true rfl) (hfind h hmem)
  | some h' =>
    rw [find?_eq] at hfind
    have hid : h'.id = h.id := by simpa using List.find?_some hfind
    rw [List.inj_on_of_nodup_map hids (List.mem_of_find?_eq_some hfind) hmem hid]

/-! ## Nested groups -/

section Group

variable {i : String}

/-- A tree without the nested groups with an id. -/
def removing (i : String) (g : ConditionGroup) : ConditionGroup := (g.without i).getD g

theorem removing_eq (i : String) (g : ConditionGroup) :
    g.removing i =
      { g with groups := (g.groups.filter (·.id ≠ i)).map (removing i) } :=
  getD_without i g

theorem removing_of_forall {g : ConditionGroup} (h : ∀ g' ∈ g.allGroups, g'.id ≠ i) :
    g.removing i = g := by
  induction g using inductionOn with
  | step g ih =>
    obtain ⟨-, hgroups⟩ := forall_mem_allGroups.mp h
    have hstay : g.groups.filter (·.id ≠ i) = g.groups :=
      List.filter_eq_self.mpr fun g' hg' ↦
        decide_eq_true (forall_mem_allGroups.mp (hgroups g' hg')).1
    have hsame : g.groups.map (removing i) = g.groups :=
      map_eq_self fun g' hg' ↦ ih g' hg' (hgroups g' hg')
    rw [removing_eq, hstay, hsame]
    cases g
    rfl

/-- A tree after a change of the groups with an id, the depth of the tree being given. -/
def changedAt (target : String) (change : ConditionGroup → Int → Option ConditionGroup)
    (depth : Int) (g : ConditionGroup) : ConditionGroup :=
  (g.changeAt target change depth).getD g

variable {target : String} {change : ConditionGroup → Int → Option ConditionGroup} {depth : Int}

theorem changedAt_of_eq {g : ConditionGroup} (h : g.id = target) :
    g.changedAt target change depth = (change g depth).getD g :=
  getD_changeAt_of_eq target change depth h

theorem changedAt_of_ne {g : ConditionGroup} (h : g.id ≠ target) :
    g.changedAt target change depth =
      { g with groups := g.groups.map (changedAt target change (depth + 1)) } :=
  getD_changeAt_of_ne target change depth h

theorem id_changedAt (hchange : ∀ g depth, ((change g depth).getD g).id = g.id)
    (g : ConditionGroup) : (g.changedAt target change depth).id = g.id := by
  by_cases h : g.id = target
  · rw [changedAt_of_eq h]
    exact hchange g depth
  · rw [changedAt_of_ne h]

/-- A group that is nested in some of the groups is removed from all of them. -/
theorem removing_changedAt {new : ConditionGroup} (target : String)
    (change : ConditionGroup → Int → Option ConditionGroup)
    (hchange : ∀ g depth, (change g depth).getD g = g ∨ (change g depth).getD g = g.addGroup new)
    (g : ConditionGroup) (depth : Int) (h : ∀ g' ∈ g.allGroups, g'.id ≠ new.id) :
    (g.changedAt target change depth).removing new.id = g := by
  induction g using inductionOn generalizing depth with
  | step g ih =>
    obtain ⟨-, hgroups⟩ := forall_mem_allGroups.mp h
    have hsame := removing_of_forall h
    by_cases htarget : g.id = target
    · rw [changedAt_of_eq htarget]
      rcases hchange g depth with hnone | hsome
      · rw [hnone, hsame]
      · rw [hsome]
        -- The new group is the last one, and the others are as they were.
        rw [removing_eq] at hsame ⊢
        rw [addGroup, filter_append_of_neg (by simp)]
        exact hsame
    · have hid (g' : ConditionGroup) : (g'.changedAt target change (depth + 1)).id = g'.id :=
        id_changedAt (fun g depth ↦ by rcases hchange g depth with h | h <;> rw [h]; rfl) g'
      have hstay : (g.groups.map (changedAt target change (depth + 1))).filter (·.id ≠ new.id) =
          g.groups.map (changedAt target change (depth + 1)) := by
        refine List.filter_eq_self.mpr (List.forall_mem_map.mpr fun g' hg' ↦ ?_)
        rw [hid g']
        exact decide_eq_true (forall_mem_allGroups.mp (hgroups g' hg')).1
      have hback : (g.groups.map (changedAt target change (depth + 1))).map (removing new.id) =
          g.groups := by
        rw [List.map_map]
        exact map_eq_self fun g' hg' ↦ ih g' hg' (depth + 1) (hgroups g' hg')
      rw [changedAt_of_ne htarget, removing_eq, hstay, hback]
      cases g
      rfl

end Group

/-! ## Conditions -/

theorem allConditionsOf_eq_flatMap (gs : List ConditionGroup) :
    allConditionsOf gs = gs.flatMap allConditions := by
  induction gs with
  | nil => rfl
  | cons g gs ih => rw [allConditionsOf, ih, List.flatMap_cons]

theorem forall_mem_allConditions {motive : Condition → Prop} {g : ConditionGroup} :
    (∀ c ∈ g.allConditions, motive c) ↔
      (∀ c ∈ g.conditions, motive c) ∧ ∀ g' ∈ g.groups, ∀ c ∈ g'.allConditions, motive c := by
  rw [allConditions_eq, allConditionsOf_eq_flatMap, List.forall_mem_append, List.forall_mem_flatMap]

/-- A condition that is added to groups with something in them is removed from all of them, and
they stay. -/
theorem rest_prune_changedAt {c : Condition} {target : String} (g : ConditionGroup) (depth : Int)
    (hc : ∀ c' ∈ g.allConditions, c'.id ≠ c.id)
    (hfull : ∀ g' ∈ g.allGroups, g'.id = target → ¬ g'.isEmpty) :
    ((g.changedAt target (fun g _ ↦ some (g.addCondition c)) depth).prune (·.id = c.id)).rest
      (g.changedAt target (fun g _ ↦ some (g.addCondition c)) depth) = some g := by
  induction g using inductionOn generalizing depth with
  | step g ih =>
    obtain ⟨hfullg, hfull⟩ := forall_mem_allGroups.mp hfull
    have hsame := kept_of_forall (·.id = c.id) fun c' hc' ↦ decide_eq_false (hc c' hc')
    by_cases htarget : g.id = target
    · have hkept : (g.addCondition c).kept (·.id = c.id) = g := by
        -- The new condition is the last one, and the others are as they were.
        rw [kept_eq] at hsame ⊢
        rw [addCondition, filter_append_of_neg (by simp)]
        exact hsame
      rw [changedAt_of_eq htarget, Option.getD_some, rest_prune_eq, hkept,
        if_neg fun h ↦ hfullg htarget h.2]
    · obtain ⟨-, hc⟩ := forall_mem_allConditions.mp hc
      have hgroups : (g.groups.map (changedAt target (fun g _ ↦ some (g.addCondition c))
          (depth + 1))).filterMap (fun g ↦ (g.prune (·.id = c.id)).rest g) = g.groups := by
        rw [List.filterMap_map]
        exact (List.filterMap_congr fun g' hg' ↦
          ih g' hg' (depth + 1) (hc g' hg') (hfull g' hg')).trans List.filterMap_some
      have hkept : (g.changedAt target (fun g _ ↦ some (g.addCondition c)) depth).kept
          (·.id = c.id) = g := by
        have hconditions : g.conditions.filter (fun c' ↦ !decide (c'.id = c.id)) = g.conditions :=
          congrArg conditions hsame
        rw [kept_eq, changedAt_of_ne htarget, hgroups]
        simp only [hconditions]
        cases g
        rfl
      rw [rest_prune_eq, hkept, if_neg]
      -- Where nothing is left, nothing was there.
      rintro ⟨hany, hempty⟩
      obtain ⟨hconditions, hgroups⟩ := isEmpty_iff.mp hempty
      rw [changedAt_of_ne htarget, allConditions_eq] at hany
      simp [hconditions, hgroups, allConditionsOf] at hany

end ConditionGroup

end SelectBuilder
