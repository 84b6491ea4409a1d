import SelectBuilder.Proofs.Filter.Undoing

/-!
# Which groups outlive pruning

Pruning decides group by group: a group goes if something was taken out of it and nothing is left.
Seen from outside, a group stays for one of two reasons, which may lie anywhere below it: a
condition that does not match, or a group that was empty before (`survives`).  The two come to the
same (`rest_prune_eq_survives`), and since a reason to stay is also one for every group around it,
those that stay keep their places.

Ids may be repeated in a tree, so a place is told by the groups around it: `lineages` lists every
group of a tree in its order, together with those.
-/

namespace SelectBuilder

namespace ConditionGroup

/-! ## Groups and the groups around them -/

mutual

/-- All groups of a tree, each with the groups around it from the inside out.  Those around the tree
itself are given. -/
def lineages (around : List ConditionGroup) :
    ConditionGroup → List (ConditionGroup × List ConditionGroup)
  | ⟨id, connective, conditions, groups⟩ =>
    (⟨id, connective, conditions, groups⟩, around) ::
      lineagesOf (⟨id, connective, conditions, groups⟩ :: around) groups

def lineagesOf (around : List ConditionGroup) :
    List ConditionGroup → List (ConditionGroup × List ConditionGroup)
  | [] => []
  | g :: gs => lineages around g ++ lineagesOf around gs

end

theorem lineagesOf_eq_flatMap (around gs : List ConditionGroup) :
    lineagesOf around gs = gs.flatMap (lineages around) := by
  induction gs with
  | nil => rfl
  | cons g gs ih => rw [lineagesOf, ih, List.flatMap_cons]

theorem lineages_eq (around : List ConditionGroup) (g : ConditionGroup) :
    g.lineages around = (g, around) :: g.groups.flatMap (lineages (g :: around)) := by
  rw [← lineagesOf_eq_flatMap]
  cases g
  rfl

theorem map_fst_lineages (around : List ConditionGroup) (g : ConditionGroup) :
    (g.lineages around).map Prod.fst = g.allGroups := by
  induction g using inductionOn generalizing around with
  | step g ih =>
    rw [lineages_eq, allGroups_eq, List.map_cons, List.map_flatMap]
    exact congrArg _ (List.flatMap_congr fun h hh ↦ ih h hh _)

/-- A group by itself, without its nested groups. -/
structure Frame where
  id : String
  connective : Connective
  conditions : List Condition

def frame (g : ConditionGroup) : Frame := ⟨g.id, g.connective, g.conditions⟩

/-- A group by itself, with the conditions that do not match. -/
def frameWithout (matched : Condition → Bool) (g : ConditionGroup) : Frame :=
  ⟨g.id, g.connective, g.conditions.filter (!matched ·)⟩

variable (matched : Condition → Bool)

/-! ## Who stays -/

/-- Whether there is a reason for a group to stay: somewhere in it is a condition that does not
match, or an empty group. -/
def survives (g : ConditionGroup) : Bool :=
  g.allConditions.any (!matched ·) || g.allGroups.any isEmpty

theorem survives_eq_false_iff {g : ConditionGroup} :
    g.survives matched = false ↔
      (∀ c ∈ g.allConditions, matched c) ∧ ∀ h ∈ g.allGroups, ¬ h.isEmpty := by
  simp [survives]

/-- A group has no reason to stay if neither itself nor a nested group gives one. -/
theorem survives_eq_false_iff_groups {g : ConditionGroup} :
    g.survives matched = false ↔ (∀ c ∈ g.conditions, matched c) ∧ ¬ g.isEmpty ∧
      ∀ h ∈ g.groups, h.survives matched = false := by
  rw [survives_eq_false_iff, forall_mem_allConditions, forall_mem_allGroups]
  constructor
  · rintro ⟨⟨hconditions, hbelow⟩, hempty, hfull⟩
    exact ⟨hconditions, hempty,
      fun h hh ↦ (survives_eq_false_iff matched).mpr ⟨hbelow h hh, hfull h hh⟩⟩
  · rintro ⟨hconditions, hempty, hgroups⟩
    have hsplit := fun h hh ↦ (survives_eq_false_iff matched).mp (hgroups h hh)
    exact ⟨⟨hconditions, fun h hh ↦ (hsplit h hh).1⟩, hempty, fun h hh ↦ (hsplit h hh).2⟩

/-- A group in a tree without a reason to stay has none either. -/
theorem survives_of_mem_allGroups {g : ConditionGroup} (hg : g.survives matched = false) :
    ∀ h ∈ g.allGroups, h.survives matched = false := by
  induction g using inductionOn with
  | step g ih =>
    obtain ⟨-, -, hgroups⟩ := (survives_eq_false_iff_groups matched).mp hg
    rw [forall_mem_allGroups]
    exact ⟨hg, fun h hh ↦ ih h hh (hgroups h hh)⟩

theorem isEmpty_kept_iff {g : ConditionGroup} :
    (g.kept matched).isEmpty ↔
      (∀ c ∈ g.conditions, matched c) ∧ ∀ h ∈ g.groups, (h.prune matched).rest h = none := by
  rw [isEmpty_iff, kept_eq]
  simp [List.filter_eq_nil_iff, List.filterMap_eq_nil_iff]

/-- A group is emptied just if there is no reason for it to stay, as long as this is so of its
nested groups. -/
theorem emptied_iff_not_survives {g : ConditionGroup}
    (hnested : ∀ h ∈ g.groups, (h.prune matched).rest h = none ↔ h.survives matched = false) :
    (g.allConditions.any matched ∧ (g.kept matched).isEmpty) ↔ g.survives matched = false := by
  rw [isEmpty_kept_iff, survives_eq_false_iff_groups]
  constructor
  · rintro ⟨hany, hconditions, hgroups⟩
    refine ⟨hconditions, ?_, fun h hh ↦ (hnested h hh).mp (hgroups h hh)⟩
    -- Something was taken out, so the group was not empty.
    intro hempty
    rw [allConditions_of_isEmpty hempty] at hany
    cases hany
  · rintro ⟨hconditions, hempty, hgroups⟩
    have hgone : ∀ h ∈ g.groups, (h.prune matched).rest h = none :=
      fun h hh ↦ (hnested h hh).mpr (hgroups h hh)
    refine ⟨?_, hconditions, hgone⟩
    -- Were nothing taken out, what is left would be the group as it was.
    by_contra hany
    have hsame := kept_of_forall matched (g := g) (by simpa using hany)
    have hleft := (isEmpty_kept_iff matched (g := g)).mpr ⟨hconditions, hgone⟩
    exact hempty (hsame ▸ hleft)

/-- A group goes just if there is no reason for it to stay, and otherwise stays with what is left
in it. -/
theorem rest_prune_eq_survives (g : ConditionGroup) :
    (g.prune matched).rest g = if g.survives matched then some (g.kept matched) else none := by
  induction g using inductionOn with
  | step g ih =>
    have hgone := emptied_iff_not_survives matched (g := g) fun h hh ↦ by
      rw [ih h hh]
      cases h.survives matched <;> simp
    rw [rest_prune_eq]
    by_cases h : g.survives matched
    · rw [if_neg (by rw [hgone, h]; simp), if_pos h]
    · rw [if_pos (hgone.mpr (by simpa using h)), if_neg h]

/-! ## The places of those that stay -/

/-- The groups of what is left, wherever the tree stands, are those that have a reason to stay, each
in its place and with the conditions that do not match. -/
theorem lineages_rest_prune (g : ConditionGroup) {around around' : List ConditionGroup}
    (haround : around'.map frame = around.map (frameWithout matched)) :
    (((g.prune matched).rest g).toList.flatMap (lineages around')).map
        (fun l ↦ (l.1.frame, l.2.map frame)) =
      ((g.lineages around).filter fun l ↦ l.1.survives matched).map
        (fun l ↦ (l.1.frameWithout matched, l.2.map (frameWithout matched))) := by
  induction g using inductionOn generalizing around around' with
  | step g ih =>
    by_cases h : g.survives matched
    · have hnested : (g.kept matched :: around').map frame =
          (g :: around).map (frameWithout matched) := by
        rw [List.map_cons, List.map_cons, haround]
        rfl
      rw [rest_prune_eq_survives, if_pos h, Option.toList_some, List.flatMap_singleton, lineages_eq,
        lineages_eq, List.filter_cons_of_pos (by exact h), List.map_cons, List.map_cons, haround]
      refine congrArg _ ?_
      rw [kept_eq, List.filterMap_eq_flatMap_toList, List.flatMap_assoc, List.map_flatMap,
        List.filter_flatMap, List.map_flatMap]
      exact List.flatMap_congr fun h hh ↦ ih h hh hnested
    · have hnone : (g.lineages around).filter (fun l ↦ l.1.survives matched) = [] := by
        rw [List.filter_eq_nil_iff]
        intro l hl
        have hmem : l.1 ∈ g.allGroups := map_fst_lineages around g ▸ List.mem_map_of_mem hl
        simp [survives_of_mem_allGroups matched (by simpa using h) l.1 hmem]
      rw [rest_prune_eq_survives, if_neg h, hnone]
      rfl

/-! ## The main statement -/

/-- What a tree loses by pruning, given what comes of it, is just the conditions that match and the
groups without a reason to stay. -/
structure PrunesExactly (g : ConditionGroup) (p : Pruned ConditionGroup) : Prop where
  conditions : (p.rest g).toList.flatMap allConditions = g.allConditions.filter (!matched ·)
  /-- The groups that stay are those with a reason to, in their order and each in its place: it has
  the same groups around it, and by itself it has only lost the conditions that match. -/
  groups :
    ((p.rest g).toList.flatMap (lineages [])).map (fun l ↦ (l.1.frame, l.2.map frame)) =
      ((g.lineages []).filter fun l ↦ l.1.survives matched).map
        (fun l ↦ (l.1.frameWithout matched, l.2.map (frameWithout matched)))
  emptied_iff : p = .emptied ↔
    (∀ c ∈ g.allConditions, matched c) ∧ ∀ h ∈ g.allGroups, ¬ h.isEmpty
  untouched_iff : p = .untouched ↔ ∀ c ∈ g.allConditions, matched c = false

theorem eq_emptied_iff {p : Pruned ConditionGroup} (g : ConditionGroup) :
    p = .emptied ↔ p.rest g = none := by
  cases p <;> simp [Pruned.rest]

theorem prune_eq_untouched_iff (g : ConditionGroup) :
    g.prune matched = .untouched ↔ ∀ c ∈ g.allConditions, matched c = false := by
  rw [← untouched_iff, prune_eq]
  split
  next h => exact iff_of_true rfl h
  next h => exact iff_of_false (by split <;> simp) h

theorem prunesExactly_prune (g : ConditionGroup) : g.PrunesExactly matched (g.prune matched) where
  conditions := by
    rw [← allConditions_rest_prune]
    cases (g.prune matched).rest g <;> simp
  groups := lineages_rest_prune matched g rfl
  emptied_iff := by
    rw [eq_emptied_iff g, rest_prune_eq_survives, ← survives_eq_false_iff]
    cases g.survives matched <;> simp
  untouched_iff := prune_eq_untouched_iff matched g

/-- Pruning takes out just the conditions that match, whatever the predicate is, and with them just
the groups that are emptied by it.  What is left has its place and its order.  Nothing is left at
all if every condition matches and no group was empty before, and nothing is touched if no condition
matches.  The same goes for the conditions with an id, and for those in which a field has a value,
provided that this can be told of each of them. -/
theorem prune_removes_exactly (g : ConditionGroup) :
    (∀ matched, g.PrunesExactly matched (g.prune matched)) ∧
      (∀ i, g.PrunesExactly (·.id = i) (g.removeConditionFrom i)) ∧
      ∀ name v p, g.removeConditionsWhere name v = .ok p →
        g.PrunesExactly (fun c ↦ (c.fieldIs name v).toOption = some true) p := by
  refine ⟨fun matched ↦ prunesExactly_prune matched g, fun i ↦ prunesExactly_prune _ g, ?_⟩
  intro name v p hp
  rw [removeConditionsWhere] at hp
  cases htold : g.allConditions.mapM (·.fieldIs name v) with
  | error m =>
    rw [htold] at hp
    cases hp
  | ok told =>
    rw [htold] at hp
    cases hp
    exact prunesExactly_prune _ g

/-- A filter with a group that holds nothing but conditions on wards, one that holds an empty group
beside such a condition, and an id that is given twice. -/
def wardFilter : ConditionGroup :=
  { id := "1"
    conditions := [{ id := "2", subject := ⟨"w", "name"⟩ }]
    groups := [
      { id := "3", connective := .or
        conditions := [{ id := "4", subject := ⟨"w", "floor"⟩ }]
        groups := [{ id := "5", conditions := [{ id := "6", subject := ⟨"w", "beds"⟩ }] }] },
      { id := "3"
        conditions := [{ id := "7", subject := ⟨"w", "head"⟩, operator := .isNull }]
        groups := [{ id := "8" }] },
      { id := "9", connective := .or
        conditions := [{ id := "10", subject := ⟨"p", "age"⟩, operator := .isNotNull }] }] }

/-- The first of the two groups with the same id goes with what is in it. -/
theorem prune_of_wardFilter :
    ∃ p, wardFilter.removeConditionsWhere "table_alias" (.text "w") = .ok p ∧
      (p.rest wardFilter).toList.flatMap (fun g ↦ g.allGroups.map id) = ["1", "3", "8", "9"] ∧
      (p.rest wardFilter).toList.flatMap allConditions =
        wardFilter.allConditions.filter
          (fun c ↦ !decide ((c.fieldIs "table_alias" (.text "w")).toOption = some true)) := by
  have hp : wardFilter.removeConditionsWhere "table_alias" (.text "w") = .ok _ := rfl
  obtain ⟨-, -, hwhere⟩ := prune_removes_exactly wardFilter
  exact ⟨_, hp, by decide +kernel, (hwhere _ _ _ hp).conditions⟩

end ConditionGroup

end SelectBuilder
