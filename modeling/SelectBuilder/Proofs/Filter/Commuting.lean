import Mathlib.Data.List.Basic
import SelectBuilder.Proofs.Filter.Pruning

/-!
# Edits of a filter in either order

Taking conditions out twice comes to taking them out at once, in whichever order, and a change of
conditions can be made before or after others are taken out.

The delicate point is which groups go.  A group that was empty from the start stays, so of a group
that the second step finds with nothing left to stay it has to be known whether anything was taken
out, in this step or in the one before (`any_of_isEmpty_kept`).
-/

namespace SelectBuilder

namespace ConditionGroup

/-! ## Pruning twice -/

section Twice

variable (p q : Condition → Bool)

/-- What is left in a group of which the nested groups are pruned twice. -/
theorem kept_kept {g : ConditionGroup}
    (h : ∀ g' ∈ g.groups, ((g'.prune p).rest g').bind (fun r ↦ (r.prune q).rest r) =
      (g'.prune fun c ↦ p c || q c).rest g') :
    (g.kept p).kept q = g.kept fun c ↦ p c || q c := by
  have hconditions : (g.conditions.filter (!p ·)).filter (!q ·) =
      g.conditions.filter fun c ↦ !(p c || q c) := by
    rw [List.filter_filter]
    exact List.filter_congr fun c _ ↦ by rw [Bool.not_or, Bool.and_comm]
  have hgroups : (g.groups.filterMap fun g ↦ (g.prune p).rest g).filterMap
        (fun g ↦ (g.prune q).rest g) =
      g.groups.filterMap fun g ↦ (g.prune fun c ↦ p c || q c).rest g := by
    rw [List.filterMap_filterMap]
    exact List.filterMap_congr h
  rw [kept_eq q, kept_eq p, kept_eq, mk.injEq]
  exact ⟨rfl, rfl, hconditions, hgroups⟩

/-- Something is taken out of a group in two steps of which nothing is left, just when something is
taken out of it in one. -/
theorem any_of_isEmpty_kept {g : ConditionGroup} (hstays : ¬ (g.allConditions.any p ∧
      (g.kept p).isEmpty)) (hempty : ((g.kept p).kept q).isEmpty) :
    (g.kept p).allConditions.any q ↔ g.allConditions.any fun c ↦ p c || q c := by
  have hleft : ∀ c ∈ g.allConditions, p c = false → q c = true := by
    have h := allConditions_of_isEmpty hempty
    rw [allConditions_kept, allConditions_kept, List.filter_filter, List.filter_eq_nil_iff] at h
    intro c hc hp
    simpa [hp] using h c hc
  rw [allConditions_kept, List.any_filter, List.any_eq_true, List.any_eq_true]
  constructor
  · rintro ⟨c, hc, hcq⟩
    exact ⟨c, hc, by simp_all⟩
  · rintro ⟨c, hc, hcpq⟩
    by_contra hnone
    -- Nothing is left for the second step, so that the group would have gone in the first.
    have hall : ∀ c ∈ g.allConditions, p c = true := by
      intro c hc
      by_contra hp
      rw [Bool.not_eq_true] at hp
      exact hnone ⟨c, hc, by simp [hp, hleft c hc hp]⟩
    have hsame : (g.kept p).kept q = g.kept p := by
      refine kept_of_forall q fun c' hc' ↦ ?_
      rw [allConditions_kept] at hc'
      simp [hall c' (List.mem_of_mem_filter hc')] at hc'
    rw [hsame] at hempty
    exact hstays ⟨List.any_eq_true.mpr ⟨c, hc, hall c hc⟩, hempty⟩

theorem isEmpty_kept {g : ConditionGroup} (h : g.isEmpty) : (g.kept q).isEmpty := by
  obtain ⟨hconditions, hgroups⟩ := isEmpty_iff.mp h
  rw [isEmpty_iff, kept_eq, hconditions, hgroups]
  exact ⟨rfl, rfl⟩

/-- Pruning twice comes to pruning once. -/
theorem rest_prune_bind (g : ConditionGroup) :
    ((g.prune p).rest g).bind (fun r ↦ (r.prune q).rest r) =
      (g.prune fun c ↦ p c || q c).rest g := by
  induction g using inductionOn with
  | step g ih =>
    have hkept := kept_kept p q ih
    rw [rest_prune_eq p g, rest_prune_eq (fun c ↦ p c || q c) g, ← hkept]
    split
    next h =>
      have hany : g.allConditions.any fun c ↦ p c || q c := by
        obtain ⟨c, hc, hp⟩ := List.any_eq_true.mp h.1
        exact List.any_eq_true.mpr ⟨c, hc, by simp [hp]⟩
      rw [if_pos ⟨hany, isEmpty_kept q h.2⟩]
      rfl
    next h =>
      rw [Option.bind_some, rest_prune_eq]
      exact if_congr (and_congr_left (any_of_isEmpty_kept p q h)) rfl rfl

end Twice

/-! ## Changes of conditions -/

/-- A tree with the conditions of an id changed. -/
def changed (id : String) (change : Condition → Condition) (g : ConditionGroup) : ConditionGroup :=
  (g.changeConditions id change).getD g

section Changed

variable {i j : String} {f f' : Condition → Condition}

theorem changed_eq (i : String) (f : Condition → Condition) (g : ConditionGroup) :
    g.changed i f = g.mapConditions fun c ↦ if c.id = i then f c else c :=
  getD_changeConditions_eq_mapConditions i f g

theorem changed_id (g : ConditionGroup) : g.changed i (fun c ↦ c) = g := by
  simp only [changed_eq, ite_self, mapConditions_id]

theorem isEmpty_changed (g : ConditionGroup) : (g.changed i f).isEmpty = g.isEmpty := by
  simp [changed_eq, mapConditions_eq, isEmpty]

mutual

theorem allConditions_mapConditions : (g : ConditionGroup) →
    (g.mapConditions f).allConditions = g.allConditions.map f
  | ⟨_, _, conditions, groups⟩ => by
    rw [mapConditions, allConditions, allConditions, List.map_append,
      allConditionsOf_mapConditionsIn groups]

theorem allConditionsOf_mapConditionsIn : (gs : List ConditionGroup) →
    allConditionsOf (mapConditionsIn f gs) = (allConditionsOf gs).map f
  | [] => rfl
  | g :: gs => by
    rw [mapConditionsIn, allConditionsOf, allConditionsOf, List.map_append,
      allConditions_mapConditions g, allConditionsOf_mapConditionsIn gs]

end

theorem allConditions_changed (g : ConditionGroup) :
    (g.changed i f).allConditions = g.allConditions.map fun c ↦ if c.id = i then f c else c := by
  rw [changed_eq, allConditions_mapConditions]

/-- Changes of conditions with different ids can be made in either order. -/
theorem changed_comm (hij : i ≠ j) (hf : ∀ c, (f c).id = c.id) (hf' : ∀ c, (f' c).id = c.id)
    (g : ConditionGroup) : (g.changed i f).changed j f' = (g.changed j f').changed i f := by
  simp only [changed_eq, mapConditions_mapConditions]
  refine congrArg (g.mapConditions ·) (funext fun c ↦ ?_)
  rw [Function.comp_apply, Function.comp_apply]
  by_cases hi : c.id = i
  · have hj : c.id ≠ j := fun h ↦ hij (hi.symm.trans h)
    simp [hi, hf, hij]
  · by_cases hj : c.id = j <;> simp [hi, hj, hf', hij.symm]

/-- A change that leaves alone what matches can be made before or after pruning. -/
theorem rest_prune_changed {matched : Condition → Bool} (hf : ∀ c, matched (f c) = matched c)
    (g : ConditionGroup) :
    ((g.changed i f).prune matched).rest (g.changed i f) =
      ((g.prune matched).rest g).map (changed i f) := by
  have hmatched (c : Condition) : matched (if c.id = i then f c else c) = matched c := by
    split
    next => exact hf c
    next => rfl
  induction g using inductionOn with
  | step g ih =>
    have hkept : (g.changed i f).kept matched = (g.kept matched).changed i f := by
      rw [kept_eq, changed_eq, mapConditions_eq, changed_eq, mapConditions_eq, kept_eq, mk.injEq]
      refine ⟨rfl, rfl, ?_, ?_⟩
      · rw [List.filter_map]
        exact congrArg _ (List.filter_congr fun c _ ↦ by simp [hmatched])
      · rw [List.filterMap_map, List.map_filterMap]
        have hchanged : changed i f = mapConditions fun c ↦ if c.id = i then f c else c :=
          funext (changed_eq i f)
        rw [← hchanged]
        exact List.filterMap_congr ih
    have hany : (g.changed i f).allConditions.any matched = g.allConditions.any matched := by
      simp only [allConditions_changed, List.any_map, Function.comp_def, hmatched]
    rw [rest_prune_eq, rest_prune_eq, hkept, hany, isEmpty_changed]
    split <;> rfl

end Changed

end ConditionGroup

end SelectBuilder
