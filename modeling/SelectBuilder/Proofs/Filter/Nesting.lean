import SelectBuilder.Proofs.Filter.Height
import SelectBuilder.Proofs.Filter.Undoing

/-!
# Nesting up to the limit

A group is nested at a depth that is counted on the way down to its parent, while the depth that is
asked for beforehand comes from a search, and the height of the outcome from a third walk through
the tree.  Here the three are brought to the list of all groups with their depths (`groupsAt`).

What nesting leads to is described apart from how it is done: by `Replaced`, one group of a tree
stands replaced, some levels down.  Where no two groups share an id, changing the group with an id
comes to one replacement (`changeAt_of_replaced`), and the height is read off that
(`Replaced.height_eq`).
-/

namespace SelectBuilder

namespace ConditionGroup

/-! ## Groups with their depths -/

/-- All groups of a tree with their depths, that of the tree itself being given. -/
def groupsAt (depth : Int) (g : ConditionGroup) : List (ConditionGroup × Int) :=
  (g.nodes depth).filterMap fun x ↦ x.1.group?.map (·, x.2)

theorem mem_groupsAt {g h : ConditionGroup} {depth e : Int} :
    (h, e) ∈ g.groupsAt depth ↔ (.group h, e) ∈ g.nodes depth := by
  rw [groupsAt, List.mem_filterMap]
  constructor
  · rintro ⟨⟨node, e'⟩, hmem, hx⟩
    cases node with
    | condition c => cases hx
    | group h' =>
      cases hx
      exact hmem
  · intro hmem
    exact ⟨_, hmem, rfl⟩

theorem filterMap_nodesOf_groups (depth : Int) (gs : List ConditionGroup) :
    (nodesOf depth gs).filterMap (fun x ↦ x.1.group?.map (·, x.2)) =
      gs.flatMap (groupsAt depth) := by
  induction gs with
  | nil => rfl
  | cons g gs ih => rw [nodesOf, List.filterMap_append, ih, List.flatMap_cons, groupsAt]

theorem groupsAt_eq (depth : Int) (g : ConditionGroup) :
    g.groupsAt depth = (g, depth) :: g.groups.flatMap (groupsAt (depth + 1)) := by
  rw [groupsAt, nodes_eq, List.filterMap_append, filterMap_nodesOf_groups]
  simp [List.filterMap_map, Function.comp_def]

theorem map_fst_groupsAt (depth : Int) (g : ConditionGroup) :
    (g.groupsAt depth).map Prod.fst = g.allGroups := by
  induction g using inductionOn generalizing depth with
  | step g ih =>
    rw [groupsAt_eq, allGroups_eq, List.map_cons, List.map_flatMap]
    exact congrArg _ (List.flatMap_congr fun h hh ↦ ih h hh _)

theorem mem_allGroups_of_mem_groupsAt {g h : ConditionGroup} {depth e : Int}
    (hmem : (h, e) ∈ g.groupsAt depth) : h ∈ g.allGroups :=
  map_fst_groupsAt depth g ▸ List.mem_map_of_mem hmem

/-- No group is above the tree that it is in. -/
theorem le_of_mem_groupsAt {g h : ConditionGroup} {depth e : Int}
    (hmem : (h, e) ∈ g.groupsAt depth) : depth ≤ e := by
  induction g using inductionOn generalizing depth with
  | step g ih =>
    rw [groupsAt_eq, List.mem_cons] at hmem
    rcases hmem with heq | hmem
    · cases heq
      exact Int.le_refl _
    · obtain ⟨k, hk, hmem⟩ := List.mem_flatMap.mp hmem
      exact Int.le_trans (Int.le_add_one (Int.le_refl _)) (ih k hk hmem)

mutual

/-- What is looked up by an id is the first group with it, together with its depth. -/
theorem locate_eq_find? (i : String) (depth : Nat) : (g : ConditionGroup) →
    (g.locate i depth).map (fun x ↦ (x.1, (x.2 : Int))) =
      (g.groupsAt depth).find? (·.1.id = i)
  | ⟨own, connective, conditions, groups⟩ => by
    rw [locate, groupsAt_eq, List.find?_cons]
    by_cases h : own = i
    · simp [h]
    · simpa [h] using locateIn_eq_find? i (depth + 1) groups

theorem locateIn_eq_find? (i : String) (depth : Nat) : (gs : List ConditionGroup) →
    (locateIn i depth gs).map (fun x ↦ (x.1, (x.2 : Int))) =
      (gs.flatMap (groupsAt depth)).find? (·.1.id = i)
  | [] => rfl
  | g :: gs => by
    rw [locateIn, List.flatMap_cons, List.find?_append, ← locate_eq_find? i depth g,
      ← locateIn_eq_find? i depth gs]
    cases locate i depth g <;> rfl

end

/-- Where no two groups share an id, the depth that is found is that of the group with the id. -/
theorem depth?_eq_some_of_mem {g h : ConditionGroup} {d : Nat}
    (hids : (g.allGroups.map id).Nodup) (hmem : (h, (d : Int)) ∈ g.groupsAt 0) :
    g.depth? h.id = some d := by
  have hfind := g.locate_eq_find? h.id 0
  cases hlocate : g.locate h.id 0 with
  | none =>
    rw [hlocate, Option.map_none, eq_comm, List.find?_eq_none] at hfind
    exact absurd (decide_eq_true rfl) (hfind _ hmem)
  | some x =>
    rw [hlocate, Option.map_some, eq_comm] at hfind
    have hid : x.1.id = h.id := by simpa using List.find?_some hfind
    have hnodup : ((g.groupsAt 0).map fun y ↦ y.1.id).Nodup := by
      rwa [← map_fst_groupsAt 0 g, List.map_map] at hids
    have heq := List.inj_on_of_nodup_map hnodup (List.mem_of_find?_eq_some hfind) hmem hid
    rw [depth?, hlocate, Option.map_some]
    have hdepth : (x.2 : Int) = d := congrArg Prod.snd heq
    exact congrArg some (by omega)

theorem depth?_eq_none_iff {g : ConditionGroup} {i : String} :
    g.depth? i = none ↔ ∀ h e, (h, e) ∈ g.groupsAt 0 → h.id ≠ i := by
  have hfind := g.locate_eq_find? i 0
  rw [depth?, Option.map_eq_none_iff, ← Option.map_eq_none_iff, hfind, List.find?_eq_none]
  simp

/-! ## Replacing a group -/

/-- The tree `g'` is `g` with its group `h`, which is some levels down, replaced by `h'`. -/
inductive Replaced (h h' : ConditionGroup) : Nat → ConditionGroup → ConditionGroup → Prop where
  | here : Replaced h h' 0 h h'
  | nested {g k k' : ConditionGroup} {before after : List ConditionGroup} {d : Nat} :
      g.groups = before ++ k :: after → Replaced h h' d k k' →
      Replaced h h' (d + 1) g { g with groups := before ++ k' :: after }

section Replaced

variable {g g' h h' : ConditionGroup} {d : Nat}

theorem Replaced.mem_groupsAt (hr : Replaced h h' d g g') (depth : Int) :
    (h, depth + d) ∈ g.groupsAt depth := by
  induction hr generalizing depth with
  | here =>
    rw [groupsAt_eq]
    simp
  | @nested g k k' before after d hgroups _ ih =>
    rw [groupsAt_eq, hgroups]
    refine List.mem_cons_of_mem _ (List.mem_flatMap.mpr ⟨k, by simp, ?_⟩)
    have hdepth : depth + ((d + 1 : Nat) : Int) = depth + 1 + d := by omega
    exact hdepth ▸ ih (depth + 1)

/-- Every group of a tree can be replaced. -/
theorem exists_replaced (h' : ConditionGroup) {depth : Int}
    (hmem : (h, depth + d) ∈ g.groupsAt depth) : ∃ g', Replaced h h' d g g' := by
  induction g using inductionOn generalizing depth d with
  | step g ih =>
    rw [groupsAt_eq, List.mem_cons] at hmem
    rcases hmem with heq | hmem
    · rw [Prod.mk.injEq] at heq
      obtain ⟨rfl, hd⟩ := heq
      obtain rfl : d = 0 := by omega
      exact ⟨h', .here⟩
    · obtain ⟨k, hk, hmem⟩ := List.mem_flatMap.mp hmem
      have hle := le_of_mem_groupsAt hmem
      obtain ⟨e, rfl⟩ : ∃ e, d = e + 1 := ⟨d - 1, by omega⟩
      obtain ⟨before, after, hgroups⟩ := List.append_of_mem hk
      have hdepth : depth + ((e + 1 : Nat) : Int) = depth + 1 + e := by omega
      obtain ⟨k', hk'⟩ := ih k hk (hdepth ▸ hmem)
      exact ⟨_, .nested hgroups hk'⟩

/-- A replacement changes something if the group that comes in is another one. -/
theorem Replaced.ne (hr : Replaced h h' d g g') (hne : h' ≠ h) : g' ≠ g := by
  induction hr with
  | here => exact hne
  | @nested g k k' before after d hgroups _ ih =>
    intro heq
    have hsame := congrArg groups heq
    rw [hgroups] at hsame
    exact ih (by simpa using hsame)

theorem levels_append (gs gs' : List ConditionGroup) :
    levels (gs ++ gs') = max (levels gs) (levels gs') := by
  induction gs with
  | nil => simp [levels]
  | cons g gs ih => rw [List.cons_append, levels, levels, ih, Nat.max_assoc]

/-- A tree is as high as it was, or as high as its new group reaches. -/
theorem Replaced.height_eq {m : Nat} (hr : Replaced h h' d g g') (hm : h'.height = max h.height m) :
    g'.height = max g.height (d + m) := by
  induction hr with
  | here => simpa using hm
  | @nested g k k' before after d hgroups _ ih =>
    change levels (before ++ k' :: after) = _
    rw [ConditionGroup.height_eq g, hgroups, levels_append, levels_append, levels, levels, ih]
    omega

end Replaced

/-! ## Changing the group with an id -/

section ChangeAt

variable {i : String} {change : ConditionGroup → Int → Option ConditionGroup} {depth : Int}

theorem changeAt_of_ne {g : ConditionGroup} (h : g.id ≠ i) :
    g.changeAt i change depth =
      (changeIn i change (depth + 1) g.groups).map fun groups ↦ { g with groups } := by
  cases g
  rw [changeAt, if_neg h]

theorem changeIn_eq_none {gs : List ConditionGroup}
    (h : ∀ g ∈ gs, g.changeAt i change depth = none) : changeIn i change depth gs = none := by
  induction gs with
  | nil => rfl
  | cons g gs ih =>
    obtain ⟨hg, hgs⟩ := List.forall_mem_cons.mp h
    rw [changeIn, hg, ih hgs]

/-- Of sibling groups, one is changed if there is no change for the others. -/
theorem changeIn_append_cons {before after : List ConditionGroup} {k : ConditionGroup}
    (hbefore : ∀ g ∈ before, g.changeAt i change depth = none)
    (hafter : ∀ g ∈ after, g.changeAt i change depth = none) :
    changeIn i change depth (before ++ k :: after) =
      (k.changeAt i change depth).map fun k' ↦ before ++ k' :: after := by
  induction before with
  | nil =>
    rw [List.nil_append, changeIn, changeIn_eq_none hafter]
    cases k.changeAt i change depth <;> rfl
  | cons g before ih =>
    obtain ⟨hg, hbefore⟩ := List.forall_mem_cons.mp hbefore
    rw [List.cons_append, changeIn, hg, ih hbefore]
    cases k.changeAt i change depth <;> rfl

/-- Without repeated ids, no group outside a nested one shares an id with a group in it. -/
theorem ne_of_nodup {g k h : ConditionGroup} {before after : List ConditionGroup}
    (hids : (g.allGroups.map id).Nodup) (hgroups : g.groups = before ++ k :: after)
    (hmem : h ∈ k.allGroups) :
    g.id ≠ h.id ∧ (∀ k' ∈ before ++ after, ∀ x ∈ k'.allGroups, x.id ≠ h.id) ∧
      (k.allGroups.map id).Nodup := by
  have hperm : (g.allGroups.map id).Perm
      (g.id :: (k.allGroups.map id ++ ((before ++ after).flatMap allGroups).map id)) := by
    rw [allGroups_eq, hgroups, List.map_cons, ← List.map_append, ← List.flatMap_cons]
    exact ((List.perm_middle.flatMap_right _).map _).cons _
  rw [hperm.nodup_iff, List.nodup_cons, List.nodup_append, List.mem_append] at hids
  obtain ⟨hroot, hk, -, hothers⟩ := hids
  have hid : h.id ∈ k.allGroups.map id := List.mem_map_of_mem hmem
  refine ⟨fun heq ↦ hroot (.inl (heq ▸ hid)), ?_, hk⟩
  intro k' hk' x hx heq
  exact hothers _ hid _ (List.mem_map_of_mem (List.mem_flatMap.mpr ⟨k', hk', hx⟩)) heq.symm

/-- Nothing changes where every group with the id refuses the change. -/
theorem changeAt_eq_none {g : ConditionGroup}
    (h : ∀ k e, (k, e) ∈ g.groupsAt depth → k.id = i → change k e = none) :
    g.changeAt i change depth = none := by
  induction g using inductionOn generalizing depth with
  | step g ih =>
    rw [groupsAt_eq] at h
    by_cases hid : g.id = i
    · have hg := h g depth List.mem_cons_self hid
      cases g
      rwa [changeAt, if_pos hid]
    · rw [changeAt_of_ne hid, changeIn_eq_none, Option.map_none]
      intro k hk
      exact ih k hk fun k' e hmem ↦
        h k' e (List.mem_cons_of_mem _ (List.mem_flatMap.mpr ⟨k, hk, hmem⟩))

/-- Where no two groups share an id, the change of the group with an id replaces it. -/
theorem changeAt_of_replaced {g g' h h' : ConditionGroup} {d : Nat} (hr : Replaced h h' d g g')
    (hids : (g.allGroups.map id).Nodup) (hchange : change h (depth + d) = some h') :
    g.changeAt h.id change depth = some g' := by
  induction hr generalizing depth with
  | here =>
    cases h
    rw [changeAt, if_pos rfl]
    simpa using hchange
  | @nested g k k' before after d hgroups hr ih =>
    have hk : h ∈ k.allGroups := mem_allGroups_of_mem_groupsAt (hr.mem_groupsAt 0)
    obtain ⟨hne, hothers, hids⟩ := ne_of_nodup hids hgroups hk
    have hdepth : depth + ((d + 1 : Nat) : Int) = depth + 1 + d := by omega
    rw [hdepth] at hchange
    have hnone : ∀ x ∈ before ++ after, x.changeAt h.id change (depth + 1) = none :=
      fun x hx ↦ changeAt_eq_none fun y e hy hid ↦
        absurd hid (hothers x hx y (mem_allGroups_of_mem_groupsAt hy))
    obtain ⟨hbefore, hafter⟩ := List.forall_mem_append.mp hnone
    rw [changeAt_of_ne hne, hgroups, changeIn_append_cons hbefore hafter, ih hids hchange]
    rfl

end ChangeAt

/-! ## Nesting -/

section Nest

variable {g new : ConditionGroup} {i : String} {n : Int}

theorem nest_of_replaced {g' h : ConditionGroup} {d : Nat} (hids : (g.allGroups.map id).Nodup)
    (hr : Replaced h (h.addGroup new) d g g') (hfits : (d : Int) + 1 + new.height ≤ n) :
    g.nest h.id new (.depth n) = some g' := by
  refine changeAt_of_replaced hr hids (if_neg ?_)
  rw [DepthLimit.excludes_depth]
  omega

theorem nest_eq_none
    (h : ∀ k, ∀ d : Nat, (k, (d : Int)) ∈ g.groupsAt 0 → k.id = i → n < d + 1 + new.height) :
    g.nest i new (.depth n) = none := by
  refine changeAt_eq_none fun k e hmem hid ↦ if_pos ?_
  have hle := le_of_mem_groupsAt hmem
  obtain ⟨d, rfl⟩ := Int.eq_ofNat_of_zero_le hle
  have := h k d hmem hid
  rw [DepthLimit.excludes_depth]
  omega

/-- A parent below which there is room gets the group, and the tree reaches as deep as that. -/
theorem exists_nest_eq_some {h : ConditionGroup} {d : Nat} (hids : (g.allGroups.map id).Nodup)
    (hmem : (h, (d : Int)) ∈ g.groupsAt 0) (hfits : (d : Int) + 1 + new.height ≤ n) :
    ∃ g', g.nest h.id new (.depth n) = some g' ∧ Replaced h (h.addGroup new) d g g' ∧
      g'.height = max g.height (d + 1 + new.height) := by
  have hmem' : (h, 0 + (d : Int)) ∈ g.groupsAt 0 := by rwa [Int.zero_add]
  obtain ⟨g', hr⟩ := exists_replaced (h.addGroup new) hmem'
  refine ⟨g', nest_of_replaced hids hr hfits, hr, ?_⟩
  rw [hr.height_eq (height_addGroup h new)]
  omega

/-- A group without nested groups can be added to the group with an id if that is asked for
beforehand, and only then. -/
theorem canNest_iff {leaf : ConditionGroup} (hids : (g.allGroups.map id).Nodup)
    (hleaf : leaf.groups = []) :
    g.canNest i (.depth n) ↔ (g.nest i leaf (.depth n)).getD g ≠ g := by
  have hheight : leaf.height = 0 := by
    rw [height_eq, hleaf]
    rfl
  by_cases hin : ∃ h, ∃ d : Nat, (h, (d : Int)) ∈ g.groupsAt 0 ∧ h.id = i
  · obtain ⟨h, d, hmem, rfl⟩ := hin
    have hdepth := depth?_eq_some_of_mem hids hmem
    rw [canNest, hdepth]
    simp only [DepthLimit.admits_depth]
    by_cases hfits : (d : Int) + 1 ≤ n
    · have hroom : (d : Int) + 1 + leaf.height ≤ n := by omega
      obtain ⟨g', hnest, hr, -⟩ := exists_nest_eq_some hids hmem hroom
      rw [hnest, Option.getD_some]
      exact iff_of_true hfits (hr.ne fun heq ↦ by simpa [addGroup] using congrArg groups heq)
    · have hnone : g.nest h.id leaf (.depth n) = none := by
        apply nest_eq_none
        intro k e hk hid
        have hsame := depth?_eq_some_of_mem hids hk
        rw [hid, hdepth, Option.some.injEq] at hsame
        rw [hheight, ← hsame]
        omega
      rw [hnone]
      exact iff_of_false hfits (by simp)
  · have hnone : g.nest i leaf (.depth n) = none :=
      nest_eq_none fun k d hk hid ↦ absurd ⟨k, d, hk, hid⟩ hin
    have hdepth : g.depth? i = none := by
      refine depth?_eq_none_iff.mpr fun h e hmem hid ↦ hin ?_
      obtain ⟨d, rfl⟩ := Int.eq_ofNat_of_zero_le (le_of_mem_groupsAt hmem)
      exact ⟨h, d, hmem, hid⟩
    rw [canNest, hdepth, hnone]
    simp

/-- A group can only be refused by every group that it might be nested in. -/
theorem nest_eq_none_iff (hids : (g.allGroups.map id).Nodup) :
    g.nest i new (.depth n) = none ↔
      ∀ h, ∀ d : Nat, (h, (d : Int)) ∈ g.groupsAt 0 → h.id = i → n < d + 1 + new.height := by
  constructor
  · intro hnone h d hmem hid
    by_contra hlt
    have hfits : (d : Int) + 1 + new.height ≤ n := by omega
    obtain ⟨g', hnest, -⟩ := exists_nest_eq_some hids hmem hfits
    rw [hid, hnone] at hnest
    cases hnest
  · exact nest_eq_none

/-- What comes of nesting is the tree with the new group at the end of its parent. -/
theorem nest_eq_some_iff (hids : (g.allGroups.map id).Nodup) {g' : ConditionGroup} :
    g.nest i new (.depth n) = some g' ↔
      ∃ h, ∃ d : Nat, (h, (d : Int)) ∈ g.groupsAt 0 ∧ h.id = i ∧
        (d : Int) + 1 + new.height ≤ n ∧ Replaced h (h.addGroup new) d g g' ∧
        g'.height = max g.height (d + 1 + new.height) := by
  constructor
  · intro hnest
    have hsome : g.nest i new (.depth n) ≠ none := by
      rw [hnest]
      exact Option.some_ne_none g'
    rw [Ne, nest_eq_none_iff hids] at hsome
    push Not at hsome
    obtain ⟨h, d, hmem, hid, hle⟩ := hsome
    have hfits : (d : Int) + 1 + new.height ≤ n := by omega
    obtain ⟨g'', hnest'', hr, hheight⟩ := exists_nest_eq_some hids hmem hfits
    rw [hid, hnest, Option.some.injEq] at hnest''
    subst hnest''
    exact ⟨h, d, hmem, hid, hfits, hr, hheight⟩
  · rintro ⟨h, d, -, rfl, hfits, hr, -⟩
    exact nest_of_replaced hids hr hfits

/-- A tree within the limit stays there, whatever its ids are. -/
theorem height_nest_le (hin : g.height ≤ n) :
    ((g.nest i new (.depth n)).getD g).height ≤ n := by
  have hle := height_changeAt_le i _ (fun g depth ↦ height_nested_le g new depth n) g 0
  change 0 + (((g.nest i new (.depth n)).getD g).height : Int) ≤ _ at hle
  omega

end Nest

/-- In a tree without repeated ids of groups, a group becomes the last one of its parent just if the
parent is in the tree and the new group ends within the limit, counted from there; the tree is then
as high as it was or as deep as the new group reaches.  Otherwise the tree stays as it is.  Asking
beforehand tells whether a group without nested groups can be added.  Ids or not, a tree within the
limit does not leave it. -/
theorem nest_within_limit (g new : ConditionGroup) (i : String) (n : Int) :
    ((g.allGroups.map id).Nodup →
      (∀ g', g.nest i new (.depth n) = some g' ↔
        ∃ h, ∃ d : Nat, (.group h, (d : Int)) ∈ g.nodes 0 ∧ h.id = i ∧
          (d : Int) + 1 + new.height ≤ n ∧
          Replaced h { h with groups := h.groups ++ [new] } d g g' ∧
          g'.height = max g.height (d + 1 + new.height)) ∧
      (g.nest i new (.depth n) = none ↔
        ∀ h, ∀ d : Nat, (.group h, (d : Int)) ∈ g.nodes 0 → h.id = i →
          n < d + 1 + new.height) ∧
      ∀ leaf : ConditionGroup, leaf.groups = [] →
        (g.canNest i (.depth n) ↔ (g.nest i leaf (.depth n)).getD g ≠ g)) ∧
    (g.height ≤ n → ((g.nest i new (.depth n)).getD g).height ≤ n) := by
  constructor
  · intro hids
    simp only [← mem_groupsAt]
    refine ⟨?_, nest_eq_none_iff hids, ?_⟩
    · intro g'
      exact nest_eq_some_iff hids
    · intro leaf hleaf
      exact canNest_iff hids hleaf
  · exact height_nest_le

/-- A filter with a group two levels down, and a group beside it one level down. -/
def shelfFilter : ConditionGroup :=
  { id := "1"
    groups := [
      { id := "2"
        groups := [{ id := "3", conditions := [{ id := "4", subject := ⟨"s", "row"⟩ }] }] },
      { id := "5", connective := .or }] }

/-- A group that brings in another one. -/
def shelfPair : ConditionGroup := { id := "6", groups := [{ id := "7" }] }

/-- With three levels, the pair has room one level down but not two, where there is only room for a
group by itself. -/
theorem nest_within_limit_of_shelfFilter :
    (shelfFilter.allGroups.map id).Nodup ∧ shelfFilter.height ≤ (3 : Int) ∧
      (∃ g', shelfFilter.nest "5" shelfPair (.depth 3) = some g' ∧
        ∃ d : Nat, g'.height = max 2 (d + 1 + shelfPair.height)) ∧
      shelfFilter.nest "3" shelfPair (.depth 3) = none ∧
      (shelfFilter.nest "3" { id := "8" } (.depth 3)).getD shelfFilter ≠ shelfFilter ∧
      ((shelfFilter.nest "5" shelfPair (.depth 3)).getD shelfFilter).height ≤ (3 : Int) := by
  have hids : (shelfFilter.allGroups.map id).Nodup := by decide
  have hheight : shelfFilter.height ≤ (3 : Int) := by decide
  obtain ⟨hone, hstays⟩ := nest_within_limit shelfFilter shelfPair "5" 3
  obtain ⟨htwo, -⟩ := nest_within_limit shelfFilter shelfPair "3" 3
  obtain ⟨hnest, -⟩ := hone hids
  obtain ⟨-, -, hcan⟩ := htwo hids
  obtain ⟨-, d, -, -, -, -, hreach⟩ := (hnest _).mp rfl
  exact ⟨hids, hheight, ⟨_, rfl, d, hreach⟩, rfl, (hcan { id := "8" } rfl).mp (by decide),
    hstays hheight⟩

end ConditionGroup

end SelectBuilder
