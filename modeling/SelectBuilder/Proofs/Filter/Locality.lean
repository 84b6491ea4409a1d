import SelectBuilder.Proofs.Filter.Nesting
import SelectBuilder.Proofs.Filter.Survival
import SelectBuilder.Proofs.Query.Reading

/-!
# How far the edits of groups reach

An edit of the groups with an id is made on the way down the tree and goes no further where it finds
one, while a group is looked up by a walk of its own.  The two agree (`find?_editing`): what is
found after an edit is what was found before, edited.  All other groups are met again in the same
order and at the same depth, with what they had (`EditsOnly`).

A removal takes the groups with an id and whatever is in them.  A place is told by the groups around
it (`lineages`), so what stays is what is not in such a group, and its place is among the same
groups as before (`RemovesOnly`).  None of this asks for ids that are not repeated.
-/

namespace SelectBuilder

/-! ## Patches of groups -/

namespace ConditionGroup

section Patch

variable {fs : Fields}

/-- A patch that gives a group no groups keeps those that are nested in it. -/
theorem patch_keeps_groups (hgroups : fs.lookup "groups" = none) :
    (patch fs).Keeps fun g ↦ (g.id, g.groups) :=
  .changes <| by simp [Fields.keeps_change, Fields.keeps_change_of_lookup, hgroups]

theorem lookup_of_changesNothing {name : String} (h : fs.changesNothing) (hid : name ≠ "id")
    (hkind : name ≠ "kind") : fs.lookup name = none := by
  rw [List.lookup_eq_none_iff]
  intro f hf
  have hname := List.all_eq_true.mp h f hf
  simp only [Bool.or_eq_true, decide_eq_true_eq] at hname
  rcases hname with hname | hname
  · simpa [hname] using hid
  · simpa [hname] using hkind

/-- A patch of nothing but the id and the tag keeps a group as it is. -/
theorem patch_keeps_of_changesNothing (h : fs.changesNothing) : (patch fs).Keeps fun g ↦ g :=
  .changes <| by
    simp [Fields.keeps_change_of_lookup, lookup_of_changesNothing h]

end Patch

/-! ## Looking up -/

section LookUp

variable {i : String} {g : ConditionGroup}

theorem find?_of_eq (h : g.id = i) : g.find? i = some g := by
  rw [find?_eq, allGroups_eq, List.find?_cons_of_pos (by simpa using h)]

theorem find?_of_ne (h : g.id ≠ i) : g.find? i = g.groups.findSome? (·.find? i) := by
  rw [find?_eq, allGroups_eq, List.find?_cons_of_neg (by simpa using h), List.find?_flatMap]
  simp only [find?_eq]

theorem find?_eq_none_iff : g.find? i = none ↔ ∀ h ∈ g.allGroups, h.id ≠ i := by
  simp [find?_eq]

end LookUp

/-! ## Editing -/

section Edit

variable {i : String} {edit : ConditionGroup → ConditionGroup} {depth : Int}

/-- A tree after an edit of the groups with an id. -/
def editing (i : String) (edit : ConditionGroup → ConditionGroup) (depth : Int)
    (g : ConditionGroup) : ConditionGroup :=
  g.changedAt i (fun g _ ↦ some (edit g)) depth

theorem editing_of_eq {g : ConditionGroup} (h : g.id = i) : g.editing i edit depth = edit g :=
  changedAt_of_eq h

theorem editing_of_ne {g : ConditionGroup} (h : g.id ≠ i) :
    g.editing i edit depth = { g with groups := g.groups.map (editing i edit (depth + 1)) } :=
  changedAt_of_ne h

theorem id_editing (hid : ∀ g, (edit g).id = g.id) (g : ConditionGroup) :
    (g.editing i edit depth).id = g.id := by
  rw [editing, id_changedAt]
  exact fun g _ ↦ hid g

/-- An edit that keeps every group keeps the tree. -/
theorem editing_eq_self (hsame : ∀ g, edit g = g) (g : ConditionGroup) (depth : Int) :
    g.editing i edit depth = g := by
  induction g using inductionOn generalizing depth with
  | step g ih =>
    by_cases h : g.id = i
    · rw [editing_of_eq h, hsame]
    · rw [editing_of_ne h, map_eq_self fun k hk ↦ ih k hk (depth + 1)]
      cases g
      rfl

theorem changeIn_eq_none_iff {change : ConditionGroup → Int → Option ConditionGroup}
    {gs : List ConditionGroup} :
    changeIn i change depth gs = none ↔ ∀ g ∈ gs, g.changeAt i change depth = none := by
  refine ⟨fun hnone ↦ ?_, changeIn_eq_none⟩
  induction gs with
  | nil => exact List.forall_mem_nil _
  | cons g gs ih =>
    rw [changeIn] at hnone
    split at hnone
    next hg hgs => exact List.forall_mem_cons.mpr ⟨hg, ih hgs⟩
    next => cases hnone

/-- There is nothing to edit just if no group has the id. -/
theorem changeAt_eq_none_iff {g : ConditionGroup} :
    g.changeAt i (fun g _ ↦ some (edit g)) depth = none ↔ ∀ h ∈ g.allGroups, h.id ≠ i := by
  induction g using inductionOn generalizing depth with
  | step g ih =>
    rw [forall_mem_allGroups]
    by_cases h : g.id = i
    · have hsome : g.changeAt i (fun g _ ↦ some (edit g)) depth = some (edit g) := by
        cases g
        rw [changeAt, if_pos h]
      rw [hsome]
      exact iff_of_false (Option.some_ne_none _) fun hall ↦ hall.1 h
    · rw [changeAt_of_ne h, Option.map_eq_none_iff, changeIn_eq_none_iff]
      constructor
      · exact fun hnone ↦ ⟨h, fun h hh ↦ (ih h hh).mp (hnone h hh)⟩
      · exact fun hall h hh ↦ (ih h hh).mpr (hall.2 h hh)

/-- What is looked up after an edit is what was found before it, edited. -/
theorem find?_editing (hid : ∀ g, (edit g).id = g.id) (g : ConditionGroup) (depth : Int) :
    (g.editing i edit depth).find? i = (g.find? i).map edit := by
  induction g using inductionOn generalizing depth with
  | step g ih =>
    by_cases h : g.id = i
    · rw [editing_of_eq h, find?_of_eq h, find?_of_eq ((hid g).trans h), Option.map_some]
    · have hnested : ∀ k ∈ g.groups,
          (k.editing i edit (depth + 1)).find? i = (k.find? i).map edit :=
        fun k hk ↦ ih k hk (depth + 1)
      rw [editing_of_ne h, find?_of_ne (by exact h), find?_of_ne h, List.findSome?_map,
        List.map_findSome?, ← List.head?_filterMap, ← List.head?_filterMap]
      exact congrArg _ (List.filterMap_congr hnested)

/-- Two groups have the same id and the same depth, and if the id is not a given one, they have the
same connective and conditions, and groups with the same ids. -/
def SameUnless (i : String) (x x' : ConditionGroup × Int) : Prop :=
  x'.1.id = x.1.id ∧ x'.2 = x.2 ∧
    (x.1.id ≠ i → x'.1.frame = x.1.frame ∧ x'.1.groups.map id = x.1.groups.map id)

theorem SameUnless.refl (i : String) (x : ConditionGroup × Int) : SameUnless i x x :=
  ⟨rfl, rfl, fun _ ↦ ⟨rfl, rfl⟩⟩

/-- An edit that keeps the nested groups is seen in the groups with the id only. -/
theorem forall₂_groupsAt_editing (hkeeps : ∀ g, ((edit g).id, (edit g).groups) = (g.id, g.groups))
    (g : ConditionGroup) (depth : Int) :
    List.Forall₂ (SameUnless i) (g.groupsAt depth) ((g.editing i edit depth).groupsAt depth) := by
  have hid : ∀ g, (edit g).id = g.id := fun g ↦ congrArg Prod.fst (hkeeps g)
  induction g using inductionOn generalizing depth with
  | step g ih =>
    by_cases h : g.id = i
    · -- A group that is edited is not looked into, so what is below it is as it was.
      have hgroups : (edit g).groups = g.groups := congrArg Prod.snd (hkeeps g)
      rw [editing_of_eq h, groupsAt_eq, groupsAt_eq, hgroups]
      exact .cons ⟨hid g, rfl, fun hne ↦ absurd h hne⟩ (List.forall₂_same.mpr fun x _ ↦ .refl i x)
    · have hids : (g.groups.map (editing i edit (depth + 1))).map id = g.groups.map id := by
        rw [List.map_map]
        exact List.map_congr_left fun k _ ↦ id_editing hid k
      rw [editing_of_ne h, groupsAt_eq, groupsAt_eq, List.flatMap_map, List.flatMap_def,
        List.flatMap_def]
      refine .cons ⟨rfl, rfl, fun _ ↦ ⟨rfl, hids⟩⟩ (List.rel_flatten ?_)
      rw [List.forall₂_map_left_iff, List.forall₂_map_right_iff, List.forall₂_same]
      exact fun k hk ↦ ih k hk (depth + 1)

/-- The tree `g'` is `g` after an edit of the group with an id, and of nothing else. -/
structure EditsOnly (i : String) (edit : ConditionGroup → ConditionGroup)
    (g g' : ConditionGroup) : Prop where
  found : g'.find? i = (g.find? i).map edit
  places : (g'.groupsAt 0).map (fun x ↦ (x.1.id, x.2)) =
    (g.groupsAt 0).map fun x ↦ (x.1.id, x.2)
  /-- Every other group has what it had, up to edits further down. -/
  others : List.Forall₂ (SameUnless i) (g.groupsAt 0) (g'.groupsAt 0)

theorem editsOnly_editing (hkeeps : ∀ g, ((edit g).id, (edit g).groups) = (g.id, g.groups))
    (g : ConditionGroup) : EditsOnly i edit g (g.editing i edit 0) where
  found := find?_editing (fun g ↦ congrArg Prod.fst (hkeeps g)) g 0
  places := by
    have hsame := forall₂_groupsAt_editing (i := i) hkeeps g 0
    rw [eq_comm, ← List.forall₂_eq_eq_eq, List.forall₂_map_left_iff, List.forall₂_map_right_iff]
    exact hsame.imp fun x x' h ↦ Prod.ext h.1.symm h.2.1.symm
  others := forall₂_groupsAt_editing hkeeps g 0

/-- A patch that can be read is made, whether or not there is anything to do. -/
theorem exists_update_eq {g : ConditionGroup} {fs : Fields} (hpatch : patch fs = .ok edit) :
    ∃ r, g.update i fs = .ok r ∧ r.getD g = g.editing i edit 0 := by
  rw [update]
  split
  next hnothing =>
    refine ⟨none, rfl, ?_⟩
    rw [Bool.or_eq_true, Option.isNone_iff_eq_none, find?_eq_none_iff] at hnothing
    rcases hnothing with habsent | hsame
    · rw [editing, changedAt, changeAt_eq_none_iff.mpr habsent]
    · exact (editing_eq_self (patch_keeps_of_changesNothing hsame edit hpatch) g 0).symm
  next =>
    rw [hpatch]
    exact ⟨_, rfl, rfl⟩

end Edit

/-! ## Removing -/

section Remove

variable {i : String}

/-- Only the items that pass count, if nothing comes of the others. -/
theorem flatMap_filter_of_forall {α β : Type} {p : α → Bool} {f f' : α → List β} {l : List α}
    (hpass : ∀ a ∈ l, p a → f a = f' a) (hnot : ∀ a ∈ l, ¬ p a → f' a = []) :
    (l.filter p).flatMap f = l.flatMap f' := by
  induction l with
  | nil => rfl
  | cons a l ih =>
    obtain ⟨hpassa, hpass⟩ := List.forall_mem_cons.mp hpass
    obtain ⟨hnota, hnot⟩ := List.forall_mem_cons.mp hnot
    rw [List.flatMap_cons, ← ih hpass hnot]
    by_cases h : p a
    · rw [List.filter_cons_of_pos h, List.flatMap_cons, hpassa h]
    · rw [List.filter_cons_of_neg h, hnota h, List.nil_append]

/-- Whether a group is neither one of those with an id nor in one of them. -/
def isOutside (i : String) (l : ConditionGroup × List ConditionGroup) : Bool :=
  (l.1 :: l.2).all (·.id ≠ i)

/-- A group and the groups around it, each by itself. -/
def lineageFrames (l : ConditionGroup × List ConditionGroup) : Frame × List Frame :=
  (l.1.frame, l.2.map frame)

/-- The groups around a tree are around all groups in it. -/
theorem subset_of_mem_lineages {g : ConditionGroup} {around : List ConditionGroup}
    {l : ConditionGroup × List ConditionGroup} (hl : l ∈ g.lineages around) : around ⊆ l.2 := by
  induction g using inductionOn generalizing around with
  | step g ih =>
    rw [lineages_eq, List.mem_cons] at hl
    rcases hl with rfl | hl
    · exact List.Subset.refl _
    · obtain ⟨k, hk, hl⟩ := List.mem_flatMap.mp hl
      exact List.Subset.trans (List.subset_cons_self _ _) (ih k hk hl)

/-- A tree is, or is around, every group in it. -/
theorem mem_of_mem_lineages {g : ConditionGroup} {around : List ConditionGroup}
    {l : ConditionGroup × List ConditionGroup} (hl : l ∈ g.lineages around) : g ∈ l.1 :: l.2 := by
  rw [lineages_eq, List.mem_cons] at hl
  rcases hl with rfl | hl
  · exact List.mem_cons_self
  · obtain ⟨k, -, hl⟩ := List.mem_flatMap.mp hl
    exact List.mem_cons_of_mem _ (subset_of_mem_lineages hl List.mem_cons_self)

theorem filter_lineages_of_eq {g : ConditionGroup} (around : List ConditionGroup) (h : g.id = i) :
    (g.lineages around).filter (isOutside i) = [] := by
  rw [List.filter_eq_nil_iff]
  intro l hl hout
  have hne := List.all_eq_true.mp hout g (mem_of_mem_lineages hl)
  simp [h] at hne

/-- What is left by a removal, wherever the tree stands, are the groups outside those with the id,
each in its place. -/
theorem lineages_removing (g : ConditionGroup) {around around' : List ConditionGroup}
    (haround : around'.map frame = around.map frame) (hout : isOutside i (g, around)) :
    ((g.removing i).lineages around').map lineageFrames =
      ((g.lineages around).filter (isOutside i)).map lineageFrames := by
  induction g using inductionOn generalizing around around' with
  | step g ih =>
    have hframe : (g.removing i).frame = g.frame := by
      rw [removing_eq]
      rfl
    have hnested : (g.removing i :: around').map frame = (g :: around).map frame := by
      rw [List.map_cons, List.map_cons, haround, hframe]
    have hgroups : (g.removing i).groups = (g.groups.filter (·.id ≠ i)).map (removing i) := by
      rw [removing_eq]
    rw [lineages_eq, lineages_eq, List.filter_cons_of_pos hout, List.map_cons, List.map_cons,
      lineageFrames, lineageFrames, hframe, haround]
    refine congrArg _ ?_
    rw [hgroups, List.flatMap_map, List.map_flatMap, List.filter_flatMap, List.map_flatMap]
    refine flatMap_filter_of_forall ?_ ?_
    · intro k hk hne
      refine ih k hk hnested ?_
      rw [isOutside, List.all_cons, hne, Bool.true_and]
      exact hout
    · -- A group with the id goes with all that is below it.
      intro k _ heq
      rw [filter_lineages_of_eq _ (by simpa using heq), List.map_nil]

/-! ### Members with their depths -/

/-- A member of the tree by itself. -/
def alone : ConditionNode → Frame ⊕ Condition
  | .group g => .inl g.frame
  | .condition c => .inr c

/-- A group and its conditions, at the depth that is told by the groups around it. -/
def membersAt (l : Frame × List Frame) : List ((Frame ⊕ Condition) × Int) :=
  (.inl l.1, l.2.length) :: l.1.conditions.map fun c ↦ (.inr c, l.2.length)

theorem nodesOf_eq_flatMap (depth : Int) (gs : List ConditionGroup) :
    nodesOf depth gs = gs.flatMap (nodes depth) := by
  induction gs with
  | nil => rfl
  | cons g gs ih => rw [nodesOf, ih, List.flatMap_cons]

/-- The members of a tree are those of its groups, one after another. -/
theorem map_alone_nodes (g : ConditionGroup) (around : List ConditionGroup) :
    (g.nodes around.length).map (fun x ↦ (alone x.1, x.2)) =
      ((g.lineages around).map lineageFrames).flatMap membersAt := by
  induction g using inductionOn generalizing around with
  | step g ih =>
    have hdepth : (around.length : Int) + 1 = (g :: around).length := by simp
    have hown : (((ConditionNode.group g, (around.length : Int)) ::
          g.conditions.map fun c ↦ (.condition c, (around.length : Int))).map
            fun x ↦ (alone x.1, x.2)) = membersAt (lineageFrames (g, around)) := by
      simp [membersAt, lineageFrames, frame, alone]
    rw [nodes_eq, lineages_eq, nodesOf_eq_flatMap, List.map_append, hown, List.map_cons,
      List.flatMap_cons, List.map_flatMap, List.map_flatMap, List.flatMap_assoc, hdepth]
    exact congrArg _ (List.flatMap_congr fun k hk ↦ ih k hk (g :: around))

/-- The tree `g'` is `g` without the groups with an id that are nested in it, and whatever else is
in them. -/
structure RemovesOnly (i : String) (g g' : ConditionGroup) : Prop where
  root : g'.frame = g.frame
  gone : ∀ h ∈ g'.allGroups, h.id ≠ i
  /-- The groups that stay, each with its conditions, have their order and the groups around
  them. -/
  groups : (g'.lineages []).map lineageFrames =
    ((g.lineages []).filter (isOutside i)).map lineageFrames
  /-- The members that stay have their order and their depths. -/
  members : (g'.nodes 0).map (fun x ↦ (alone x.1, x.2)) =
    ((g.lineages []).filter (isOutside i)).flatMap fun l ↦ membersAt (lineageFrames l)

theorem removesOnly_removing {g : ConditionGroup} (hne : g.id ≠ i) :
    RemovesOnly i g (g.removing i) := by
  have hout : isOutside i (g, []) := by simpa [isOutside] using hne
  have hlineages : ((g.removing i).lineages []).map lineageFrames =
      ((g.lineages []).filter (isOutside i)).map lineageFrames := lineages_removing g rfl hout
  refine { root := ?_, gone := ?_, groups := hlineages, members := ?_ }
  · rw [removing_eq]
    rfl
  · intro h hh
    rw [← map_fst_lineages []] at hh
    obtain ⟨l, hl, rfl⟩ := List.mem_map.mp hh
    have hmem := List.mem_map_of_mem (f := lineageFrames) hl
    rw [hlineages] at hmem
    obtain ⟨k, hk, hsame⟩ := List.mem_map.mp hmem
    have hid : l.1.id = k.1.id := congrArg (fun l ↦ l.1.id) hsame.symm
    have hout := (List.mem_filter.mp hk).2
    rw [isOutside, List.all_cons, Bool.and_eq_true, decide_eq_true_eq] at hout
    exact hid ▸ hout.1
  · have hnodes := map_alone_nodes (g.removing i) []
    rw [hlineages, List.flatMap_map] at hnodes
    exact hnodes

theorem without_eq (g : ConditionGroup) :
    g.without i = (withoutIn i g.groups).map fun groups ↦ { g with groups } := by
  cases g
  rfl

/-- There is nothing to remove if no group has the id. -/
theorem without_eq_none {g : ConditionGroup} (habsent : ∀ h ∈ g.allGroups, h.id ≠ i) :
    g.without i = none := by
  induction g using inductionOn with
  | step g ih =>
    obtain ⟨-, hgroups⟩ := forall_mem_allGroups.mp habsent
    have hnone : withoutIn i g.groups = none := by
      generalize g.groups = gs at ih hgroups
      induction gs with
      | nil => rfl
      | cons k gs ihgs =>
        obtain ⟨hk, hgs⟩ := List.forall_mem_cons.mp hgroups
        obtain ⟨ihk, ih⟩ := List.forall_mem_cons.mp ih
        rw [withoutIn, if_neg (forall_mem_allGroups.mp hk).1, ihk hk, ihgs ih hgs]
    rw [without_eq, hnone, Option.map_none]

end Remove

/-! ## The main statement -/

/-- Adding a condition to the group with an id, or patching it with anything but groups, is seen in
that group only: what is looked up afterwards is what was found before, edited.  Removing the groups
with an id takes nothing but them and what is in them, and does not take the root.  Where no group
has the id, the tree stays as it is.  Ids may be repeated; an edit is then made in each of the
groups with the id that is not in another one of them. -/
theorem edits_reach_only_their_group (g : ConditionGroup) (i : String) :
    (∀ c, EditsOnly i (·.addCondition c) g ((g.addConditionTo i c).getD g)) ∧
      (∀ fs edit, fs.lookup "groups" = none → patch fs = .ok edit →
        ∃ r, g.update i fs = .ok r ∧ EditsOnly i edit g (r.getD g)) ∧
      (i ≠ g.id → RemovesOnly i g ((g.removeGroup i).getD g)) ∧
      g.removeGroup g.id = none ∧
      ((∀ h ∈ g.allGroups, h.id ≠ i) →
        (∀ c, g.addConditionTo i c = none) ∧ (∀ fs, g.update i fs = .ok none) ∧
          g.removeGroup i = none) := by
  refine ⟨?_, ?_, ?_, if_pos rfl, ?_⟩
  · intro c
    have hkeeps (g : ConditionGroup) :
        ((g.addCondition c).id, (g.addCondition c).groups) = (g.id, g.groups) := rfl
    exact editsOnly_editing hkeeps g
  · intro fs edit hgroups hpatch
    obtain ⟨r, hr, hedited⟩ := exists_update_eq (g := g) (i := i) hpatch
    refine ⟨r, hr, ?_⟩
    rw [hedited]
    exact editsOnly_editing (patch_keeps_groups hgroups edit hpatch) g
  · intro hne
    rw [removeGroup, if_neg hne.symm]
    exact removesOnly_removing hne.symm
  · intro habsent
    refine ⟨fun c ↦ changeAt_eq_none_iff.mpr habsent, fun fs ↦ ?_, ?_⟩
    · rw [update, find?_eq_none_iff.mpr habsent]
      rfl
    · rw [removeGroup, without_eq_none habsent, ite_self]

/-- A group with a nested one is turned into an alternative, and then removed with what is in it. -/
theorem edits_reach_only_their_group_of_shelfFilter :
    ∃ edit, patch [("operator", .text "OR")] = .ok edit ∧
      (∃ r, shelfFilter.update "2" [("operator", .text "OR")] = .ok r ∧
        EditsOnly "2" edit shelfFilter (r.getD shelfFilter)) ∧
      RemovesOnly "2" shelfFilter ((shelfFilter.removeGroup "2").getD shelfFilter) ∧
      ((shelfFilter.removeGroup "2").getD shelfFilter).allGroups.map id = ["1", "5"] ∧
      shelfFilter.addConditionTo "4" { id := "9", subject := ⟨"s", "row"⟩ } = none := by
  obtain ⟨-, hupdate, hremove, -, -⟩ := edits_reach_only_their_group shelfFilter "2"
  obtain ⟨-, -, -, -, habsent⟩ := edits_reach_only_their_group shelfFilter "4"
  have hpatch : patch [("operator", .text "OR")] = .ok _ := rfl
  obtain ⟨hadd, -, -⟩ := habsent (by decide)
  exact ⟨_, hpatch, hupdate _ _ rfl hpatch, hremove (by decide), by decide, hadd _⟩

end ConditionGroup

end SelectBuilder
