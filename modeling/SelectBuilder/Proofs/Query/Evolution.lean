import SelectBuilder.Proofs.Filter.Height
import SelectBuilder.Proofs.Filter.Ids
import SelectBuilder.Proofs.Query.Alias
import SelectBuilder.Proofs.Query.Reading
import SelectBuilder.Query.Edit

/-!
# How edits lead from query to query

Aliases of tables, grouping columns and ids are to stay distinct under all edits, and the filter is
to stay within the limit of its depth.  What keeps them so is said of a single edit by `Evolves`:
the ids of the new query are ids of the old one, and besides at most those that were drawn for the
edit, each once.  So much holds of every edit without knowing where the new ids come from.  That the
ids of the new query are distinct takes ids that are new, and is left to those who draw them.
-/

namespace SelectBuilder

/-! ## Parts addressed by an id -/

namespace Identified

variable {α : Type} [Identified α] {items items' : List α} {i : String}

theorem map_id_of_without? (h : without? items i = some items') :
    (items'.map id).Sublist (items.map id) := by
  rw [without?] at h
  split at h
  case isTrue => cases h
  cases h
  exact List.filter_sublist.map id

theorem map_id_of_patched? {patch : Fields → Checked (α → α)} {fs : Fields}
    (hpatch : (patch fs).Keeps id) (h : patched? patch items i fs = .ok (some items')) :
    items'.map id = items.map id := by
  rw [patched?] at h
  split at h
  case isFalse => cases h
  obtain ⟨change, hchange, heq⟩ := Checked.of_map_eq_ok h
  cases heq
  rw [List.map_map]
  refine List.map_congr_left fun a _ ↦ ?_
  rw [Function.comp_apply]
  split
  next => exact hpatch change hchange a
  next => rfl

theorem perm_of_moved? {index : Int} (h : moved? items i index = some items') :
    items'.Perm items := by
  rw [moved?] at h
  split at h
  case h_1 => cases h
  case h_2 a hfind =>
    cases h
    refine (List.perm_insertIdx a _ (Nat.min_le_right _ _)).trans ?_
    obtain ⟨ha, before, after, rfl, hbefore⟩ := List.find?_eq_some_iff_append.mp hfind
    rw [List.eraseP_append_right _ (by simpa using hbefore),
      List.eraseP_cons_of_pos (p := fun x : α ↦ decide (id x = i)) ha]
    exact List.perm_middle.symm

end Identified

/-! ## Evolution -/

/-- What ids can be of.  The members of the filter share theirs. -/
inductive IdKind where
  | column
  | join
  | filter
  | having
  | sorting
deriving DecidableEq, Repr

namespace Query

/-- The ids of one kind. -/
def ids (q : Query) : IdKind → List String
  | .column => q.columns.map Selection.id
  | .join => q.joins.map Join.id
  | .filter => (q.filter.map ConditionGroup.ids).getD []
  | .having => q.having.map GroupFilter.id
  | .sorting => q.sorting.map SortKey.id

def DistinctIds (q : Query) : Prop := ∀ kind, (q.ids kind).Nodup

/-- Whether the filter, if there is one, is nested down to a limit at most. -/
def WithinDepth (q : Query) (limit : Nat) : Prop := ∀ g, q.filter = some g → g.height ≤ limit

/-- The query `r` comes from `q` by an edit for which some ids were drawn. -/
structure Evolves (limit : Nat) (drawn : List String) (q r : Query) : Prop where
  aliases : q.aliases.Nodup → r.aliases.Nodup
  grouping : q.grouping.Nodup → r.grouping.Nodup
  ids : q.DistinctIds → ∀ kind, (r.ids kind).Subperm (drawn ++ q.ids kind)
  height : q.WithinDepth limit → r.WithinDepth limit

variable {q r : Query} {limit : Nat} {drawn : List String}

theorem DistinctIds.of_evolves (hq : q.DistinctIds) (h : q.Evolves limit drawn r)
    (hdrawn : drawn.Nodup) (hnew : ∀ kind, ∀ i ∈ drawn, i ∉ q.ids kind) : r.DistinctIds := by
  intro kind
  have hall : (drawn ++ q.ids kind).Nodup :=
    List.nodup_append.mpr ⟨hdrawn, hq kind, fun i hi j hj hij ↦ hnew kind i hi (hij ▸ hj)⟩
  rw [List.nodup_iff_count_le_one] at hall ⊢
  exact fun i ↦ Nat.le_trans ((h.ids hq kind).count_le i) (hall i)

/-! ## Edits of a single clause -/

namespace Evolves

theorem refl (limit : Nat) (drawn : List String) (q : Query) : q.Evolves limit drawn q where
  aliases := id
  grouping := id
  ids _ _ := (List.sublist_append_right _ _).subperm
  height := id

theorem of_tables {tables : List Table}
    (h : q.aliases.Nodup → (tables.map Table.aliasName).Nodup) :
    q.Evolves limit drawn { q with tables } :=
  { refl limit drawn q with aliases := h }

theorem of_grouping {grouping : List ColumnRef} (h : q.grouping.Nodup → grouping.Nodup) :
    q.Evolves limit drawn { q with grouping } :=
  { refl limit drawn q with grouping := h }

/-- An edit of a clause whose parts have ids. -/
theorem of_kind (kind : IdKind) (haliases : r.aliases = q.aliases)
    (hgrouping : r.grouping = q.grouping) (hfilter : r.filter = q.filter)
    (hothers : ∀ k ≠ kind, r.ids k = q.ids k)
    (h : (r.ids kind).Subperm (drawn ++ q.ids kind)) : q.Evolves limit drawn r where
  aliases := haliases ▸ id
  grouping := hgrouping ▸ id
  ids hq k := by
    by_cases hk : k = kind
    · exact hk ▸ h
    · exact hothers k hk ▸ (refl limit drawn q).ids hq k
  height hq g hg := hq g (hfilter ▸ hg)

theorem of_filter {filter : Option ConditionGroup}
    (hids : (q.ids .filter).Nodup →
      ((filter.map ConditionGroup.ids).getD []).Subperm (drawn ++ q.ids .filter))
    (hheight : q.WithinDepth limit → ∀ g, filter = some g → g.height ≤ limit) :
    q.Evolves limit drawn { q with filter } where
  aliases := id
  grouping := id
  ids hq k := by
    by_cases hk : k = .filter
    · exact hk ▸ hids (hq .filter)
    · have hsame : Query.ids { q with filter } k = q.ids k := by
        cases k <;> first | rfl | exact absurd rfl hk
      exact hsame ▸ (refl limit drawn q).ids hq k
  height := hheight

theorem of_clearFilter : q.Evolves limit drawn { q with filter := none } :=
  of_filter (fun _ ↦ List.nil_subperm) fun _ _ h ↦ nomatch h

theorem of_setFilter {g g' : ConditionGroup} (hg : q.filter = some g)
    (hids : g.ids.Nodup → g'.ids.Subperm (drawn ++ g.ids))
    (hheight : g'.height ≤ max g.height limit) : q.Evolves limit drawn (q.setFilter g') := by
  have hfilter : q.ids .filter = g.ids := by
    rw [Query.ids, hg]
    rfl
  refine of_filter (hfilter ▸ hids) fun hq h hh ↦ ?_
  cases hh
  exact Nat.le_trans hheight (Nat.max_le.mpr ⟨hq g hg, Nat.le_refl limit⟩)

theorem of_columns {columns : List Selection}
    (h : (columns.map Selection.id).Subperm (drawn ++ q.columns.map Selection.id)) :
    q.Evolves limit drawn { q with columns } :=
  of_kind .column rfl rfl rfl (fun k hk ↦ by cases k <;> first | rfl | exact absurd rfl hk) h

theorem of_joins {joins : List Join}
    (h : (joins.map Join.id).Subperm (drawn ++ q.joins.map Join.id)) :
    q.Evolves limit drawn { q with joins } :=
  of_kind .join rfl rfl rfl (fun k hk ↦ by cases k <;> first | rfl | exact absurd rfl hk) h

theorem of_having {having : List GroupFilter}
    (h : (having.map GroupFilter.id).Subperm (drawn ++ q.having.map GroupFilter.id)) :
    q.Evolves limit drawn { q with having } :=
  of_kind .having rfl rfl rfl (fun k hk ↦ by cases k <;> first | rfl | exact absurd rfl hk) h

theorem of_sorting {sorting : List SortKey}
    (h : (sorting.map SortKey.id).Subperm (drawn ++ q.sorting.map SortKey.id)) :
    q.Evolves limit drawn { q with sorting } :=
  of_kind .sorting rfl rfl rfl (fun k hk ↦ by cases k <;> first | rfl | exact absurd rfl hk) h

/-! Edits of a clause, of which `set` is known to replace the parts of the clause. -/

section Clause

variable {α : Type} [Identified α] {items : List α} {set : List α → Query} {i : String}
  (hset : ∀ {drawn items'}, (items'.map Identified.id).Subperm (drawn ++ items.map Identified.id) →
    q.Evolves limit drawn (set items'))

include hset

theorem append (a : α) : q.Evolves limit [Identified.id a] (set (items ++ [a])) :=
  hset (List.map_append ▸ List.perm_append_comm.subperm)

theorem without (h : (Identified.without? items i).map set = some r) : q.Evolves limit [] r := by
  obtain ⟨items', hitems', rfl⟩ := Option.map_eq_some_iff.mp h
  exact hset (Identified.map_id_of_without? hitems').subperm

theorem patched {patch : Fields → Checked (α → α)} {fs : Fields}
    (hpatch : (patch fs).Keeps Identified.id)
    (h : Option.map set <$> Identified.patched? patch items i fs = .ok (some r)) :
    q.Evolves limit [] r := by
  obtain ⟨o, ho, hr⟩ := Checked.of_map_eq_ok h
  obtain ⟨items', rfl, rfl⟩ := Option.map_eq_some_iff.mp hr
  exact hset (Identified.map_id_of_patched? hpatch ho ▸ .refl _)

theorem moved {index : Int} (h : (Identified.moved? items i index).map set = some r) :
    q.Evolves limit [] r := by
  obtain ⟨items', hitems', rfl⟩ := Option.map_eq_some_iff.mp h
  exact hset ((Identified.perm_of_moved? hitems').map _).subperm

end Clause

/-- A change of the groups with an id, which keeps what it should at each of them. -/
theorem of_changeAt {g g' : ConditionGroup} {i : String}
    (change : ConditionGroup → Int → Option ConditionGroup) (hg : q.filter = some g)
    (hids : ∀ g depth, ((change g depth).getD g).ids.Subperm (drawn ++ g.ids))
    (hheight : ∀ g depth,
      depth + (((change g depth).getD g).height : Int) ≤ max (depth + g.height) limit)
    (h : g.changeAt i change 0 = some g') : q.Evolves limit drawn (q.setFilter g') := by
  refine of_setFilter hg (fun hnodup ↦ ?_) ?_
  · have hsub := ConditionGroup.ids_changeAt_subperm i change hids g 0 hnodup
    rwa [h, Option.getD_some] at hsub
  · have hle := ConditionGroup.height_changeAt_le i change hheight g 0
    rw [h, Option.getD_some] at hle
    omega

/-- Nothing of this depends on the page. -/
theorem of_page (page : Option { n : Nat // 0 < n } × Option Nat × Value) :
    q.Evolves limit drawn
      { q with limit := page.1, offset := page.2.1, distinct := page.2.2 } where
  aliases := id
  grouping := id
  ids := (refl limit drawn q).ids
  height := id

end Evolves

variable {i : String} {fs : Fields} {index : Int}

/-! ## The edits -/

theorem evolves_addTable (q : Query) (t : Table) : q.Evolves limit [] (q.addTable t) := by
  obtain ⟨t', hadd, hadded⟩ := q.exists_addTable t
  rw [hadd]
  refine .of_tables fun hq ↦ ?_
  rw [List.map_append, List.nodup_append_comm]
  exact List.nodup_cons.mpr ⟨hadded.new, hq⟩

theorem evolves_removeTable (h : q.removeTable i = some r) : q.Evolves limit [] r := by
  rw [removeTable] at h
  split at h
  case isFalse => cases h
  cases h
  refine ⟨fun hq ↦ hq.sublist (List.filter_sublist.map _), fun hq ↦ hq.filter _,
    fun _ kind ↦ ?_, fun hq g hg ↦ ?_⟩
  · cases kind with
    | filter =>
      cases hfilter : q.filter with
      | none => simp [ids, hfilter]
      | some g => simpa [ids, hfilter] using (g.ids_rest_prune_sublist _).subperm
    | column | join | having | sorting => exact (List.filter_sublist.map _).subperm
  · obtain ⟨g₀, hg₀, hrest⟩ := Option.bind_eq_some_iff.mp hg
    exact Nat.le_trans (g₀.height_rest_prune_le _ hrest) (hq g₀ hg₀)

theorem evolves_addColumn (q : Query) (c : Selection) : q.Evolves limit [c.id] (q.addColumn c) :=
  .append .of_columns c

theorem evolves_removeColumn (h : q.removeColumn i = some r) : q.Evolves limit [] r :=
  .without .of_columns h

theorem evolves_updateColumn (h : q.updateColumn i fs = .ok (some r)) : q.Evolves limit [] r :=
  .patched .of_columns (Selection.patch_keeps_id fs) h

theorem evolves_moveColumn (h : q.moveColumn i index = some r) : q.Evolves limit [] r :=
  .moved .of_columns h

theorem evolves_addJoin (q : Query) (j : Join) : q.Evolves limit [j.id] (q.addJoin j) :=
  .append .of_joins j

theorem evolves_removeJoin (h : q.removeJoin i = some r) : q.Evolves limit [] r :=
  .without .of_joins h

theorem evolves_updateJoin (h : q.updateJoin i fs = .ok (some r)) : q.Evolves limit [] r :=
  .patched .of_joins (Join.patch_keeps_id fs) h

theorem evolves_addHaving (q : Query) (a : GroupFilter) :
    q.Evolves limit [a.id] (q.addHaving a) :=
  .append .of_having a

theorem evolves_removeHaving (h : q.removeHaving i = some r) : q.Evolves limit [] r :=
  .without .of_having h

theorem evolves_updateHaving (h : q.updateHaving i fs = .ok (some r)) : q.Evolves limit [] r :=
  .patched .of_having (GroupFilter.patch_keeps_id fs) h

theorem evolves_addSorting (q : Query) (k : SortKey) : q.Evolves limit [k.id] (q.addSorting k) :=
  .append .of_sorting k

theorem evolves_removeSorting (h : q.removeSorting i = some r) : q.Evolves limit [] r :=
  .without .of_sorting h

theorem evolves_updateSorting (h : q.updateSorting i fs = .ok (some r)) : q.Evolves limit [] r :=
  .patched .of_sorting (SortKey.patch_keeps_id fs) h

theorem evolves_moveSorting (h : q.moveSorting i index = some r) : q.Evolves limit [] r :=
  .moved .of_sorting h

/-! ### The filter -/

theorem evolves_clearFilter (h : q.clearFilter = some r) : q.Evolves limit [] r := by
  obtain ⟨g, -, rfl⟩ := Option.map_eq_some_iff.mp h
  exact .of_clearFilter

/-- Without a filter, its root takes an id as well. -/
theorem evolves_addCondition_of_none {c : Condition} {group : Value} {rootId : String}
    (hq : q.filter = none) (h : q.addCondition c group rootId = some r) :
    q.Evolves limit [c.id, rootId] r := by
  rw [addCondition, hq] at h
  cases h
  refine .of_filter (fun _ ↦ ?_) fun _ g hg ↦ ?_
  · rw [ids, hq, Option.map_some, Option.getD_some, ConditionGroup.ids_eq]
    exact (List.Perm.swap c.id rootId []).subperm
  · cases hg
    exact Nat.zero_le limit

theorem evolves_addCondition {g : ConditionGroup} {c : Condition} {group : Value} {rootId : String}
    (hg : q.filter = some g) (h : q.addCondition c group rootId = some r) :
    q.Evolves limit [c.id] r := by
  simp only [addCondition, hg, Option.bind_eq_some_iff, Option.map_eq_some_iff] at h
  obtain ⟨target, -, g', hg', rfl⟩ := h
  refine .of_changeAt (fun g _ ↦ some (g.addCondition c)) hg
    (fun g _ ↦ (g.ids_addCondition c).subperm) (fun g _ ↦ ?_) hg'
  rw [Option.getD_some, ConditionGroup.height_congr (g := g.addCondition c) (h := g) rfl]
  exact Int.le_max_left _ _

theorem eq_of_pruned {p : Pruned ConditionGroup} (h : q.pruned p = some r) (g : ConditionGroup) :
    r = { q with filter := p.rest g } := by
  cases p <;> cases h <;> rfl

theorem evolves_removeCondition (h : q.removeCondition i = some r) : q.Evolves limit [] r := by
  obtain ⟨g, hg, hr⟩ := Option.bind_eq_some_iff.mp h
  obtain rfl := eq_of_pruned hr g
  refine .of_filter (fun _ ↦ ?_) fun hq g' hg' ↦ ?_
  · rw [ids, hg]
    exact (g.ids_rest_prune_sublist _).subperm
  · exact Nat.le_trans (g.height_rest_prune_le _ hg') (hq g hg)

theorem evolves_updateCondition (h : q.updateCondition i fs = .ok (some r)) :
    q.Evolves limit [] r := by
  rw [updateCondition] at h
  split at h
  case h_1 => cases h
  case h_2 g hg =>
    obtain ⟨o, ho, hr⟩ := Checked.of_map_eq_ok h
    obtain ⟨g', rfl, rfl⟩ := Option.map_eq_some_iff.mp hr
    rw [ConditionGroup.updateCondition] at ho
    split at ho
    case isFalse => cases ho
    obtain ⟨change, hchange, hg'⟩ := Checked.of_map_eq_ok ho
    have hids := ConditionGroup.ids_changeConditions i
      (Condition.patch_keeps_id fs change hchange) g
    have hheight := ConditionGroup.height_changeConditions_le i change g
    rw [hg', Option.getD_some] at hids hheight
    exact .of_setFilter hg (fun _ ↦ hids ▸ .refl _) (Nat.le_trans hheight (Nat.le_max_left _ _))

theorem evolves_addGroup {new : ConditionGroup} {parent : Value}
    (h : q.addGroup new parent (.depth limit) = some r) : q.Evolves limit new.ids r := by
  rw [addGroup] at h
  split at h
  case h_1 hq =>
    split at h
    case isTrue => cases h
    case isFalse hin =>
      cases h
      simp only [DepthLimit.excludes_depth] at hin
      refine .of_filter (fun _ ↦ (List.sublist_append_left _ _).subperm) fun _ g hg ↦ ?_
      cases hg
      omega
  case h_2 g hg =>
    simp only [Option.bind_eq_some_iff, Option.map_eq_some_iff] at h
    obtain ⟨target, -, g', hg', rfl⟩ := h
    refine .of_changeAt _ hg (fun g depth ↦ ?_)
      (fun g depth ↦ g.height_nested_le new depth limit) hg'
    split
    next => exact (List.sublist_append_right _ _).subperm
    next => exact (g.ids_addGroup new).subperm

theorem evolves_removeGroup (h : q.removeGroup i = some r) : q.Evolves limit [] r := by
  obtain ⟨g, hg, hr⟩ := Option.bind_eq_some_iff.mp h
  split at hr
  case isTrue =>
    cases hr
    exact .of_clearFilter
  case isFalse hne =>
    obtain ⟨g', hg', rfl⟩ := Option.map_eq_some_iff.mp hr
    rw [ConditionGroup.removeGroup, if_neg hne] at hg'
    have hids := g.ids_without_sublist i
    have hheight := g.height_without_le i
    rw [hg', Option.getD_some] at hids hheight
    exact .of_setFilter hg (fun _ ↦ hids.subperm) (Nat.le_trans hheight (Nat.le_max_left _ _))

/-- A patch of a group may give it other members, which can have any ids and any depth. -/
theorem evolves_updateGroup (hconditions : fs.lookup "conditions" = none)
    (hgroups : fs.lookup "groups" = none) (h : q.updateGroup i fs = .ok (some r)) :
    q.Evolves limit [] r := by
  rw [updateGroup] at h
  split at h
  case h_1 => cases h
  case h_2 g hg =>
    obtain ⟨o, ho, hr⟩ := Checked.of_map_eq_ok h
    obtain ⟨g', rfl, rfl⟩ := Option.map_eq_some_iff.mp hr
    rw [ConditionGroup.update] at ho
    split at ho
    case isTrue => cases ho
    obtain ⟨change, hchange, hg'⟩ := Checked.of_map_eq_ok ho
    have hkeeps := ConditionGroup.patch_keeps_members fs hconditions hgroups change hchange
    simp only [Prod.mk.injEq] at hkeeps
    refine .of_changeAt _ hg (fun g _ ↦ ?_) (fun g _ ↦ ?_) hg'
    · obtain ⟨hid, hconditions, hgroups⟩ := hkeeps g
      rw [Option.getD_some, ConditionGroup.ids_congr hid (by rw [hconditions]) (by rw [hgroups])]
      exact .refl _
    · rw [Option.getD_some, ConditionGroup.height_congr (hkeeps g).2.2]
      exact Int.le_max_left _ _

/-! ### Grouping -/

theorem evolves_addGrouping {c : ColumnRef} (h : q.addGrouping c = some r) :
    q.Evolves limit [] r := by
  rw [addGrouping] at h
  split at h
  case isTrue => cases h
  case isFalse hnew =>
    cases h
    exact .of_grouping fun hq ↦ List.nodup_append_comm.mp (List.nodup_cons.mpr ⟨hnew, hq⟩)

theorem evolves_removeGrouping {c : ColumnRef} (h : q.removeGrouping c = some r) :
    q.Evolves limit [] r := by
  rw [removeGrouping] at h
  split at h
  case isFalse => cases h
  cases h
  exact .of_grouping fun hq ↦ hq.filter _

/-! ### The page -/

theorem evolves_setLimit {v : Value} (h : q.setLimit v = .ok r) : q.Evolves limit [] r := by
  obtain ⟨set, distinct, hset, -, rfl⟩ := Checked.of_seq_eq_ok h
  obtain ⟨l, -, rfl⟩ := Checked.of_map_eq_ok hset
  exact .of_page (l, q.offset, .bool distinct)

theorem evolves_setOffset {v : Value} (h : q.setOffset v = .ok r) : q.Evolves limit [] r := by
  obtain ⟨set, distinct, hset, -, rfl⟩ := Checked.of_seq_eq_ok h
  obtain ⟨o, -, rfl⟩ := Checked.of_map_eq_ok hset
  exact .of_page (q.limit, o, .bool distinct)

theorem evolves_setDistinct (q : Query) (v : Value) : q.Evolves limit [] (q.setDistinct v) :=
  .of_page (q.limit, q.offset, v)

theorem evolves_empty (q : Query) : q.Evolves limit [] .empty where
  aliases _ := List.nodup_nil
  grouping _ := List.nodup_nil
  ids _ kind := by
    cases kind <;> exact List.nil_subperm
  height _ _ h := nomatch h

end Query

end SelectBuilder
