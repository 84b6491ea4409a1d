import SelectBuilder.Proofs.Filter.Undoing
import SelectBuilder.Proofs.Query.Commuting

/-!
# Removing what was added

Adding a part to a query and removing it again gives back the query, as long as nothing in the query
could be mistaken for the part: no part of its kind has its id, or nothing refers to its table.

What is added goes to the end of its clause, so that clauses that are lists are dealt with by
filters.  A table could take other parts with it when it is removed, and a condition its group; that
they do not is where more is asked for than a new id.
-/

namespace SelectBuilder

theorem Identified.without?_append {α : Type} [Identified α] {items : List α} {a : α}
    (h : id a ∉ items.map id) : without? (items ++ [a]) (id a) = some items := by
  rw [without?, filter_ne_append h, if_neg (by simp)]

namespace Query

variable {q : Query}

/-- The ids of the groups of the filter. -/
def groupIds (q : Query) : List String :=
  (q.filter.map fun g ↦ g.allGroups.map ConditionGroup.id).getD []

/-! ## Tables -/

theorem removeTable_addTable (q : Query) (t : Table) :
    ∃ a, (q.addTable t).aliases = q.aliases ++ [a] ∧ a ∉ q.aliases ∧
      (q.references a = [] → (q.addTable t).removeTable a = some q) := by
  obtain ⟨t', hadd, hadded⟩ := q.exists_addTable t
  refine ⟨t'.aliasName, by simp [hadd, aliases], hadded.new, fun hreferences ↦ ?_⟩
  have hmem : t'.aliasName ∈ (q.addTable t).aliases := by simp [hadd, aliases]
  obtain ⟨r, hr⟩ := exists_removeTable hmem
  have hrest : (q.addTable t).references t'.aliasName = [] := by rwa [hadd]
  have htables : r.tables = q.tables := by
    rw [(removeTable_drops hr).tables, hadd]
    exact filter_ne_append hadded.new
  rw [hr, eq_of_references_eq_nil hr hrest, htables, hadd]

/-! ## Grouping -/

theorem removeGrouping_addGrouping {r : ColumnRef} (hr : r ∉ q.grouping) :
    (q.applied (·.addGrouping r)).removeGrouping r = some q := by
  have hkept : (q.grouping ++ [r]).filter (· ≠ r) = q.grouping := by
    refine filter_ne_append fun hmem ↦ hr ?_
    rwa [List.map_id'] at hmem
  rw [applied, addGrouping, if_neg hr, Option.getD_some, removeGrouping, if_pos (by simp)]
  simp only [hkept]

/-! ## The filter -/

section Filter

variable {g : ConditionGroup} (hg : q.filter = some g)

include hg

/-- A change of the groups with an id, if there is an id to look for. -/
theorem getD_bind_changeAt (o : Option String)
    (change : ConditionGroup → Int → Option ConditionGroup) :
    (o.bind fun i ↦ (g.changeAt i change 0).map q.setFilter).getD q =
      o.elim q fun i ↦ q.setFilter (g.changedAt i change 0) := by
  cases o with
  | none => rfl
  | some i =>
    rw [Option.bind_some, Option.elim_some, ConditionGroup.changedAt]
    cases g.changeAt i change 0 with
    | none => exact (with_filter hg).symm
    | some g' => rfl

theorem applied_addGroup (new : ConditionGroup) (parent : Value) (limit : DepthLimit) :
    q.applied (·.addGroup new parent limit) =
      (target g parent).elim q fun i ↦ q.setFilter (g.changedAt i (fun g depth ↦
        if limit.excludes (depth + (1 + new.height)) then none else some (g.addGroup new)) 0) := by
  simp only [applied, addGroup, hg]
  exact getD_bind_changeAt hg _ _

theorem applied_addCondition (c : Condition) (group : Value) (rootId : String) :
    q.applied (·.addCondition c group rootId) =
      (target g group).elim q fun i ↦
        q.setFilter (g.changedAt i (fun g _ ↦ some (g.addCondition c)) 0) := by
  simp only [applied, addCondition, hg]
  exact getD_bind_changeAt hg _ _

/-- A group that is not the root is removed from below it. -/
theorem applied_removeGroup {i : String} (hne : g.id ≠ i) :
    q.applied (·.removeGroup i) = q.setFilter (g.removing i) := by
  rw [applied, removeGroup, hg, Option.bind_some, if_neg hne, ConditionGroup.removeGroup,
    if_neg hne, ConditionGroup.removing]
  cases g.without i with
  | none => exact (with_filter hg).symm
  | some g' => rfl

end Filter

theorem removeGroup_addGroup {new : ConditionGroup} (hnew : new.id ∉ q.groupIds) (parent : Value)
    (limit : DepthLimit) :
    (q.applied (·.addGroup new parent limit)).applied (·.removeGroup new.id) = q := by
  cases hg : q.filter with
  | none =>
    by_cases hlimit : limit.excludes new.height
    · simp [applied, addGroup, removeGroup, hg, hlimit]
    · simp [applied, addGroup, removeGroup, hg, hlimit, setFilter, with_filter hg]
  | some g =>
    have hids : ∀ g' ∈ g.allGroups, g'.id ≠ new.id := by
      intro g' hg' heq
      exact hnew (by simpa [groupIds, hg] using ⟨g', hg', heq⟩)
    have hroot : g.id ≠ new.id := (ConditionGroup.forall_mem_allGroups.mp hids).1
    rw [applied_addGroup hg]
    cases target g parent with
    | none =>
      rw [Option.elim_none, applied_removeGroup hg hroot, ConditionGroup.removing_of_forall hids]
      exact with_filter hg
    | some i =>
      have hroot' : (g.changedAt i (fun g depth ↦ if limit.excludes (depth + (1 + new.height))
          then none else some (g.addGroup new)) 0).id ≠ new.id := by
        rwa [ConditionGroup.id_changedAt fun g depth ↦ by split <;> rfl]
      have hback := ConditionGroup.removing_changedAt i (fun g depth ↦
        if limit.excludes (depth + (1 + new.height)) then none else some (g.addGroup new))
        (fun g depth ↦ by split <;> simp) g 0 hids
      rw [Option.elim_some, applied_removeGroup rfl hroot', hback]
      exact with_filter hg

/-- The groups that the condition is added to are to have something in them already. -/
theorem removeCondition_addCondition {c : Condition} (hc : ∀ c' ∈ q.conditions, c'.id ≠ c.id)
    (group : Value) (rootId : String)
    (hfull : ∀ g i, q.filter = some g → target g group = some i →
      ∀ h ∈ g.allGroups, h.id = i → ¬ h.isEmpty) :
    (q.applied (·.addCondition c group rootId)).applied (·.removeCondition c.id) = q := by
  rw [applied_removeCondition]
  cases hg : q.filter with
  | none =>
    -- The new root has no condition but this one.
    have hempty : (ConditionGroup.prune (·.id = c.id) { id := rootId, conditions := [c] }).rest
        { id := rootId, conditions := [c] } = none := by
      simp [ConditionGroup.prune, ConditionGroup.pruneIn, Pruned.rest]
    simp only [applied, addCondition, hg, Option.getD_some, setFilter, Option.bind_some, hempty]
    exact with_filter hg
  | some g =>
    have hids : ∀ c' ∈ g.allConditions, c'.id ≠ c.id := by simpa [conditions, hg] using hc
    rw [applied_addCondition hg]
    cases htarget : target g group with
    | none =>
      rw [Option.elim_none, hg, Option.bind_some,
        g.prune_eq_untouched _ fun c' hc' ↦ decide_eq_false (hids c' hc')]
      exact with_filter hg
    | some i =>
      have hback := g.rest_prune_changedAt 0 hids (hfull g i hg htarget)
      rw [Option.elim_some, setFilter, Option.bind_some, hback]
      exact with_filter hg

/-! ## The main statement -/

/-- Removing what was added gives back the query.

The parts of a clause need an id that no part of the clause has, and a pair of grouping columns must
be new.  Nothing may refer yet to the alias that the table gets.  A group can be added anywhere, and
even refused; a condition can be added to any group but one that is empty, which would go with it.
-/
theorem removal_undoes_addition (q : Query) (hids : q.groupIds.Nodup) :
    (∀ c, c.id ∉ q.ids .column → (q.addColumn c).removeColumn c.id = some q) ∧
    (∀ j, j.id ∉ q.ids .join → (q.addJoin j).removeJoin j.id = some q) ∧
    (∀ h, h.id ∉ q.ids .having → (q.addHaving h).removeHaving h.id = some q) ∧
    (∀ k, k.id ∉ q.ids .sorting → (q.addSorting k).removeSorting k.id = some q) ∧
    (∀ r, r ∉ q.grouping → (q.applied (·.addGrouping r)).removeGrouping r = some q) ∧
    (∀ t, ∃ a, (q.addTable t).aliases = q.aliases ++ [a] ∧ a ∉ q.aliases ∧
      (q.references a = [] → (q.addTable t).removeTable a = some q)) ∧
    (∀ new parent limit, new.id ∉ q.groupIds →
      (q.applied (·.addGroup new parent limit)).applied (·.removeGroup new.id) = q) ∧
    ∀ c group rootId, (∀ c' ∈ q.conditions, c'.id ≠ c.id) →
      (∀ g h, q.filter = some g → (target g group).bind g.find? = some h → ¬ h.isEmpty) →
      (q.applied (·.addCondition c group rootId)).applied (·.removeCondition c.id) = q := by
  refine ⟨fun c hc ↦ ?_, fun j hj ↦ ?_, fun h hh ↦ ?_, fun k hk ↦ ?_,
    fun r hr ↦ removeGrouping_addGrouping hr,
    removeTable_addTable q, fun new parent limit hnew ↦ removeGroup_addGroup hnew parent limit,
    fun c group rootId hc hfull ↦ removeCondition_addCondition hc group rootId ?_⟩
  · exact congrArg (Option.map _) (Identified.without?_append hc)
  · exact congrArg (Option.map _) (Identified.without?_append hj)
  · exact congrArg (Option.map _) (Identified.without?_append hh)
  · exact congrArg (Option.map _) (Identified.without?_append hk)
  · intro g i hg htarget h hmem hid
    refine hfull g h hg ?_
    rw [htarget, Option.bind_some, ← hid]
    exact ConditionGroup.find?_eq_some_of_mem (by simpa [groupIds, hg] using hids) hmem

/-- A condition is added to a group that has one, a group to one that is empty, and a table that
nothing refers to. -/
theorem additions_to_staffQuery_undone :
    staffQuery.groupIds.Nodup ∧
    (staffQuery.applied (·.addCondition { id := "20", subject := ⟨"w", "beds"⟩ } (.text "8")
      "where")).applied (·.removeCondition "20") = staffQuery ∧
    (staffQuery.applied (·.addGroup { id := "21" } (.text "13") (.depth 3))).applied
      (·.removeGroup "21") = staffQuery ∧
    ∃ a, (staffQuery.addTable { aliasName := "", name := "Staff" }).aliases = ["s", "w", a] ∧
      (staffQuery.addTable { aliasName := "", name := "Staff" }).removeTable a =
        some staffQuery := by
  have hids : staffQuery.groupIds.Nodup := by decide
  obtain ⟨-, -, -, -, -, htable, hgroup, hcondition⟩ := removal_undoes_addition staffQuery hids
  refine ⟨hids, hcondition _ _ _ (by decide) ?_, hgroup _ _ _ (by decide), ?_⟩
  · rintro g h ⟨⟩ ⟨⟩
    decide
  · obtain ⟨a, haliases, -, hremove⟩ := htable { aliasName := "", name := "Staff" }
    have hstaff : (staffQuery.addTable { aliasName := "", name := "Staff" }).aliases =
        staffQuery.aliases ++ ["staff"] := by decide +kernel
    obtain rfl : "staff" = a := by simpa using hstaff.symm.trans haliases
    exact ⟨"staff", haliases, hremove (by decide)⟩

/-- An empty group does not outlast the condition that is added to it. -/
example : ((staffQuery.applied (·.addCondition { id := "20", subject := ⟨"w", "beds"⟩ }
    (.text "13") "where")).applied (·.removeCondition "20")).groupIds = ["6", "8", "10"] := by
  decide

end Query

end SelectBuilder
