import SelectBuilder.Proofs.Filter.Commuting
import SelectBuilder.Proofs.Query.Evolution
import SelectBuilder.Proofs.Query.TableRemoval

/-!
# Edits of a query in either order

Removals of tables and of conditions can be made in either order, and so can changes of conditions
with different ids.  An edit that has nothing to do hands back the query as it was, and a patch is
not even read where there is nothing to patch; so each edit is first brought into a form that does
not ask whether there is anything to do (`applied_removeTable`, `applied_removeCondition`,
`attempted_updateCondition`).  In that form the clauses are dealt with one by one, and the filter by
what is known of trees.
-/

namespace SelectBuilder

namespace Checked

variable {α β : Type}

/-- Both checks fail, or both find the same. -/
def Agrees (x y : Checked α) : Prop :=
  (∃ a, x = .ok a ∧ y = .ok a) ∨ ∃ ds es, x = .bad ds ∧ y = .bad es

end Checked

namespace Query

/-! ## Queries after edits -/

/-- The query after an edit, which leaves it as it was if there is nothing to do. -/
def applied (edit : Query → Option Query) (q : Query) : Query := (edit q).getD q

/-- The query after an edit that may be refused. -/
def attempted (edit : Query → Checked (Option Query)) (q : Query) : Checked Query :=
  (·.getD q) <$> edit q

variable {q : Query} {i j : String}

/-- The parts of a query that do not refer to a table, and the tables with other aliases. -/
def dropping (q : Query) (aliasName : String) : Query :=
  { q with
    tables := q.tables.filter (·.aliasName ≠ aliasName)
    columns := q.columns.filter (·.source.table ≠ aliasName)
    joins := q.joins.filter fun j ↦ j.left.table ≠ aliasName && j.right.table ≠ aliasName
    filter := q.filter.bind fun g ↦ (g.prune (·.subject.table = aliasName)).rest g
    grouping := q.grouping.filter (·.table ≠ aliasName)
    having := q.having.filter (·.subject.table ≠ aliasName)
    sorting := q.sorting.filter (·.source.table ≠ aliasName) }

theorem applied_removeTable (a : String) (q : Query) :
    q.applied (·.removeTable a) = if a ∈ q.aliases then q.dropping a else q := by
  rw [applied, removeTable]
  split <;> rfl

theorem mem_aliases_dropping {a b : String} :
    b ∈ (q.dropping a).aliases ↔ b ∈ q.aliases ∧ b ≠ a := by
  simp only [aliases, dropping, List.mem_map, List.mem_filter]
  grind

theorem dropping_comm (q : Query) (a b : String) :
    (q.dropping a).dropping b = (q.dropping b).dropping a := by
  have hfilter : (q.filter.bind fun g ↦ (g.prune (·.subject.table = a)).rest g).bind
        (fun g ↦ (g.prune (·.subject.table = b)).rest g) =
      (q.filter.bind fun g ↦ (g.prune (·.subject.table = b)).rest g).bind
        (fun g ↦ (g.prune (·.subject.table = a)).rest g) := by
    simp only [Option.bind_assoc, ConditionGroup.rest_prune_bind, Bool.or_comm]
  simp only [dropping, mk.injEq, hfilter, true_and, and_true]
  exact ⟨List.filter_comm .., List.filter_comm .., List.filter_comm .., List.filter_comm ..,
    List.filter_comm .., List.filter_comm ..⟩

/-- Removals of tables can be made in either order. -/
theorem removeTable_comm (q : Query) (a b : String) :
    (q.applied (·.removeTable a)).applied (·.removeTable b) =
      (q.applied (·.removeTable b)).applied (·.removeTable a) := by
  rcases eq_or_ne a b with rfl | hab
  · rfl
  simp only [applied_removeTable]
  by_cases ha : a ∈ q.aliases <;> by_cases hb : b ∈ q.aliases
  · simp [ha, hb, mem_aliases_dropping, hab, hab.symm, dropping_comm]
  · simp [ha, hb, mem_aliases_dropping]
  · simp [ha, hb, mem_aliases_dropping]
  · simp [ha, hb]

/-! ## Conditions -/

theorem with_filter {o : Option ConditionGroup} (h : q.filter = o) :
    { q with filter := o } = q := by
  subst h
  rfl

theorem applied_removeCondition (i : String) (q : Query) :
    q.applied (·.removeCondition i) =
      { q with filter := q.filter.bind fun g ↦ (g.prune (·.id = i)).rest g } := by
  cases hg : q.filter with
  | none => simp only [applied, removeCondition, hg, Option.bind_none, with_filter hg]; rfl
  | some g =>
    rw [applied, removeCondition, hg, Option.bind_some, Option.bind_some,
      ConditionGroup.removeConditionFrom]
    cases g.prune (·.id = i) with
    | untouched => exact (with_filter hg).symm
    | emptied => rfl
    | trimmed rest => rfl

/-- Removals of conditions can be made in either order. -/
theorem removeCondition_comm (q : Query) (i j : String) :
    (q.applied (·.removeCondition i)).applied (·.removeCondition j) =
      (q.applied (·.removeCondition j)).applied (·.removeCondition i) := by
  simp only [applied_removeCondition, Option.bind_assoc, ConditionGroup.rest_prune_bind,
    Bool.or_comm]

/-- The query with the conditions of an id changed. -/
def changing (q : Query) (i : String) (change : Condition → Condition) : Query :=
  { q with filter := q.filter.map (ConditionGroup.changed i change) }

theorem conditions_changing (i : String) (change : Condition → Condition) (q : Query) :
    (q.changing i change).conditions =
      q.conditions.map fun c ↦ if c.id = i then change c else c := by
  cases h : q.filter <;> simp [changing, conditions, h, ConditionGroup.allConditions_changed]

theorem changing_id (i : String) (q : Query) : q.changing i (fun c ↦ c) = q := by
  have hid : ConditionGroup.changed i (fun c ↦ c) = id := funext ConditionGroup.changed_id
  rw [changing, hid, Option.map_id_apply]

/-- The change that a patch asks for, where there is a condition with the id. -/
def changeOf (q : Query) (i : String) (fs : Fields) : Checked (Condition → Condition) :=
  if q.conditions.any (·.id = i) then Condition.patch fs else .ok fun c ↦ c

theorem attempted_updateCondition (i : String) (fs : Fields) (q : Query) :
    q.attempted (·.updateCondition i fs) = q.changing i <$> q.changeOf i fs := by
  rw [attempted, updateCondition, changeOf]
  cases hg : q.filter with
  | none => simp [conditions, hg, changing_id]
  | some g =>
    have hconditions : q.conditions = g.allConditions := by simp [conditions, hg]
    rw [hconditions]
    simp only [ConditionGroup.updateCondition]
    split
    next =>
      cases Condition.patch fs with
      | ok change =>
        have hchanging : q.changing i change = { q with filter := some (g.changed i change) } := by
          rw [changing, hg, Option.map_some]
        simp only [Checked.map_ok, hchanging, ConditionGroup.changed]
        cases g.changeConditions i change with
        | none => rw [Option.getD_none, with_filter hg]; rfl
        | some g' => rfl
      | bad ds => rfl
    next =>
      simp only [Checked.map_ok, changing_id]
      rfl

theorem changeOf_keeps_id (q : Query) (i : String) (fs : Fields) :
    (q.changeOf i fs).Keeps Condition.id := by
  rw [changeOf]
  split
  next => exact Condition.patch_keeps_id fs
  next =>
    rintro f ⟨⟩ c
    rfl

section Changing

variable {change change' : Condition → Condition}

/-- Conditions are there after a change if they were there before. -/
theorem changeOf_changing (hchange : ∀ c, (change c).id = c.id) (i j : String) (fs : Fields)
    (q : Query) : (q.changing i change).changeOf j fs = q.changeOf j fs := by
  have hid (c : Condition) : (if c.id = i then change c else c).id = c.id := by
    split
    next => exact hchange c
    next => rfl
  simp only [changeOf, conditions_changing, List.any_map, Function.comp_def, hid]

theorem changing_comm (hij : i ≠ j) (hchange : ∀ c, (change c).id = c.id)
    (hchange' : ∀ c, (change' c).id = c.id) (q : Query) :
    (q.changing i change).changing j change' = (q.changing j change').changing i change := by
  simp only [changing, Option.map_map, mk.injEq, true_and, and_true]
  exact congrArg (Option.map · q.filter)
    (funext fun g ↦ ConditionGroup.changed_comm hij hchange hchange' g)

theorem removeCondition_changing (hchange : ∀ c, (change c).id = c.id) (i j : String)
    (q : Query) :
    (q.changing i change).applied (·.removeCondition j) =
      (q.applied (·.removeCondition j)).changing i change := by
  rw [applied_removeCondition, applied_removeCondition]
  cases hg : q.filter with
  | none => simp [changing, hg]
  | some g =>
    simp [changing, hg, ConditionGroup.rest_prune_changed, hchange]

end Changing

/-- Conditions are there after the removal of others if they were there before. -/
theorem changeOf_removeCondition (hij : i ≠ j) (fs : Fields) (q : Query) :
    (q.applied (·.removeCondition j)).changeOf i fs = q.changeOf i fs := by
  have hconditions : (q.applied (·.removeCondition j)).conditions =
      q.conditions.filter fun c ↦ !decide (c.id = j) := by
    rw [applied_removeCondition]
    cases hg : q.filter with
    | none => simp [conditions, hg]
    | some g => simpa [conditions, hg] using g.allConditions_rest_prune (·.id = j)
  have hany : (fun c : Condition ↦ !decide (c.id = j) && decide (c.id = i)) =
      fun c ↦ decide (c.id = i) := by
    funext c
    by_cases hi : c.id = i <;> simp [hi, hij]
  rw [changeOf, changeOf, hconditions, List.any_filter, hany]

/-- Patches of conditions with different ids can be made in either order. -/
theorem updateCondition_comm (hij : i ≠ j) (fs gs : Fields) (q : Query) :
    ((q.attempted (·.updateCondition i fs)).andThen (·.attempted (·.updateCondition j gs))).Agrees
      ((q.attempted (·.updateCondition j gs)).andThen (·.attempted (·.updateCondition i fs))) := by
  have hi := q.changeOf_keeps_id i fs
  have hj := q.changeOf_keeps_id j gs
  simp only [attempted_updateCondition]
  cases hcheck : q.changeOf i fs with
  | ok change =>
    have hchange := hi change hcheck
    cases hcheck' : q.changeOf j gs with
    | ok change' =>
      have hchange' := hj change' hcheck'
      refine .inl ⟨(q.changing i change).changing j change', ?_, ?_⟩
      · simp [changeOf_changing hchange, hcheck']
      · simp [changeOf_changing hchange', hcheck, changing_comm hij hchange hchange']
    | bad es =>
      refine .inr ⟨es, es, ?_, rfl⟩
      simp [changeOf_changing hchange, hcheck']
  | bad ds =>
    cases hcheck' : q.changeOf j gs with
    | ok change' =>
      refine .inr ⟨ds, ds, rfl, ?_⟩
      simp [changeOf_changing (hj change' hcheck'), hcheck]
    | bad es => exact .inr ⟨ds, es, rfl, rfl⟩

/-- A patch of a condition can be made before or after another condition is removed. -/
theorem updateCondition_removeCondition_comm (hij : i ≠ j) (fs : Fields) (q : Query) :
    (·.applied (·.removeCondition j)) <$> q.attempted (·.updateCondition i fs) =
      (q.applied (·.removeCondition j)).attempted (·.updateCondition i fs) := by
  rw [attempted_updateCondition, attempted_updateCondition, changeOf_removeCondition hij]
  cases hcheck : q.changeOf i fs with
  | ok change =>
    have hchange := q.changeOf_keeps_id i fs change hcheck
    simp only [Checked.map_ok, removeCondition_changing hchange]
  | bad ds => rfl

/-- Edits that have nothing to do with one another can be made in either order.

Of two patches, one can be refused before the other is read; so if anything is refused, then in both
orders, but it need not be the same.  In the tree of the filter, two steps of pruning come to one.
-/
theorem independent_edits_commute (q : Query) :
    (∀ a b, (q.applied (·.removeTable a)).applied (·.removeTable b) =
      (q.applied (·.removeTable b)).applied (·.removeTable a)) ∧
    (∀ i j, (q.applied (·.removeCondition i)).applied (·.removeCondition j) =
      (q.applied (·.removeCondition j)).applied (·.removeCondition i)) ∧
    (∀ i j, i ≠ j → ∀ fs gs,
      ((q.attempted (·.updateCondition i fs)).andThen (·.attempted (·.updateCondition j gs))).Agrees
        ((q.attempted (·.updateCondition j gs)).andThen
          (·.attempted (·.updateCondition i fs)))) ∧
    (∀ i j, i ≠ j → ∀ fs,
      (·.applied (·.removeCondition j)) <$> q.attempted (·.updateCondition i fs) =
        (q.applied (·.removeCondition j)).attempted (·.updateCondition i fs)) ∧
    ∀ (g : ConditionGroup) (p p' : Condition → Bool),
      ((g.prune p).rest g).bind (fun r ↦ (r.prune p').rest r) =
        (g.prune fun c ↦ p c || p' c).rest g :=
  ⟨removeTable_comm q, removeCondition_comm q,
    fun _ _ hij fs gs ↦ updateCondition_comm hij fs gs q,
    fun _ _ hij fs ↦ updateCondition_removeCondition_comm hij fs q,
    fun g p p' ↦ g.rest_prune_bind p p'⟩

/-- A patch that moves a condition to another column. -/
def roomsPatch : Fields := [("column_name", .text "rooms")]

/-- One group is emptied with its only condition, and the patch of another condition can be read
before or after that. -/
theorem edits_of_staffQuery_commute :
    "11" ≠ "9" ∧ ∃ r, staffQuery.attempted (·.updateCondition "11" roomsPatch) = .ok r ∧
      (staffQuery.applied (·.removeCondition "9")).attempted (·.updateCondition "11" roomsPatch) =
        .ok (r.applied (·.removeCondition "9")) ∧
      (r.applied (·.removeCondition "9")).conditions.map (fun c ↦ (c.id, c.subject.column)) =
        [("7", "post"), ("11", "rooms"), ("12", "name")] := by
  have hne : "11" ≠ "9" := by decide
  have hcomm := (independent_edits_commute staffQuery).2.2.2.1 "11" "9" hne roomsPatch
  exact ⟨hne, _, rfl, hcomm.symm, rfl⟩

end Query

end SelectBuilder
