import Mathlib.Data.List.Basic
import Mathlib.Data.List.Flatten
import SelectBuilder.Proofs.Filter.Pruning
import SelectBuilder.Query.Edit
import SelectBuilder.Query.Problem
import SelectBuilder.Query.Reference

/-!
# Removing a table

A table takes with it whatever refers to it.  What that is, `Query.references` lists beforehand,
clause by clause, and the rules for queries go through the same references once more.  Both lists
are empty of a table in the same queries (`references_eq_nil_iff`), and `DropsTable` says which
parts the removal keeps; that the three agree follows from these two.

The filter is the only clause whose items are not simply filtered: a group that is emptied goes as
well, and the tree is handed back as it was where nothing refers to the table.
-/

namespace SelectBuilder

namespace Query

/-- The number of parts of a query that can refer to a table. -/
def partCount (q : Query) : Nat :=
  q.columns.length + q.joins.length + q.conditions.length + q.grouping.length + q.having.length +
    q.sorting.length

/-- The query `r` has all parts of `q` that do not refer to a table, in their order, and no
others. -/
structure DropsTable (q : Query) (aliasName : String) (r : Query) : Prop where
  tables : r.tables = q.tables.filter (·.aliasName ≠ aliasName)
  columns : r.columns = q.columns.filter (·.source.table ≠ aliasName)
  joins : r.joins = q.joins.filter fun j ↦ j.left.table ≠ aliasName ∧ j.right.table ≠ aliasName
  conditions : r.conditions = q.conditions.filter (·.subject.table ≠ aliasName)
  grouping : r.grouping = q.grouping.filter (·.table ≠ aliasName)
  having : r.having = q.having.filter (·.subject.table ≠ aliasName)
  sorting : r.sorting = q.sorting.filter (·.source.table ≠ aliasName)
  limit : r.limit = q.limit
  offset : r.offset = q.offset
  distinct : r.distinct = q.distinct

variable {q r : Query} {aliasName : String}

theorem removeTable_eq_none (h : aliasName ∉ q.aliases) : q.removeTable aliasName = none := if_neg h

theorem exists_removeTable (h : aliasName ∈ q.aliases) : ∃ r, q.removeTable aliasName = some r :=
  ⟨_, if_pos h⟩

theorem removeTable_drops (h : q.removeTable aliasName = some r) : q.DropsTable aliasName r := by
  rw [removeTable] at h
  split at h
  case isFalse => cases h
  cases h
  refine ⟨rfl, rfl, by simp, ?_, rfl, rfl, rfl, rfl, rfl, rfl⟩
  cases hfilter : q.filter with
  | none => simp [conditions, hfilter]
  | some g =>
    simpa [conditions, hfilter] using g.allConditions_rest_prune (·.subject.table = aliasName)

/-! ## References -/

/-- Nothing is listed for a table just when no reference goes to it. -/
theorem references_eq_nil_iff :
    q.references aliasName = [] ↔ ∀ x ∈ q.tableReferences, x.2 ≠ aliasName := by
  simp only [references, tableReferences, List.append_eq_nil_iff, List.map_eq_nil_iff,
    List.filter_eq_nil_iff, List.forall_mem_append, List.forall_mem_map, List.forall_mem_flatMap]
  simp

namespace DropsTable

variable (h : q.DropsTable aliasName r)

include h

theorem not_mem_aliases : aliasName ∉ r.aliases := by
  simp [aliases, h.tables]

theorem mem_aliases_iff {x : String} (hx : x ≠ aliasName) : x ∈ r.aliases ↔ x ∈ q.aliases := by
  simp only [aliases, h.tables, List.mem_map, List.mem_filter]
  grind

theorem references_eq_nil : r.references aliasName = [] := by
  rw [references_eq_nil_iff]
  simp only [tableReferences, h.columns, h.joins, h.conditions, h.grouping, h.having, h.sorting,
    List.forall_mem_append, List.forall_mem_map, List.forall_mem_flatMap, List.mem_filter]
  simp

theorem tableReferences_sublist : r.tableReferences.Sublist q.tableReferences := by
  simp only [tableReferences, h.columns, h.joins, h.conditions, h.grouping, h.having, h.sorting]
  have hflat := (List.filter_sublist (p := fun j : Join ↦ decide
    (j.left.table ≠ aliasName ∧ j.right.table ≠ aliasName)) (l := q.joins)).flatMap
      fun j ↦ [(ReferringPart.joinLeft, j.left.table), (ReferringPart.joinRight, j.right.table)]
  exact ((((List.filter_sublist.map _).append hflat).append (List.filter_sublist.map _)).append
    (List.filter_sublist.map _)).append (List.filter_sublist.map _) |>.append
    (List.filter_sublist.map _)

/-- A reference that is left goes nowhere only if it went nowhere before. -/
theorem referenceProblems_sublist : r.referenceProblems.Sublist q.referenceProblems := by
  have hne := references_eq_nil_iff.mp h.references_eq_nil
  have hsame : r.tableReferences.filter (·.2 ∉ r.aliases) =
      r.tableReferences.filter (·.2 ∉ q.aliases) :=
    List.filter_congr fun x hx ↦ by simp [h.mem_aliases_iff (hne x hx)]
  rw [referenceProblems, referenceProblems, hsame]
  exact (h.tableReferences_sublist.filter _).map _

end DropsTable

/-- As many references are listed as parts go with the table. -/
theorem DropsTable.length_references_add (h : q.DropsTable aliasName r) :
    (q.references aliasName).length + r.partCount = q.partCount := by
  have hjoins := q.joins.length_eq_length_filter_add fun j ↦
    j.left.table = aliasName || j.right.table = aliasName
  have hcolumns := q.columns.length_eq_length_filter_add (·.source.table = aliasName)
  have hconditions := q.conditions.length_eq_length_filter_add (·.subject.table = aliasName)
  have hgrouping := q.grouping.length_eq_length_filter_add (·.table = aliasName)
  have hhaving := q.having.length_eq_length_filter_add (·.subject.table = aliasName)
  have hsorting := q.sorting.length_eq_length_filter_add (·.source.table = aliasName)
  simp only [references, partCount, h.columns, h.joins, h.conditions, h.grouping, h.having,
    h.sorting, List.length_append, List.length_map, decide_not, Bool.decide_and, ← Bool.not_or]
  omega

theorem filter_ne_eq_self {α : Type} {f : α → String} {x : String} {l : List α}
    (h : ∀ a ∈ l, f a ≠ x) : l.filter (f · ≠ x) = l :=
  List.filter_eq_self.mpr fun a ha ↦ decide_eq_true (h a ha)

/-- Without references, nothing goes but the table. -/
theorem eq_of_references_eq_nil (h : q.removeTable aliasName = some r)
    (hreferences : q.references aliasName = []) : r = { q with tables := r.tables } := by
  have hne := references_eq_nil_iff.mp hreferences
  simp only [tableReferences, List.forall_mem_append, List.forall_mem_map,
    List.forall_mem_flatMap, List.forall_mem_cons] at hne
  obtain ⟨⟨⟨⟨⟨hcolumns, hjoins⟩, hconditions⟩, hgrouping⟩, hhaving⟩, hsorting⟩ := hne
  have hjoins : (q.joins.filter fun j ↦ j.left.table ≠ aliasName && j.right.table ≠ aliasName) =
      q.joins := by
    rw [List.filter_eq_self]
    intro j hj
    obtain ⟨hleft, hright, -⟩ := hjoins j hj
    simp [hleft, hright]
  have hfilter : (q.filter.bind fun g ↦ (g.prune (·.subject.table = aliasName)).rest g) =
      q.filter := by
    cases hq : q.filter with
    | none => rfl
    | some g =>
      rw [Option.bind_some, g.prune_eq_untouched _ fun c hc ↦ by
        simpa using hconditions c (by simpa [conditions, hq] using hc)]
      rfl
  rw [removeTable] at h
  split at h
  case isFalse => cases h
  cases h
  simp only [hfilter, hjoins, filter_ne_eq_self hcolumns, filter_ne_eq_self hgrouping,
    filter_ne_eq_self hhaving, filter_ne_eq_self hsorting]

/-- Removing a table removes just what is listed for it.

A query without the table is left alone.  Otherwise the table is gone, nothing refers to it any
more, and all parts that did not refer to it are there as before.  As many parts have gone with the
table as are listed for it, and if none is listed, then the table is all that has gone.  No
reference goes nowhere that did not before. -/
theorem removeTable_removes_references (q : Query) (aliasName : String) :
    (aliasName ∉ q.aliases → q.removeTable aliasName = none) ∧
    (aliasName ∈ q.aliases → ∃ r, q.removeTable aliasName = some r ∧
      aliasName ∉ r.aliases ∧ r.references aliasName = [] ∧ q.DropsTable aliasName r ∧
      (q.references aliasName).length + r.partCount = q.partCount ∧
      (q.references aliasName = [] ↔ r = { q with tables := r.tables }) ∧
      r.referenceProblems.Sublist q.referenceProblems) := by
  refine ⟨removeTable_eq_none, fun hmem ↦ ?_⟩
  obtain ⟨r, hr⟩ := exists_removeTable hmem
  have h := removeTable_drops hr
  refine ⟨r, hr, h.not_mem_aliases, h.references_eq_nil, h, h.length_references_add,
    ⟨eq_of_references_eq_nil hr, fun heq ↦ ?_⟩, h.referenceProblems_sublist⟩
  -- The references do not depend on the tables.
  have hreferences := h.references_eq_nil
  rw [heq] at hreferences
  exact hreferences

/-- A join of a table with itself, one with a table that is not there, and a filter in which one
group is emptied with the table, one stays in part, and one was empty before. -/
def staffQuery : Query where
  tables := [{ aliasName := "s", name := "staff" }, { aliasName := "w", name := "wards" }]
  columns := [{ id := "1", source := ⟨"w", "name"⟩ }, { id := "2", source := ⟨"s", "name"⟩ }]
  joins := [{ id := "3", left := ⟨"s", "id"⟩, right := ⟨"s", "head"⟩ },
    { id := "4", left := ⟨"x", "id"⟩, right := ⟨"s", "post"⟩ },
    { id := "5", left := ⟨"w", "id"⟩, right := ⟨"w", "next"⟩ }]
  filter := some
    { id := "6"
      conditions := [{ id := "7", subject := ⟨"s", "post"⟩, operator := .isNull }]
      groups := [
        { id := "8"
          conditions := [{ id := "9", subject := ⟨"s", "day"⟩, operator := .isNull }] },
        { id := "10", connective := .or
          conditions := [{ id := "11", subject := ⟨"w", "beds"⟩, operator := .isNotNull },
            { id := "12", subject := ⟨"s", "name"⟩, operator := .isNotNull }] },
        { id := "13" }] }
  grouping := [⟨"s", "name"⟩, ⟨"w", "name"⟩]

theorem removeTable_of_staffQuery :
    "s" ∈ staffQuery.aliases ∧ (staffQuery.references "s").length = 7 ∧
    ∃ r, staffQuery.removeTable "s" = some r ∧ r.partCount = 4 ∧
      r.conditions.map Condition.id = ["11"] ∧ r.references "s" = [] ∧
      r.referenceProblems.Sublist staffQuery.referenceProblems := by
  have hmem : "s" ∈ staffQuery.aliases := by decide
  obtain ⟨r, hr, -, hreferences, hdrops, hcount, -, hproblems⟩ :=
    (removeTable_removes_references staffQuery "s").2 hmem
  have hlength : (staffQuery.references "s").length = 7 := by decide
  refine ⟨hmem, hlength, r, hr, ?_, ?_, hreferences, hproblems⟩
  · have hparts : staffQuery.partCount = 11 := by decide
    omega
  · rw [hdrops.conditions]
    decide

end Query

end SelectBuilder
