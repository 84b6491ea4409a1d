import SelectBuilder.Proofs.Filter.Rearranging
import SelectBuilder.Proofs.FromPlan.Rearranging

/-!
# Problems in any order

The order in which the parts of a query were added decides in which order its problems are listed,
and nothing else: each rule looks at the parts one by one, or asks what is among them.  Only the
rule about joins begins somewhere, at the base.  While the tables stay in their order it reports the
same (`joinProblems_perm`); when another table becomes the base it may report other tables, but
still some just when not all tables are joined (`joinProblems_eq_nil_iff`).
-/

namespace SelectBuilder

theorem nodup_eraseDups (words : List String) : words.eraseDups.Nodup := by
  induction hn : words.length using Nat.strongRecOn generalizing words with
  | ind n ih =>
    cases words with
    | nil => exact .nil
    | cons w words =>
      rw [List.eraseDups_cons, List.nodup_cons, List.mem_eraseDups]
      refine ⟨by simp, ih _ ?_ _ rfl⟩
      have := List.length_filter_le (fun v ↦ !v == w) words
      rw [List.length_cons] at hn
      omega

/-- The same words are repeated in any order. -/
theorem repeated_perm {words words' : List String} (h : words.Perm words') :
    (repeated words).Perm (repeated words') := by
  have hfirst : words.eraseDups.Perm words'.eraseDups :=
    (List.perm_ext_iff_of_nodup (nodup_eraseDups _) (nodup_eraseDups _)).mpr fun w ↦ by
      rw [List.mem_eraseDups, List.mem_eraseDups, h.mem_iff]
  simp only [repeated, h.count_eq]
  exact (hfirst.map _).filter _

namespace Query

/-- A query comes from another by changing the places of its parts, in the lists of the query and in
the groups of its filter. -/
structure Rearranged (q q' : Query) : Prop where
  tables : q.tables.Perm q'.tables
  columns : q.columns.Perm q'.columns
  joins : q.joins.Perm q'.joins
  filter : Option.Rel ConditionGroup.Rearranged q.filter q'.filter
  grouping : q.grouping.Perm q'.grouping
  having : q.having.Perm q'.having
  sorting : q.sorting.Perm q'.sorting
  limit : q.limit = q'.limit
  offset : q.offset = q'.offset
  distinct : q.distinct = q'.distinct

namespace Rearranged

variable {q q' : Query}

theorem aliases_perm (h : q.Rearranged q') : q.aliases.Perm q'.aliases :=
  h.tables.map Table.aliasName

theorem conditions_perm (h : q.Rearranged q') : q.conditions.Perm q'.conditions := by
  have hfilter := h.filter
  rw [conditions, conditions]
  generalize q.filter = filter, q'.filter = filter' at hfilter
  cases hfilter with
  | some hg => exact hg.allConditions_perm
  | none => exact .refl _

/-! ## The rules one by one -/

theorem tableProblems_eq (h : q.Rearranged q') : q.tableProblems = q'.tableProblems := by
  rw [tableProblems, tableProblems, h.tables.isEmpty_eq]

theorem isAggregating_eq (h : q.Rearranged q') : q.isAggregating = q'.isAggregating := by
  rw [isAggregating, isAggregating, h.grouping.isEmpty_eq, h.columns.any_eq]

theorem groupingProblems_perm (h : q.Rearranged q') :
    q.groupingProblems.Perm q'.groupingProblems := by
  simp only [groupingProblems, h.isAggregating_eq, h.grouping.mem_iff]
  split
  next => exact (h.columns.filter _).map _
  next => exact .refl _

theorem columnAliasProblems_perm (h : q.Rearranged q') :
    q.columnAliasProblems.Perm q'.columnAliasProblems :=
  (repeated_perm (h.columns.filterMap _)).map _

theorem tableReferences_perm (h : q.Rearranged q') :
    q.tableReferences.Perm q'.tableReferences :=
  (((((h.columns.map _).append (h.joins.flatMap_right _)).append (h.conditions_perm.map _)).append
    (h.grouping.map _)).append (h.having.map _)).append (h.sorting.map _)

theorem referenceProblems_perm (h : q.Rearranged q') :
    q.referenceProblems.Perm q'.referenceProblems := by
  simp only [referenceProblems, h.aliases_perm.mem_iff]
  exact (h.tableReferences_perm.filter _).map _

theorem valueProblems_perm (h : q.Rearranged q') : q.valueProblems.Perm q'.valueProblems :=
  (h.conditions_perm.filterMap _).append ((h.having.filter _).map _)

theorem nestingProblems_eq (h : q.Rearranged q') (limit : DepthLimit) :
    q.nestingProblems limit = q'.nestingProblems limit := by
  have hfilter := h.filter
  rw [nestingProblems, nestingProblems]
  generalize q.filter = filter, q'.filter = filter' at hfilter
  cases hfilter with
  | some hg => simp only [hg.height_eq]
  | none => rfl

/-- Joins are reported just when they are in another order, and so are tables for want of one. -/
theorem joinProblems_eq_nil_iff (h : q.Rearranged q') :
    q.joinProblems = [] ↔ q'.joinProblems = [] := by
  simp only [Query.joinProblems_eq_nil_iff, connected_eq_of_perm h.joins h.aliases_perm,
    h.aliases_perm.mem_iff]

theorem tableAliasProblems_perm (h : q.Rearranged q') :
    q.tableAliasProblems.Perm q'.tableAliasProblems :=
  (repeated_perm h.aliases_perm).map _

/-! ## All rules -/

theorem isValid_eq (h : q.Rearranged q') (limit : DepthLimit) :
    q.isValid limit = q'.isValid limit := by
  have hnil {ps ps' : List Problem} (hps : ps.Perm ps') : ps = [] ↔ ps' = [] := by
    rw [← List.isEmpty_iff, hps.isEmpty_eq, List.isEmpty_iff]
  rw [Bool.eq_iff_iff, isValid_iff, isValid_iff, h.tableProblems_eq, h.nestingProblems_eq limit,
    hnil h.groupingProblems_perm, hnil h.columnAliasProblems_perm, hnil h.referenceProblems_perm,
    hnil h.valueProblems_perm, h.joinProblems_eq_nil_iff, hnil h.tableAliasProblems_perm]

theorem problems_perm (h : q.Rearranged q') (htables : q.tables = q'.tables) (limit : DepthLimit) :
    (q.problems limit).Perm (q'.problems limit) := by
  rw [problems, problems, h.tableProblems_eq, h.nestingProblems_eq limit]
  exact ((((((h.groupingProblems_perm.append_left _).append h.columnAliasProblems_perm).append
    h.referenceProblems_perm).append h.valueProblems_perm).append_right _).append
    (joinProblems_perm htables h.joins)).append h.tableAliasProblems_perm

end Rearranged

end Query

/-- Whether a query is valid does not depend on the order in which its parts were added, nor on
which of its tables was the first.  With the tables in the same order, the same problems are listed
with the same messages, in some order. -/
theorem validity_independent_of_order (q q' : Query) (limit : DepthLimit) (h : q.Rearranged q') :
    q.isValid limit = q'.isValid limit ∧
      (q.tables = q'.tables → (q.problems limit).Perm (q'.problems limit) ∧
        ((q.problems limit).map Problem.message).Perm
          ((q'.problems limit).map Problem.message)) := by
  refine ⟨h.isValid_eq limit, fun htables ↦ ?_⟩
  have hperm := h.problems_perm htables limit
  exact ⟨hperm, hperm.map Problem.message⟩

/-- Shifts with their nurses and rooms, under a filter of two levels. -/
def rosterQuery : Query where
  tables := [{ aliasName := "s", name := "shifts" }, { aliasName := "n", name := "nurses" },
    { aliasName := "r", name := "rooms" }]
  columns := [{ id := "1", source := ⟨"n", "name"⟩ }, { id := "2", source := ⟨"s", "day"⟩ }]
  joins := [{ id := "3", left := ⟨"n", "id"⟩, right := ⟨"s", "nurse"⟩ },
    { id := "4", kind := .left, left := ⟨"s", "room"⟩, right := ⟨"r", "id"⟩ }]
  filter := some
    { id := "5"
      groups := [
        { id := "6" },
        { id := "7", connective := .or
          conditions := [{ id := "8", subject := ⟨"r", "floor"⟩, operator := .isNull },
            { id := "9", subject := ⟨"n", "name"⟩, operator := .isNotNull }] }] }

/-- The same with everything the other way round, so that it begins with the rooms. -/
def turnedRoster : Query where
  tables := rosterQuery.tables.reverse
  columns := rosterQuery.columns.reverse
  joins := rosterQuery.joins.reverse
  filter := some
    { id := "5"
      groups := [
        { id := "7", connective := .or
          conditions := [{ id := "9", subject := ⟨"n", "name"⟩, operator := .isNotNull },
            { id := "8", subject := ⟨"r", "floor"⟩, operator := .isNull }] },
        { id := "6" }] }

theorem rearranged_turnedRoster : rosterQuery.Rearranged turnedRoster where
  tables := (List.reverse_perm _).symm
  columns := (List.reverse_perm _).symm
  joins := (List.reverse_perm _).symm
  filter := .some (.trans (.nested [{ id := "6" }] [] (.members (.swap _ _ []) (.refl [])))
    (.members (.refl []) (.swap _ _ [])))
  grouping := .refl _
  having := .refl _
  sorting := .refl _
  limit := rfl
  offset := rfl
  distinct := rfl

/-- Both are valid down to one level, and have one and the same problem where none is allowed. -/
theorem validity_of_turnedRoster :
    rosterQuery.Rearranged turnedRoster ∧ rosterQuery.isValid (.depth 1) ∧
      turnedRoster.isValid (.depth 1) ∧
      rosterQuery.tables = { turnedRoster with tables := rosterQuery.tables }.tables ∧
      (rosterQuery.problems (.depth 0)).Perm
        ({ turnedRoster with tables := rosterQuery.tables }.problems (.depth 0)) := by
  have hvalid : rosterQuery.isValid (.depth 1) := by decide +kernel
  obtain ⟨heq, -⟩ :=
    validity_independent_of_order rosterQuery turnedRoster (.depth 1) rearranged_turnedRoster
  have hsame : rosterQuery.Rearranged { turnedRoster with tables := rosterQuery.tables } :=
    { rearranged_turnedRoster with tables := .refl _ }
  obtain ⟨-, hproblems⟩ := validity_independent_of_order rosterQuery _ (.depth 0) hsame
  exact ⟨rearranged_turnedRoster, hvalid, heq ▸ hvalid, rfl, (hproblems rfl).1⟩

end SelectBuilder
