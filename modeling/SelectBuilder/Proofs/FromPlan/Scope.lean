import Mathlib.Data.List.Nodup
import SelectBuilder.Proofs.FromPlan.Reach
import SelectBuilder.Query.Problem
import SelectBuilder.Sql.Select

/-!
# The scope of a valid query

Four of the rules for queries work together on FROM: no alias stands for two tables, no reference
goes to a table that is not there, every table is joined to the query, and there is a table.  A
query that breaks none of them has every table in FROM, once, and refers to nothing else.

What each rule comes to is said in one lemma each.  The plan itself only enters through what it
promises (`FromPlan.Spans`).
-/

namespace SelectBuilder

/-! ## What the rules come to -/

theorem repeated_eq_nil_iff {words : List String} : repeated words = [] ↔ words.Nodup := by
  rw [repeated, List.filter_eq_nil_iff, List.nodup_iff_count_le_one]
  constructor
  · intro h w
    by_cases hw : w ∈ words
    · have := h (w, words.count w) (List.mem_map.mpr ⟨w, List.mem_eraseDups.mpr hw, rfl⟩)
      simpa using this
    · simp [List.count_eq_zero_of_not_mem hw]
  · intro h x hx
    obtain ⟨w, -, rfl⟩ := List.mem_map.mp hx
    simpa using h w

namespace Query

theorem tableProblems_eq_nil_iff {q : Query} : q.tableProblems = [] ↔ q.tables ≠ [] := by
  cases h : q.tables <;> simp [tableProblems, h]

theorem tableAliasProblems_eq_nil_iff {q : Query} :
    q.tableAliasProblems = [] ↔ q.aliases.Nodup := by
  rw [tableAliasProblems, List.map_eq_nil_iff, repeated_eq_nil_iff]

theorem referenceProblems_eq_nil_iff {q : Query} :
    q.referenceProblems = [] ↔ ∀ r ∈ q.tableReferences, r.2 ∈ q.aliases := by
  simp [referenceProblems, List.filter_eq_nil_iff]

/-- Tables that no join brings in are problems. -/
theorem unreachable_eq_nil_of_joinProblems {q : Query} {p : FromPlan} (hp : q.fromPlan? = some p)
    (h : q.joinProblems = []) : p.unreachable = [] := by
  rw [joinProblems, hp] at h
  exact List.map_eq_nil_iff.mp (List.append_eq_nil_iff.mp h).2

/-- A query without problems breaks no rule. -/
theorem isValid_iff {q : Query} {limit : DepthLimit} :
    q.isValid limit ↔ q.tableProblems = [] ∧ q.groupingProblems = [] ∧
      q.columnAliasProblems = [] ∧ q.referenceProblems = [] ∧ q.valueProblems = [] ∧
      q.nestingProblems limit = [] ∧ q.joinProblems = [] ∧ q.tableAliasProblems = [] := by
  simp only [isValid, problems, List.isEmpty_iff, List.append_eq_nil_iff, and_assoc]

/-- Where aliases are distinct, a table is found by its alias. -/
theorem table?_of_mem {q : Query} (h : q.aliases.Nodup) {t : Table} (ht : t ∈ q.tables) :
    q.table? t.aliasName = some t := by
  have hsome : (q.table? t.aliasName).isSome :=
    table?_isSome_iff.mpr (List.mem_map_of_mem ht)
  obtain ⟨u, hu⟩ := Option.isSome_iff_exists.mp hsome
  have hut : u = t :=
    List.inj_on_of_nodup_map h (mem_tables_of_table? hu) ht (aliasName_of_table? hu)
  rw [hu, hut]

/-! ## Scopes -/

/-- Outside FROM, a query refers only to the aliases of a scope. -/
structure InScope (q : Query) (scope : List String) : Prop where
  columns : ∀ c ∈ q.columns, c.source.table ∈ scope
  conditions : ∀ c ∈ q.conditions, c.subject.table ∈ scope
  grouping : ∀ r ∈ q.grouping, r.table ∈ scope
  having : ∀ h ∈ q.having, h.subject.table ∈ scope
  sorting : ∀ k ∈ q.sorting, k.source.table ∈ scope

/-- Without dangling references, the aliases of the query are a scope for it. -/
theorem inScope_of_tableReferences {q : Query} {S : List String}
    (h : ∀ r ∈ q.tableReferences, r.2 ∈ S) : q.InScope S := by
  simp only [tableReferences, List.mem_append, List.mem_map, List.mem_flatMap, or_imp,
    forall_and] at h
  obtain ⟨⟨⟨⟨⟨hcolumns, -⟩, hconditions⟩, hgrouping⟩, hhaving⟩, hsorting⟩ := h
  exact ⟨fun c hc ↦ hcolumns _ ⟨c, hc, rfl⟩, fun c hc ↦ hconditions _ ⟨c, hc, rfl⟩,
    fun r hr ↦ hgrouping _ ⟨r, hr, rfl⟩, fun f hf ↦ hhaving _ ⟨f, hf, rfl⟩,
    fun k hk ↦ hsorting _ ⟨k, hk, rfl⟩⟩

end Query

/-! ## ON clauses -/

/-- The columns that the ON clause of a step compares; a cross join has no such clause. -/
def FromStep.onColumns (s : FromStep) : List ColumnRef :=
  if s.kind = .cross then [] else [s.join.left, s.join.right]

/-- The ON clause over the columns that it compares. -/
def Dialect.onText (d : Dialect) (comparison : Comparison) : List ColumnRef → String
  | [left, right] =>
    " ON " ++ d.qualifiedColumn left ++ " " ++ comparison.word ++ " " ++ d.qualifiedColumn right
  | _ => ""

/-- A step is written as its table, with an ON clause over its columns. -/
theorem Query.stepText_eq (d : Dialect) (s : FromStep) :
    Query.stepText d s = s.kind.keyword ++ " " ++ d.tableText s.table ++
      d.onText s.join.comparison s.onColumns := by
  by_cases h : s.kind = .cross
  · simp [Query.stepText, FromStep.onColumns, h, Dialect.onText]
  · simp [Query.stepText, FromStep.onColumns, h, Dialect.onText, String.append_assoc]

theorem FromStep.Follows.onColumns_mem {s : FromStep} {R : List String} (h : s.Follows R) :
    ∀ r ∈ s.onColumns, r.table ∈ s.target :: R := by
  intro r hr
  have hr' : r = s.join.left ∨ r = s.join.right := by
    rw [FromStep.onColumns] at hr
    split at hr
    · cases hr
    · simpa using hr
  rcases hr' with rfl | rfl
  · exact h.sides_mem.1
  · exact h.sides_mem.2

namespace FromPlan.Spans

variable {p : FromPlan} {q : Query}

/-- With nothing out of reach, exactly the aliases of the query are in FROM. -/
theorem mem_reached_iff_mem_aliases (h : p.Spans q) (hrest : p.unreachable = []) (a : String) :
    a ∈ p.reached ↔ a ∈ q.aliases := by
  constructor
  · exact h.mem_aliases
  · intro ha
    obtain ⟨t, ht, rfl⟩ := List.mem_map.mp ha
    rw [h.unreachable, List.filter_eq_nil_iff] at hrest
    simpa using hrest t ht

/-- With nothing out of reach and distinct aliases, every table of the query is in FROM once. -/
theorem tables_perm (h : p.Spans q) (hrest : p.unreachable = []) (hnodup : q.aliases.Nodup) :
    p.tables.Perm q.tables := by
  have hp : p.tables.Nodup :=
    List.Nodup.of_map Table.aliasName (by rw [map_aliasName_tables]; exact h.nodup)
  have hq : q.tables.Nodup := List.Nodup.of_map Table.aliasName hnodup
  refine (List.perm_ext_iff_of_nodup hp hq).mpr fun t ↦ ?_
  rw [h.mem_tables_iff, h.mem_reached_iff_mem_aliases hrest]
  constructor
  · exact fun ⟨_, ht⟩ ↦ Query.mem_tables_of_table? ht
  · exact fun ht ↦ ⟨List.mem_map_of_mem ht, Query.table?_of_mem hnodup ht⟩

end FromPlan.Spans

/-! ## The main statement -/

/-- A valid query has all its tables in FROM, each of them once.  The ON clause of a step compares
columns of tables that are in FROM by then, and whatever else refers to a table refers to one in
FROM. -/
theorem from_of_isValid (q : Query) (limit : DepthLimit) (h : q.isValid limit) :
    ∃ p, q.fromPlan? = some p ∧
      (p.base.aliasName :: p.steps.map FromStep.target).Perm q.aliases ∧
      (p.base :: p.steps.map FromStep.table).Perm q.tables ∧
      (∀ before s after, p.steps = before ++ s :: after →
        (∀ d, Query.stepText d s = s.kind.keyword ++ " " ++ d.tableText s.table ++
          d.onText s.join.comparison s.onColumns) ∧
        ∀ r ∈ s.onColumns,
          r.table ∈ s.target :: p.base.aliasName :: before.map FromStep.target) ∧
      q.InScope (p.base.aliasName :: p.steps.map FromStep.target) := by
  obtain ⟨htables, -, -, hreferences, -, -, hjoins, haliases⟩ := Query.isValid_iff.mp h
  obtain ⟨p, hp, hspans⟩ := q.exists_fromPlan (Query.tableProblems_eq_nil_iff.mp htables)
  have hrest := Query.unreachable_eq_nil_of_joinProblems hp hjoins
  have hnodup := Query.tableAliasProblems_eq_nil_iff.mp haliases
  have hperm := hspans.tables_perm hrest hnodup
  have hperm' : p.reached.Perm q.aliases := by
    rw [← FromPlan.map_aliasName_tables]
    exact hperm.map Table.aliasName
  refine ⟨p, hp, hperm', hperm, fun before s after hs ↦ ⟨fun d ↦ Query.stepText_eq d s, ?_⟩, ?_⟩
  · exact (hspans.steps before s after hs).2.2.onColumns_mem
  · refine Query.inScope_of_tableReferences fun r hr ↦ ?_
    exact hperm'.mem_iff.mpr (Query.referenceProblems_eq_nil_iff.mp hreferences r hr)

/-- A query with something in every clause, whose first join cannot be placed first and whose last
one is a cross join. -/
def orderReport : Query :=
  { tables := [
      { aliasName := "o", name := "orders" }, { aliasName := "u", name := "users" },
      { aliasName := "c", name := "cities" }, { aliasName := "y", name := "years" }]
    columns := [
      { id := "1", source := ⟨"c", "name"⟩ },
      { id := "2", source := ⟨"o", "total"⟩, aggregate := some .sum }]
    joins := [
      { id := "3", kind := .left, left := ⟨"u", "city"⟩, right := ⟨"c", "id"⟩ },
      { id := "4", left := ⟨"u", "id"⟩, right := ⟨"o", "user"⟩ },
      { id := "5", kind := .cross, left := ⟨"o", "id"⟩, right := ⟨"y", "id"⟩ }]
    filter := some
      { id := "6"
        conditions := [{ id := "7", subject := ⟨"u", "active"⟩, value := .bool true }]
        groups := [
          { id := "8", connective := .or
            conditions := [{ id := "9", subject := ⟨"y", "year"⟩, operator := .isNull }] }] }
    grouping := [⟨"c", "name"⟩]
    having := [{ id := "10", subject := ⟨"o", "total"⟩, aggregate := .sum, value := .int 5 }]
    sorting := [{ id := "11", source := ⟨"c", "name"⟩ }] }

theorem from_of_orderReport :
    orderReport.isValid (.depth 1) ∧ ∃ p, orderReport.fromPlan? = some p ∧
      (p.base.aliasName :: p.steps.map FromStep.target).Perm ["o", "u", "c", "y"] ∧
      orderReport.InScope (p.base.aliasName :: p.steps.map FromStep.target) := by
  have hvalid : orderReport.isValid (.depth 1) := by decide +kernel
  obtain ⟨p, hp, hperm, -, -, hscope⟩ := from_of_isValid orderReport _ hvalid
  exact ⟨hvalid, p, hp, hperm, hscope⟩

end SelectBuilder
