import Mathlib.Data.List.Perm.Subperm
import SelectBuilder.Proofs.FromPlan.Scope

/-!
# What becomes of the joins

A join is placed by one step of the plan at most, and it is reported when a side of it is no table
of the query or when it touches nothing in FROM.  Between the two there is room: a join whose sides
have both been brought in by others is neither placed nor reported.

Which joins are reported does not depend on the steps, only on what is in FROM
(`isReported_iff_not_isWithin`).  How many joins are lost in between is then a matter of counting,
for every step brings in one table: none is lost just when the joins within FROM are one less than
the tables there, that is, when these joins form a tree.
-/

namespace SelectBuilder

/-- Whether both sides of a join are among some aliases. -/
def Join.isWithin (j : Join) (reached : List String) : Bool :=
  j.left.table ∈ reached && j.right.table ∈ reached

@[simp] theorem Join.isWithin_iff {j : Join} {reached : List String} :
    j.isWithin reached ↔ j.left.table ∈ reached ∧ j.right.table ∈ reached := by
  simp [Join.isWithin]

/-- Whether some problems are about a join: it has a side that is no table of the query, or it does
not connect to the query. -/
def Join.isReported (j : Join) (problems : List Problem) : Bool :=
  .dangling .joinLeft j.left.table ∈ problems || .dangling .joinRight j.right.table ∈ problems ||
    .disconnectedJoin j ∈ problems

namespace FromPlan

/-! ## Steps use up joins -/

section Round

variable {table? : String → Option Table} (hname : ∀ a t, table? a = some t → t.aliasName = a)

include hname

/-- A round places each join once at most, and only if it does not leave it waiting. -/
theorem round_subperm (R : List String) (js : List Join) :
    ((round table? R js).steps.map FromStep.join ++ (round table? R js).waiting).Subperm js := by
  induction js generalizing R with
  | nil => exact .refl _
  | cons j js ih =>
    rcases round_cons hname R j js with ⟨-, heq⟩ | ⟨-, -, heq⟩ | ⟨s, rfl, -, -, heq⟩
    · rw [heq]
      exact List.perm_middle.subperm.trans ((List.subperm_cons j).mpr (ih R))
    · rw [heq]
      exact (ih R).trans (List.sublist_cons_self j js).subperm
    · rw [heq]
      exact (List.subperm_cons s.join).mpr (ih (s.target :: R))

theorem rounds_subperm (R : List String) (js : List Join) :
    ((rounds table? R js).steps.map FromStep.join ++ (rounds table? R js).waiting).Subperm js := by
  induction R, js using rounds.induct table? with
  | case1 R js first hlt ih =>
    rw [rounds, if_pos hlt, List.map_append, List.append_assoc]
    exact ((List.Subperm.refl _).append ih).trans (round_subperm hname R js)
  | case2 R js first hlt =>
    rw [rounds, if_neg hlt]
    exact round_subperm hname R js

end Round

end FromPlan

namespace Query

variable {q : Query} {p : FromPlan} {limit : DepthLimit} {j : Join}

theorem joins_subperm (hp : q.fromPlan? = some p) :
    (p.steps.map FromStep.join ++ p.stranded).Subperm q.joins := by
  rw [fromPlan?] at hp
  split at hp
  case h_1 => cases hp
  case h_2 =>
    cases hp
    exact FromPlan.rounds_subperm (fun _ _ ↦ aliasName_of_table?) _ _

/-! ## What is reported -/

section Problems

variable {x : Problem}

theorem mem_tableProblems_iff : x ∈ q.tableProblems ↔ q.tables = [] ∧ x = .noTables := by
  rw [tableProblems]
  split <;> simp_all

theorem mem_groupingProblems_iff :
    x ∈ q.groupingProblems ↔ q.isAggregating ∧
      ∃ c ∈ q.columns, c.aggregate = none ∧ c.source ∉ q.grouping ∧ .ungrouped c.source = x := by
  rw [groupingProblems]
  split <;> simp_all [and_assoc]

theorem mem_nestingProblems_iff :
    x ∈ q.nestingProblems limit ↔
      ∃ g, q.filter = some g ∧ limit.excludes g.height ∧ x = .tooDeep g.height limit := by
  rw [nestingProblems]
  split
  next h => simp [h]
  next g h => split <;> simp_all

theorem mem_joinProblems_iff :
    x ∈ q.joinProblems ↔ ∃ p, q.fromPlan? = some p ∧
      ((∃ j ∈ p.stranded, (j.left.table ∈ q.aliases ∧ j.right.table ∈ q.aliases) ∧
          .disconnectedJoin j = x) ∨
        ∃ t ∈ p.unreachable, .unjoinedTable t.aliasName = x) := by
  rw [joinProblems]
  split
  next h => simp [h]
  next p h => simp [h, and_assoc]

theorem problem?_ne_dangling (c : Condition) (part : ReferringPart) (a : String) :
    c.problem? ≠ some (.dangling part a) := by
  rw [Condition.problem?]
  split <;> (try split) <;> simp

theorem problem?_ne_disconnectedJoin (c : Condition) (j : Join) :
    c.problem? ≠ some (.disconnectedJoin j) := by
  rw [Condition.problem?]
  split <;> (try split) <;> simp

end Problems

/-- A reference is reported where its table is not among those of the query. -/
theorem dangling_mem_problems_iff {part : ReferringPart} {a : String} :
    .dangling part a ∈ q.problems limit ↔ (part, a) ∈ q.tableReferences ∧ a ∉ q.aliases := by
  simp only [problems, List.mem_append, mem_tableProblems_iff, mem_groupingProblems_iff,
    mem_nestingProblems_iff, mem_joinProblems_iff, columnAliasProblems, referenceProblems,
    valueProblems, tableAliasProblems]
  simp [problem?_ne_dangling]

/-- A stranded join is reported unless a side of it is no table anyway. -/
theorem disconnectedJoin_mem_problems_iff (hp : q.fromPlan? = some p) :
    .disconnectedJoin j ∈ q.problems limit ↔
      j ∈ p.stranded ∧ j.left.table ∈ q.aliases ∧ j.right.table ∈ q.aliases := by
  simp only [problems, List.mem_append, mem_tableProblems_iff, mem_groupingProblems_iff,
    mem_nestingProblems_iff, mem_joinProblems_iff, columnAliasProblems, referenceProblems,
    valueProblems, tableAliasProblems]
  simp [problem?_ne_disconnectedJoin, hp]

theorem sides_mem_tableReferences (hj : j ∈ q.joins) :
    (.joinLeft, j.left.table) ∈ q.tableReferences ∧
      (.joinRight, j.right.table) ∈ q.tableReferences := by
  simp only [tableReferences, List.mem_append, List.mem_flatMap]
  grind

/-- A join of two tables of the query has both sides in FROM or none. -/
theorem sides_mem_reached_iff (hspans : p.Spans q) (hj : j ∈ q.joins)
    (hleft : j.left.table ∈ q.aliases) (hright : j.right.table ∈ q.aliases) :
    j.left.table ∈ p.reached ↔ j.right.table ∈ p.reached := by
  rw [hspans.mem_reached_iff, hspans.mem_reached_iff]
  constructor
  · exact fun h ↦ h.tail ⟨j, hj, hleft, hright, .inl ⟨rfl, rfl⟩⟩
  · exact fun h ↦ h.tail ⟨j, hj, hleft, hright, .inr ⟨rfl, rfl⟩⟩

/-- A join is reported just when its sides are not both in FROM. -/
theorem isReported_iff_not_isWithin (limit : DepthLimit) (hp : q.fromPlan? = some p)
    (hj : j ∈ q.joins) :
    j.isReported (q.problems limit) ↔ ¬ j.isWithin p.reached := by
  have hspans := spans_of_fromPlan? hp
  have hsides := sides_mem_tableReferences hj
  have hstranded : j ∈ p.stranded ↔ j.left.table ∉ p.reached ∧ j.right.table ∉ p.reached := by
    rw [hspans.stranded, List.mem_filter, Join.isApart_iff, and_iff_right hj]
  simp only [Join.isReported, Bool.or_eq_true, decide_eq_true_eq, dangling_mem_problems_iff,
    disconnectedJoin_mem_problems_iff hp, hsides, true_and, hstranded, Join.isWithin_iff]
  by_cases hleft : j.left.table ∈ q.aliases
  · by_cases hright : j.right.table ∈ q.aliases
    · have := sides_mem_reached_iff hspans hj hleft hright
      tauto
    · have : j.right.table ∉ p.reached := fun h ↦ hright (hspans.mem_aliases h)
      tauto
  · have : j.left.table ∉ p.reached := fun h ↦ hleft (hspans.mem_aliases h)
    tauto

/-! ## How many joins are lost -/

theorem filter_isReported (limit : DepthLimit) (hp : q.fromPlan? = some p) :
    q.joins.filter (·.isReported (q.problems limit)) = q.joins.filter (!·.isWithin p.reached) := by
  refine List.filter_congr fun j hj ↦ ?_
  rw [Bool.eq_iff_iff, isReported_iff_not_isWithin limit hp hj, Bool.not_eq_true']
  exact Bool.not_eq_true _ ▸ .rfl

/-- Every step is taken by a join of its own that is within FROM. -/
theorem joins_steps_subperm (hp : q.fromPlan? = some p) :
    (p.steps.map FromStep.join).Subperm (q.joins.filter (·.isWithin p.reached)) := by
  have hspans := spans_of_fromPlan? hp
  have hwithin : ∀ j ∈ p.steps.map FromStep.join, j.isWithin p.reached := by
    intro j hj
    obtain ⟨s, hs, rfl⟩ := List.mem_map.mp hj
    obtain ⟨before, after, heq⟩ := List.append_of_mem hs
    obtain ⟨hleft, hright⟩ := (hspans.steps before s after heq).2.2.sides_mem
    have hsub : ∀ a ∈ s.target :: p.base.aliasName :: before.map FromStep.target,
        a ∈ p.reached := by
      intro a ha
      simp only [FromPlan.reached, heq, List.map_append, List.map_cons, List.mem_cons,
        List.mem_append] at ha ⊢
      tauto
    exact Join.isWithin_iff.mpr ⟨hsub _ hleft, hsub _ hright⟩
  have hsub := ((List.sublist_append_left _ _).subperm.trans (joins_subperm hp)).filter
    (·.isWithin p.reached)
  rwa [List.filter_eq_self.mpr hwithin] at hsub

/-- The joins that are placed and those that are reported are joins of the query, each of them as
often as the query has it at most. -/
theorem placed_or_reported_subperm (limit : DepthLimit) (hp : q.fromPlan? = some p) :
    (p.steps.map FromStep.join ++
      q.joins.filter (·.isReported (q.problems limit))).Subperm q.joins := by
  rw [filter_isReported limit hp]
  exact ((joins_steps_subperm hp).append (.refl _)).trans
    (List.filter_append_perm _ q.joins).subperm

/-- They are all joins of the query just when there is a step for every join within FROM. -/
theorem placed_or_reported_perm_iff (limit : DepthLimit) (hp : q.fromPlan? = some p) :
    (p.steps.map FromStep.join ++
      q.joins.filter (·.isReported (q.problems limit))).Perm q.joins ↔
    (q.joins.filter (·.isWithin p.reached)).length = p.steps.length := by
  have hlength := q.joins.length_eq_length_filter_add (·.isWithin p.reached)
  have hsub := placed_or_reported_subperm limit hp
  rw [filter_isReported limit hp] at hsub ⊢
  constructor
  · intro hperm
    have := hperm.length_eq
    simp only [List.length_append, List.length_map] at this
    omega
  · intro heq
    refine hsub.perm_of_length_le ?_
    simp only [List.length_append, List.length_map]
    omega

/-- A valid query has one step for each table after the first. -/
theorem length_steps_of_isValid (hp : q.fromPlan? = some p) (hvalid : q.isValid limit) :
    p.steps.length + 1 = q.tables.length := by
  obtain ⟨-, -, -, -, -, -, hjoins, haliases⟩ := isValid_iff.mp hvalid
  have hperm := (spans_of_fromPlan? hp).tables_perm
    (unreachable_eq_nil_of_joinProblems hp hjoins) (tableAliasProblems_eq_nil_iff.mp haliases)
  simpa [FromPlan.tables] using hperm.length_eq

/-- In a valid query all joins are within FROM. -/
theorem filter_isWithin_of_isValid (hp : q.fromPlan? = some p) (hvalid : q.isValid limit) :
    q.joins.filter (·.isWithin p.reached) = q.joins := by
  have hnone : q.problems limit = [] := List.isEmpty_iff.mp hvalid
  refine List.filter_eq_self.mpr fun j hj ↦ ?_
  have hiff := isReported_iff_not_isWithin limit hp hj
  simpa [hnone, Join.isReported] using hiff

theorem length_reached (p : FromPlan) : p.reached.length = p.steps.length + 1 := by
  simp [FromPlan.reached]

end Query

/-! ## The main statement -/

/-- A join of a query is reported just when its sides are not both in FROM.  Beside the joins that
are placed and those that are reported, each counted as often as the query has it, there are no
others just when the joins within FROM are one less than the tables there.  A valid query has one
step less than it has tables, so that all of its joins are placed just when there are no more joins
than that. -/
theorem joins_placed_or_reported_iff (q : Query) (limit : DepthLimit) (h : q.tables ≠ []) :
    ∃ p, q.fromPlan? = some p ∧
      (∀ j ∈ q.joins, j.isReported (q.problems limit) ↔
        ¬ (j.left.table ∈ p.reached ∧ j.right.table ∈ p.reached)) ∧
      (p.steps.map FromStep.join ++
        q.joins.filter (·.isReported (q.problems limit))).Subperm q.joins ∧
      ((p.steps.map FromStep.join ++
          q.joins.filter (·.isReported (q.problems limit))).Perm q.joins ↔
        (q.joins.filter (·.isWithin p.reached)).length + 1 = p.reached.length) ∧
      (q.isValid limit → p.steps.length + 1 = q.tables.length ∧
        ((p.steps.map FromStep.join).Perm q.joins ↔ q.joins.length + 1 = q.tables.length)) := by
  obtain ⟨p, hp, -⟩ := q.exists_fromPlan h
  refine ⟨p, hp, fun j hj ↦ ?_, Query.placed_or_reported_subperm limit hp, ?_, fun hvalid ↦ ?_⟩
  · rw [Query.isReported_iff_not_isWithin limit hp hj, Join.isWithin_iff]
  · rw [Query.placed_or_reported_perm_iff limit hp, Query.length_reached, Nat.add_right_cancel_iff]
  · have hsteps := Query.length_steps_of_isValid hp hvalid
    have hwithin := Query.filter_isWithin_of_isValid hp hvalid
    have hiff := Query.placed_or_reported_perm_iff limit hp
    rw [Query.filter_isReported limit hp, hwithin, List.filter_eq_nil_iff.mpr (by
      simpa using List.filter_eq_self.mp hwithin), List.append_nil] at hiff
    exact ⟨hsteps, by rw [hiff]; omega⟩

/-- The joins of this query make up a tree, so that each of them is placed. -/
theorem joins_placed_of_orderReport :
    orderReport.tables ≠ [] ∧ orderReport.isValid (.depth 1) ∧
      ∃ p, orderReport.fromPlan? = some p ∧
        (p.steps.map FromStep.join).Perm orderReport.joins := by
  have hne : orderReport.tables ≠ [] := List.cons_ne_nil _ _
  have hvalid : orderReport.isValid (.depth 1) := by decide +kernel
  obtain ⟨p, hp, -, -, -, hperm⟩ := joins_placed_or_reported_iff orderReport (.depth 1) hne
  exact ⟨hne, hvalid, p, hp, (hperm hvalid).2.mpr rfl⟩

/-- Orders and customers with two joins between them, each of which asks for something else. -/
def regionQuery : Query where
  tables := [{ aliasName := "o", name := "orders" }, { aliasName := "c", name := "customers" }]
  joins := [{ id := "j1", left := ⟨"o", "customer_id"⟩, right := ⟨"c", "id"⟩ },
    { id := "j2", left := ⟨"o", "region"⟩, right := ⟨"c", "region"⟩ }]

/-- The second join of a valid query is neither placed nor reported. -/
theorem second_join_lost :
    regionQuery.isValid (.depth 3) ∧ ∃ p, regionQuery.fromPlan? = some p ∧
      p.steps.length = 1 ∧ regionQuery.joins.length = 2 ∧
      ∃ j ∈ regionQuery.joins, j ∉ p.steps.map FromStep.join ∧
        ¬ j.isReported (regionQuery.problems (.depth 3)) ∧
        regionQuery.sql .postgres =
          "SELECT * FROM orders AS o INNER JOIN customers AS c ON o.customer_id = c.id" := by
  refine ⟨by decide +kernel, _, rfl, by decide +kernel, rfl, regionQuery.joins[1], ?_⟩
  decide +kernel

end SelectBuilder
