import SelectBuilder.Proofs.FromPlan.Joins

/-!
# What is joined in any order

The links of a query go both ways, so whether all of its tables are joined does not depend on which
of them is the base: it comes to a path between any two of them (`joinProblems_eq_nil_iff`).  While
the base stays, what is in FROM stays, and what is reported of joins only changes places with them.
-/

namespace SelectBuilder.Query

variable {q q' : Query}

/-! ## Paths -/

theorem Linked.symm {a b : String} (h : q.Linked a b) : q.Linked b a := by
  obtain ⟨j, hj, hleft, hright, hsides⟩ := h
  exact ⟨j, hj, hleft, hright, hsides.symm⟩

theorem Connected.symm {a b : String} (h : q.Connected a b) : q.Connected b a := by
  induction h with
  | refl => exact .refl
  | tail _ hlink ih => exact .head hlink.symm ih

/-- Paths depend on the joins and the aliases, and on no order of them. -/
theorem connected_eq_of_perm (hjoins : q.joins.Perm q'.joins)
    (haliases : q.aliases.Perm q'.aliases) :
    q.Connected = q'.Connected := by
  have heq : q.Linked = q'.Linked := by
    funext a b
    simp only [Linked, hjoins.mem_iff, haliases.mem_iff]
  rw [Connected, Connected, heq]

/-! ## Problems of joins -/

/-- What is reported of joins, by what is in FROM. -/
theorem joinProblems_eq {p : FromPlan} (hp : q.fromPlan? = some p) :
    q.joinProblems =
      (q.joins.filter fun j ↦ j.isApart p.reached && j.isWithin q.aliases).map .disconnectedJoin
        ++ (q.aliases.filter (· ∉ p.reached)).map .unjoinedTable := by
  have hspans := spans_of_fromPlan? hp
  have htables : p.unreachable.map (Problem.unjoinedTable ·.aliasName) =
      (q.aliases.filter (· ∉ p.reached)).map .unjoinedTable := by
    rw [hspans.unreachable, aliases, List.filter_map, List.map_map]
    rfl
  simp only [joinProblems, hp]
  rw [htables, hspans.stranded, List.filter_filter]
  congr 2
  exact List.filter_congr fun j _ ↦ Bool.and_comm _ _

/-- No join is reported, and no table for want of one, just when there is a path between any two
tables. -/
theorem joinProblems_eq_nil_iff :
    q.joinProblems = [] ↔ ∀ a ∈ q.aliases, ∀ b ∈ q.aliases, q.Connected a b := by
  by_cases hne : q.tables = []
  · simp [joinProblems, fromPlan?_eq_none hne, aliases, hne]
  obtain ⟨p, hp, hspans⟩ := q.exists_fromPlan hne
  have hbase : p.base.aliasName ∈ q.aliases :=
    hspans.mem_aliases (List.mem_cons_self : p.base.aliasName ∈ p.reached)
  rw [joinProblems_eq hp, List.append_eq_nil_iff, List.map_eq_nil_iff, List.map_eq_nil_iff,
    List.filter_eq_nil_iff, List.filter_eq_nil_iff]
  constructor
  · rintro ⟨-, hreached⟩ a ha b hb
    have hpath : ∀ c ∈ q.aliases, q.Connected p.base.aliasName c := fun c hc ↦
      (hspans.mem_reached_iff c).mp (by simpa using hreached c hc)
    exact (hpath a ha).symm.trans (hpath b hb)
  · intro hpath
    have hreached : ∀ a ∈ q.aliases, a ∈ p.reached := fun a ha ↦
      (hspans.mem_reached_iff a).mpr (hpath _ hbase a ha)
    refine ⟨fun j _ hj ↦ ?_, fun a ha ↦ by simpa using hreached a ha⟩
    simp only [Bool.and_eq_true, Join.isApart_iff, Join.isWithin_iff] at hj
    exact hj.1.1 (hreached _ hj.2.1)

/-- With the same tables in the same order, the same joins and tables are reported. -/
theorem joinProblems_perm (htables : q.tables = q'.tables) (hjoins : q.joins.Perm q'.joins) :
    q.joinProblems.Perm q'.joinProblems := by
  by_cases hne : q.tables = []
  · rw [joinProblems, joinProblems, fromPlan?_eq_none hne, fromPlan?_eq_none (htables ▸ hne)]
  obtain ⟨p, hp, hspans⟩ := q.exists_fromPlan hne
  obtain ⟨p', hp', hspans'⟩ := q'.exists_fromPlan (htables ▸ hne)
  have haliases : q.aliases = q'.aliases := congrArg (List.map Table.aliasName) htables
  have hbase : p.base = p'.base :=
    Option.some.inj (hspans.base.symm.trans (htables ▸ hspans'.base))
  have hreached : ∀ a, a ∈ p.reached ↔ a ∈ p'.reached := fun a ↦ by
    rw [hspans.mem_reached_iff, hspans'.mem_reached_iff, hbase,
      connected_eq_of_perm hjoins (.of_eq haliases)]
  rw [joinProblems_eq hp, joinProblems_eq hp', haliases]
  simp only [Join.isApart_congr hreached, hreached]
  exact ((hjoins.filter _).map _).append_right _

end SelectBuilder.Query
