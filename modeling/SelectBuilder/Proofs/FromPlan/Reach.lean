import Mathlib.Logic.Relation
import SelectBuilder.Proofs.FromPlan.Rounds

/-!
# What is in FROM

The joins of a query are the edges of an undirected graph on its aliases, as far as both sides of a
join are tables of the query.  The plan of the FROM clause brings in exactly what is connected to
the base in this graph.

Soundness goes along the chain of steps: each of them walks one edge from what is in FROM already.
Completeness goes along a path from the base: were some link of it not followed, its join would not
be exhausted.  Neither looks at the order of the joins, so that order decides nothing about which
tables are in FROM.
-/

namespace SelectBuilder

namespace Query

/-! ## The graph of a query -/

/-- Two aliases are linked by a join with both sides among the tables of the query. -/
def Linked (q : Query) (a b : String) : Prop :=
  ∃ j ∈ q.joins, j.left.table ∈ q.aliases ∧ j.right.table ∈ q.aliases ∧
    (j.left.table = a ∧ j.right.table = b ∨ j.left.table = b ∧ j.right.table = a)

/-- There is a path of links between two aliases. -/
def Connected (q : Query) : String → String → Prop := Relation.ReflTransGen q.Linked

/-- A path has its ends among the tables of the query, or does not leave its start. -/
theorem Connected.mem_aliases {q : Query} {a b : String} (h : q.Connected a b)
    (ha : a ∈ q.aliases) : b ∈ q.aliases := by
  cases h with
  | refl => exact ha
  | tail _ hlink =>
    obtain ⟨j, -, hl, hr, ⟨-, rfl⟩ | ⟨rfl, -⟩⟩ := hlink
    · exact hr
    · exact hl

/-- The links are those of the joins, in whatever order. -/
theorem linked_congr {q : Query} {js : List Join} (h : js.Perm q.joins) (a b : String) :
    ({ q with joins := js } : Query).Linked a b ↔ q.Linked a b := by
  simp only [Linked, h.mem_iff, aliases]

theorem connected_congr {q : Query} {js : List Join} (h : js.Perm q.joins) (a b : String) :
    ({ q with joins := js } : Query).Connected a b ↔ q.Connected a b := by
  have heq : ({ q with joins := js } : Query).Linked = q.Linked := by
    funext c d
    exact propext (linked_congr h c d)
  rw [Connected, Connected, heq]

theorem table?_congr (q : Query) (js : List Join) :
    ({ q with joins := js } : Query).table? = q.table? := rfl

end Query

namespace FromPlan

/-! ## What a plan promises -/

/-- The tables in FROM. -/
def tables (p : FromPlan) : List Table := p.base :: p.steps.map FromStep.table

theorem map_aliasName_tables (p : FromPlan) : p.tables.map Table.aliasName = p.reached := by
  simp [tables, reached, FromStep.target, Function.comp_def]

theorem reached_eq (p : FromPlan) :
    p.reached = p.base.aliasName :: p.steps.map FromStep.target := rfl

theorem mem_cons_targets {a b : String} {ss : List FromStep} :
    a ∈ b :: ss.map FromStep.target ↔ a ∈ reachedBy [b] ss := by
  rw [mem_reachedBy, List.mem_cons, List.mem_singleton]
  exact or_comm

/-- A plan puts into FROM what is connected to its base, and says of the rest why it is left
out. -/
structure Spans (p : FromPlan) (q : Query) : Prop where
  base : q.tables.head? = some p.base
  mem_reached_iff : ∀ a, a ∈ p.reached ↔ q.Connected p.base.aliasName a
  nodup : p.reached.Nodup
  steps : ∀ before s after, p.steps = before ++ s :: after →
    s.join ∈ q.joins ∧ q.table? s.target = some s.table ∧
      s.Follows (p.base.aliasName :: before.map FromStep.target)
  stranded : p.stranded = q.joins.filter (·.isApart p.reached)
  unreachable : p.unreachable = q.tables.filter (·.aliasName ∉ p.reached)

end FromPlan

open FromPlan

/-! ## Soundness and completeness -/

section Graph

variable {q : Query} {b : String}

/-- A step walks along a link from what is in FROM already. -/
theorem FromStep.Follows.linked {s : FromStep} {R : List String} (h : s.Follows R)
    (hj : s.join ∈ q.joins) (ht : s.target ∈ q.aliases) (hR : ∀ a ∈ R, a ∈ q.aliases) :
    ∃ a ∈ R, q.Linked a s.target := by
  rcases h.sides with ⟨hl, -, hs⟩ | ⟨hr, -, hs⟩
  · exact ⟨_, hl, s.join, hj, hR _ hl, hs ▸ ht, .inl ⟨rfl, hs.symm⟩⟩
  · exact ⟨_, hr, s.join, hj, hs ▸ ht, hR _ hr, .inr ⟨hs.symm, rfl⟩⟩

/-- Whatever a chain of steps brings in is connected to the base. -/
theorem FromPlan.Grows.connected {R : List String} {ss : List FromStep}
    (h : Grows q.table? q.joins R ss) (hb : b ∈ q.aliases) (hR : ∀ a ∈ R, q.Connected b a) :
    ∀ a ∈ reachedBy R ss, q.Connected b a := by
  induction h with
  | nil => exact hR
  | @cons R s ss hj ht hf _ ih =>
    have hmem : s.target ∈ q.aliases := Query.table?_isSome_iff.mp (by rw [ht]; rfl)
    obtain ⟨a, ha, hlink⟩ := hf.linked hj hmem fun a ha ↦ (hR a ha).mem_aliases hb
    have hcons : ∀ c ∈ s.target :: R, q.Connected b c := by
      intro c hc
      rcases List.mem_cons.mp hc with rfl | hc
      · exact (hR a ha).tail hlink
      · exact hR c hc
    exact fun c hc ↦ ih hcons c (mem_reachedBy_cons.mp hc)

/-- What FROM reaches is closed under links once every join is exhausted. -/
theorem FromPlan.mem_of_linked {R : List String} (h : ∀ j ∈ q.joins, Exhausted q.table? R j)
    {a c : String} (ha : a ∈ R) (hlink : q.Linked a c) : c ∈ R := by
  obtain ⟨j, hj, hl, hr, ⟨rfl, rfl⟩ | ⟨rfl, rfl⟩⟩ := hlink
  · exact (h j hj).right ha (Query.table?_isSome_iff.mpr hr)
  · exact (h j hj).left ha (Query.table?_isSome_iff.mpr hl)

/-- Whatever is connected to something in FROM is in FROM, once every join is exhausted. -/
theorem FromPlan.mem_of_connected {R : List String} (h : ∀ j ∈ q.joins, Exhausted q.table? R j)
    (hb : b ∈ R) {a : String} (hpath : q.Connected b a) : a ∈ R := by
  induction hpath with
  | refl => exact hb
  | tail _ hlink ih => exact mem_of_linked h ih hlink

end Graph

/-- A plan made of what settles the joins from the base spans the query. -/
theorem FromPlan.Settled.spans {q : Query} {p : FromPlan}
    (h : Settled q.table? [p.base.aliasName] q.joins ⟨p.steps, p.stranded⟩)
    (hbase : q.tables.head? = some p.base)
    (hrest : p.unreachable = q.tables.filter (·.aliasName ∉ p.reached)) : p.Spans q where
  base := hbase
  mem_reached_iff a := by
    have hb : p.base.aliasName ∈ q.aliases :=
      List.mem_map_of_mem (List.mem_of_head? hbase)
    rw [p.reached_eq, mem_cons_targets]
    constructor
    · refine h.grows.connected hb (fun c hc ↦ ?_) a
      obtain rfl := List.mem_singleton.mp hc
      exact .refl
    · exact mem_of_connected h.exhausted (subset_reachedBy List.mem_cons_self)
  nodup := by
    have hperm : (reachedBy [p.base.aliasName] p.steps).Perm p.reached :=
      List.perm_append_singleton _ _
    exact hperm.nodup_iff.mp (h.grows.nodup (List.nodup_cons.mpr ⟨List.not_mem_nil, .nil⟩))
  steps before s after heq := by
    have hgrows : Grows q.table? q.joins [p.base.aliasName] (before ++ s :: after) :=
      heq ▸ h.grows
    obtain ⟨hj, ht, hf⟩ := hgrows.of_append_cons
    exact ⟨hj, ht, hf.congr fun _ ↦ mem_cons_targets.symm⟩
  stranded := h.waiting.trans
    (List.filter_congr fun _ _ ↦ Join.isApart_congr fun _ ↦ mem_cons_targets.symm)
  unreachable := hrest

/-- A query with a table has a plan, and the plan spans the query. -/
theorem Query.exists_fromPlan (q : Query) (h : q.tables ≠ []) :
    ∃ p, q.fromPlan? = some p ∧ p.Spans q := by
  obtain ⟨base, rest, htables⟩ := List.exists_cons_of_ne_nil h
  rw [Query.fromPlan?, htables]
  refine ⟨_, rfl, Settled.spans ?_ ?_ ?_⟩
  · exact rounds_settled (fun _ _ ↦ Query.aliasName_of_table?) _ _
  · rw [htables]
    rfl
  · rw [htables]
    rfl

/-- A query without a table has no plan. -/
theorem Query.fromPlan?_eq_none {q : Query} (h : q.tables = []) : q.fromPlan? = none := by
  simp [Query.fromPlan?, h]

/-- Every plan spans its query. -/
theorem Query.spans_of_fromPlan? {q : Query} {p : FromPlan} (h : q.fromPlan? = some p) :
    p.Spans q := by
  have hne : q.tables ≠ [] := fun hc ↦ by
    rw [Query.fromPlan?_eq_none hc] at h
    cases h
  obtain ⟨p', hp', hspans⟩ := q.exists_fromPlan hne
  rw [hp', Option.some.injEq] at h
  exact h ▸ hspans

namespace FromPlan.Spans

variable {p : FromPlan} {q : Query}

theorem mem_aliases (h : p.Spans q) {a : String} (ha : a ∈ p.reached) : a ∈ q.aliases :=
  ((h.mem_reached_iff a).mp ha).mem_aliases (List.mem_map_of_mem (List.mem_of_head? h.base))

/-- The steps bring in tables of the query, each found by the alias that it is brought in under. -/
theorem table?_target (h : p.Spans q) : ∀ s ∈ p.steps, q.table? s.target = some s.table := by
  intro s hs
  obtain ⟨before, after, heq⟩ := List.append_of_mem hs
  exact (h.steps before s after heq).2.1

/-- The tables in FROM are those that the reached aliases stand for.  Of tables with the same alias
this is the first. -/
theorem mem_tables_iff (h : p.Spans q) {t : Table} :
    t ∈ p.tables ↔ t.aliasName ∈ p.reached ∧ q.table? t.aliasName = some t := by
  have hbase : q.table? p.base.aliasName = some p.base := by
    obtain ⟨rest, htables⟩ := List.head?_eq_some_iff.mp h.base
    simp [Query.table?, htables]
  constructor
  · intro ht
    refine ⟨by rw [← map_aliasName_tables]; exact List.mem_map_of_mem ht, ?_⟩
    rcases List.mem_cons.mp ht with rfl | ht
    · exact hbase
    · obtain ⟨s, hs, rfl⟩ := List.mem_map.mp ht
      exact h.table?_target s hs
  · rintro ⟨ha, ht⟩
    rcases List.mem_cons.mp ha with ha | ha
    · rw [ha, hbase, Option.some.injEq] at ht
      exact ht ▸ List.mem_cons_self
    · obtain ⟨s, hs, hsa⟩ := List.mem_map.mp ha
      rw [← hsa, h.table?_target s hs, Option.some.injEq] at ht
      exact List.mem_cons_of_mem _ (ht ▸ List.mem_map_of_mem hs)

/-- Two plans of a query with the joins in different orders reach the same. -/
theorem of_perm {p' : FromPlan} {js : List Join} (h : p.Spans q) (hjs : js.Perm q.joins)
    (h' : p'.Spans { q with joins := js }) :
    (∀ t, t ∈ p'.tables ↔ t ∈ p.tables) ∧ p'.unreachable = p.unreachable := by
  have hbase : p'.base = p.base := Option.some.inj (h'.base.symm.trans h.base)
  have hreached : ∀ a, a ∈ p'.reached ↔ a ∈ p.reached := fun a ↦ by
    rw [h'.mem_reached_iff, h.mem_reached_iff, Query.connected_congr hjs, hbase]
  constructor
  · intro t
    rw [h'.mem_tables_iff, h.mem_tables_iff, hreached, Query.table?_congr]
  · rw [h'.unreachable, h.unreachable]
    exact List.filter_congr fun t _ ↦ by simp only [hreached]

end FromPlan.Spans

/-! ## The main statement -/

/-- The plan of a query with a table computes what is connected to its base, whatever its joins
are: cycles, joins of a table with itself, repeated ones, and ones to tables that the query does
not have.  Nothing comes in twice, every step brings in the one side of its join that is not yet in
FROM, and what is left out is left out for want of a connection.  The order of the joins has no say
in which tables come in. -/
theorem fromPlan_computes_connected (q : Query) (h : q.tables ≠ []) :
    ∃ p, q.fromPlan? = some p ∧ q.tables.head? = some p.base ∧
      (∀ a, a ∈ p.base.aliasName :: p.steps.map FromStep.target ↔
        q.Connected p.base.aliasName a) ∧
      (p.base.aliasName :: p.steps.map FromStep.target).Nodup ∧
      (∀ before s after, p.steps = before ++ s :: after →
        s.join ∈ q.joins ∧ q.table? s.target = some s.table ∧
          s.Follows (p.base.aliasName :: before.map FromStep.target)) ∧
      p.stranded = q.joins.filter (fun j ↦
        j.left.table ∉ p.reached && j.right.table ∉ p.reached) ∧
      p.unreachable.map Table.aliasName = q.aliases.filter (· ∉ p.reached) ∧
      ∀ js : List Join, js.Perm q.joins →
        ∃ p', ({ q with joins := js } : Query).fromPlan? = some p' ∧
          (∀ t, t ∈ p'.base :: p'.steps.map FromStep.table ↔
            t ∈ p.base :: p.steps.map FromStep.table) ∧
          p'.unreachable = p.unreachable := by
  obtain ⟨p, hp, hspans⟩ := q.exists_fromPlan h
  refine ⟨p, hp, hspans.base, hspans.mem_reached_iff, hspans.nodup, hspans.steps, hspans.stranded,
    ?_, fun js hjs ↦ ?_⟩
  · rw [hspans.unreachable, Query.aliases, List.filter_map]
    rfl
  · obtain ⟨p', hp', hspans'⟩ := Query.exists_fromPlan { q with joins := js } h
    exact ⟨p', hp', hspans.of_perm hjs hspans'⟩

/-- A query with a cycle of joins, a table joined with itself, a join to no table, one between
tables out of reach, and two tables under one alias. -/
def tangledQuery : Query :=
  { tables := [
      { aliasName := "a", name := "accounts" }, { aliasName := "b", name := "bills" },
      { aliasName := "c", name := "cards" }, { aliasName := "d", name := "days" },
      { aliasName := "b", name := "banks" }]
    joins := [
      { id := "1", left := ⟨"c", "bill"⟩, right := ⟨"b", "id"⟩ },
      { id := "2", left := ⟨"b", "id"⟩, right := ⟨"b", "parent"⟩ },
      { id := "3", left := ⟨"a", "id"⟩, right := ⟨"x", "id"⟩ },
      { id := "4", kind := .left, left := ⟨"b", "account"⟩, right := ⟨"a", "id"⟩ },
      { id := "5", left := ⟨"a", "id"⟩, right := ⟨"c", "account"⟩ },
      { id := "6", left := ⟨"d", "id"⟩, right := ⟨"y", "day"⟩ }] }

/-- The first join waits for a later one, and comes in all the same. -/
theorem fromPlan_of_tangledQuery :
    tangledQuery.tables ≠ [] ∧ ∃ p, tangledQuery.fromPlan? = some p ∧
      p.base.aliasName = "a" ∧ "c" ∈ p.base.aliasName :: p.steps.map FromStep.target := by
  have hne : tangledQuery.tables ≠ [] := List.cons_ne_nil _ _
  obtain ⟨p, hp, hbase, hmem, -⟩ := fromPlan_computes_connected tangledQuery hne
  have ha : p.base.aliasName = "a" := congrArg Table.aliasName (Option.some.inj hbase).symm
  refine ⟨hne, p, hp, ha, ?_⟩
  rw [hmem, ha]
  have hab : tangledQuery.Linked "a" "b" := by
    refine ⟨_, List.mem_of_getElem? (show tangledQuery.joins[3]? = some _ from rfl), ?_⟩
    decide
  have hbc : tangledQuery.Linked "b" "c" := by
    refine ⟨_, List.mem_of_getElem? (show tangledQuery.joins[0]? = some _ from rfl), ?_⟩
    decide
  exact (Relation.ReflTransGen.single hab).tail hbc

end SelectBuilder
