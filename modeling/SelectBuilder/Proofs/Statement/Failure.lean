import SelectBuilder.Proofs.Statement.Writing
import SelectBuilder.Query.Problem

/-!
# Where writing fails

All that is asked for in a statement is there, so that writing can only fail with its writer: at a
name that is not quoted, or at a value that has no text.  `Query.marks` are the names and the values
of a statement, in the order in which its writer is asked for them.

A way of writing is compared with itself, once with some writer and once with one that never fails
(`Asks`).  It fails with the first mark that its writer does not get, whatever the others are, and
what is written is the same, if names are quoted in the same way.  Both are kept when steps are put
in sequence, so there is a line for each way of writing, which follows its definition.
-/

namespace SelectBuilder

open Query (writtenCount spans_of_fromPlan?)

/-- What a writer is asked for. -/
inductive Mark where
  | name (s : String)
  | value (v : Value)

def Mark.name? : Mark → Option String
  | .name s => some s
  | .value _ => none

def Writer.spell (w : Writer) (d : Dialect) : Mark → Except Misfit Unit
  | .name s => (w.quote d s).map fun _ ↦ ()
  | .value v => w.check v

/-! ## The marks of a statement -/

def ColumnRef.marks (r : ColumnRef) : List Mark := [.name r.table, .name r.column]

def Table.marks (t : Table) : List Mark :=
  (if t.schema = "" then [.name t.name] else [.name t.schema, .name t.name]) ++ [.name t.aliasName]

def Selection.marks (c : Selection) : List Mark :=
  c.source.marks ++
    match c.aliasName with
    | none => []
    | some aliasName => if aliasName = "" then [] else [.name aliasName]

def FromStep.marks (s : FromStep) : List Mark :=
  s.table.marks ++ if s.kind = .cross then [] else s.join.left.marks ++ s.join.right.marks

/-- The values that an operator takes. -/
def Operand.marks (operator : Operator) (v : Value) : List Mark :=
  match operator with
  | .isNull | .isNotNull => []
  | .isIn | .notIn => (items v).map .value
  | .between => [.value (bounds v).1, .value (bounds v).2]
  | .compare _ | .like | .notLike => [.value v]

def Condition.marks (c : Condition) : List Mark :=
  c.subject.marks ++ Operand.marks c.operator c.operandValue

def GroupFilter.marks (h : GroupFilter) : List Mark := h.subject.marks ++ [.value h.value]

namespace Query

variable (q : Query)

/-- The marks of the clauses around the filter, and of the filter, in the order of the clauses. -/
def marks : List Mark :=
  match q.fromPlan? with
  | none => []
  | some plan =>
    q.columns.flatMap Selection.marks ++
      ((plan.base.marks ++ plan.steps.flatMap FromStep.marks) ++
        (q.conditions.flatMap Condition.marks ++
          (q.grouping.flatMap ColumnRef.marks ++
            (q.having.flatMap GroupFilter.marks ++
              (q.sorting.flatMap (·.source.marks) ++
                [.value (writtenCount (q.limit.map (·.val))), .value (writtenCount q.offset)])))))

/-- The names in a statement. -/
def names : List String := q.marks.filterMap Mark.name?

/-- Whether a writer gets all that is asked of it in a statement. -/
def Writable (w : Writer) (d : Dialect) : Prop := ∀ m ∈ q.marks, w.spell d m = .ok ()

end Query

/-! ## Ways of writing -/

/-- A way of writing with a writer asks it for some marks and fails just as they do, and what comes
of it comes of the other way, if the writer quotes names as the dialects do. -/
structure Asks (w : Writer) (d : Dialect) {α : Type} (marks : List Mark) (x y : Except Misfit α) :
    Prop where
  failure : x.map (fun _ ↦ ()) = forM marks (w.spell d)
  text : w.quote = Writer.unbounded.quote → ∀ a, x = .ok a → y = .ok a

namespace Asks

variable {w : Writer} {d : Dialect} {α β : Type} {ms ns : List Mark} {x y : Except Misfit α}

theorem pure (a : α) : Asks w d [] (Pure.pure a) (Pure.pure a) := ⟨rfl, fun _ _ h ↦ h⟩

theorem bind {f g : α → Except Misfit β} (h : Asks w d ms x y)
    (hf : ∀ a, Asks w d ns (f a) (g a)) : Asks w d (ms ++ ns) (x >>= f) (y >>= g) where
  failure := by
    rw [List.forM_append, ← h.failure]
    cases x with
    | error m => rfl
    | ok a => exact (hf a).failure
  text hw b hb := by
    cases x with
    | error m => cases hb
    | ok a =>
      rw [h.text hw a rfl]
      exact (hf a).text hw b hb

theorem map (h : Asks w d ms x y) (f : α → β) :
    Asks w d ms (x >>= fun a ↦ Pure.pure (f a)) (y >>= fun a ↦ Pure.pure (f a)) := by
  have := h.bind fun a ↦ .pure (f a)
  rwa [List.append_nil] at this

variable {f g : α → Except Misfit β} {marks : α → List Mark} {l : List α}

theorem mapM (h : ∀ a ∈ l, Asks w d (marks a) (f a) (g a)) :
    Asks w d (l.flatMap marks) (l.mapM f) (l.mapM g) := by
  induction l with
  | nil => exact .pure []
  | cons a l ih =>
    obtain ⟨ha, hl⟩ := List.forall_mem_cons.mp h
    rw [List.mapM_cons, List.mapM_cons, List.flatMap_cons]
    exact ha.bind fun b ↦ (ih hl).map (b :: ·)

/-- A clause that is left out, or written otherwise, if it has no items. -/
theorem clause (h : ∀ a, Asks w d (marks a) (f a) (g a)) {γ : Type} (absent : γ)
    (present : List β → γ) :
    Asks w d (l.flatMap marks)
      (if l.isEmpty then Pure.pure absent else l.mapM f >>= fun bs ↦ Pure.pure (present bs))
      (if l.isEmpty then Pure.pure absent else l.mapM g >>= fun bs ↦ Pure.pure (present bs)) := by
  cases l with
  | nil => exact .pure absent
  | cons a l => exact (mapM fun a _ ↦ h a).map present

end Asks

namespace Writer

variable (w : Writer) (d : Dialect) (q : Query)

@[simp] theorem check_null : w.check .null = pure () := by
  rw [check]
  cases w.longest <;> rfl

theorem asks_quote (s : String) :
    Asks w d [.name s] (w.quote d s) (unbounded.quote d s) where
  failure := by
    rw [List.forM_cons, List.forM_nil, spell]
    cases w.quote d s <;> rfl
  text hw a ha := hw ▸ ha

theorem asks_check (v : Value) : Asks w d [.value v] (w.check v) (unbounded.check v) where
  failure := by
    rw [List.forM_cons, List.forM_nil, spell]
    cases w.check v <;> rfl
  text _ _ _ := rfl

theorem asks_column (r : ColumnRef) :
    Asks w d r.marks (w.column d r) (unbounded.column d r) :=
  (w.asks_quote d r.table).bind fun _ ↦ (w.asks_quote d r.column).map _

theorem asks_table (t : Table) : Asks w d t.marks (w.table d t) (unbounded.table d t) := by
  refine Asks.bind ?_ fun _ ↦ (w.asks_quote d t.aliasName).map _
  unfold qualified
  split
  · exact w.asks_quote d t.name
  · exact (w.asks_quote d t.schema).bind fun _ ↦ (w.asks_quote d t.name).map _

theorem asks_literal (type : KnownType) (v : Value) :
    Asks w d [.value v] (w.literal d type v) (unbounded.literal d type v) := by
  cases v with
  | null =>
    refine ⟨?_, fun _ _ h ↦ h⟩
    rw [List.forM_cons, List.forM_nil, spell, check_null]
    rfl
  | _ =>
    simp only [literal, KnownType.familyFor_eq, pure_bind]
    exact (w.asks_check d _).map _

theorem asks_operand (operator : Operator) (type : KnownType) (v : Value) :
    Asks w d (Operand.marks operator v) (w.operand d operator type v)
      (unbounded.operand d operator type v) := by
  cases operator with
  | isNull | isNotNull => exact .pure ""
  | isIn | notIn =>
    rw [Operand.marks, List.map_eq_flatMap]
    exact (Asks.mapM fun v _ ↦ w.asks_literal d _ v).map _
  | between =>
    simp only [operand, Operand.readBounds_eq, pure_bind]
    exact (w.asks_literal d _ _).bind fun _ ↦ (w.asks_literal d _ _).map _
  | compare | like | notLike => exact w.asks_literal d _ v

theorem asks_condition (c : Condition) :
    Asks w d c.marks (w.condition d q c) (unbounded.condition d q c) :=
  (w.asks_column d c.subject).bind fun _ ↦ (w.asks_operand d c.operator _ c.operandValue).map _

section Filter

variable {w d} {f g : Condition → Except Misfit String} {marks : Condition → List Mark}

mutual

theorem asks_group (h : ∀ c, Asks w d (marks c) (f c) (g c)) (depth : Nat) :
    (tree : ConditionGroup) →
      Asks w d (tree.allConditions.flatMap marks) (group f depth tree) (group g depth tree)
  | ⟨own, connective, conditions, groups⟩ => by
    rw [group, group, ConditionGroup.allConditions, List.flatMap_append]
    exact (Asks.mapM fun c _ ↦ h c).bind fun _ ↦ (asks_nested h (depth + 1) groups).map _

theorem asks_nested (h : ∀ c, Asks w d (marks c) (f c) (g c)) (depth : Nat) :
    (trees : List ConditionGroup) →
      Asks w d ((ConditionGroup.allConditionsOf trees).flatMap marks) (nested f depth trees)
        (nested g depth trees)
  | [] => .pure []
  | tree :: trees => by
    rw [nested, nested, ConditionGroup.allConditionsOf, List.flatMap_append]
    exact (asks_group h depth tree).bind fun _ ↦ (asks_nested h depth trees).map _

end

end Filter

theorem asks_whereClause :
    Asks w d (q.conditions.flatMap Condition.marks) (w.whereClause d q)
      (unbounded.whereClause d q) := by
  unfold whereClause Query.conditions
  cases q.filter with
  | none => exact .pure ""
  | some tree => exact (asks_group (w.asks_condition d q) 0 tree).map _

theorem asks_selection (distinctRows : Bool) (c : Selection) :
    Asks w d c.marks (w.selection d distinctRows c) (unbounded.selection d distinctRows c) := by
  refine (w.asks_column d c.source).bind fun _ ↦ ?_
  cases c.aliasName with
  | none => exact .pure _
  | some aliasName =>
    by_cases h : aliasName = ""
    · simp only [h, if_pos]
      exact .pure _
    · simp only [if_neg h]
      exact (w.asks_quote d aliasName).map _

/-- Of a step, the table is asked for that the plan has for its target. -/
theorem asks_step {s : FromStep} (h : q.table? s.target = some s.table) :
    Asks w d s.marks (w.step d q s) (unbounded.step d q s) := by
  simp only [step, s.lookup_kind, h, demand_some, pure_bind, JoinKind.lookup_keywords]
  refine (w.asks_table d s.table).bind fun _ ↦ ?_
  by_cases hcross : s.kind = .cross
  · simp only [if_pos hcross]
    exact .pure _
  · simp only [if_neg hcross]
    exact (w.asks_column d s.join.left).bind fun _ ↦ (w.asks_column d s.join.right).map _

theorem asks_groupFilter (h : GroupFilter) :
    Asks w d h.marks (w.groupFilter d q h) (unbounded.groupFilter d q h) :=
  (w.asks_column d h.subject).bind fun _ ↦
    (w.asks_operand d (.compare h.comparison) _ h.value).map _

theorem asks_sortKey (k : SortKey) :
    Asks w d k.source.marks (w.sortKey d k) (unbounded.sortKey d k) :=
  (w.asks_column d k.source).map _

theorem asks_pageClause :
    Asks w d [.value (writtenCount (q.limit.map (·.val))), .value (writtenCount q.offset)]
      (w.pageClause d q) (unbounded.pageClause d q) :=
  (w.asks_check d _).bind fun _ ↦ (w.asks_check d _).map _

theorem asks_fromClause {plan : FromPlan} (h : q.fromPlan? = some plan) :
    Asks w d (plan.base.marks ++ plan.steps.flatMap FromStep.marks) (w.fromClause d q)
      (unbounded.fromClause d q) := by
  have hspans := spans_of_fromPlan? h
  simp only [fromClause, h, hspans.base, demand_some, pure_bind]
  exact (w.asks_table d plan.base).bind fun _ ↦
    (Asks.mapM fun s hs ↦ w.asks_step d q (hspans.table?_target s hs)).map _

end Writer

/-! ## What becomes of a query -/

section Sequence

variable {α : Type} {f : α → Except Misfit Unit} {l : List α}

theorem forM_eq_ok_iff : forM l f = .ok () ↔ ∀ a ∈ l, f a = .ok () := by
  induction l with
  | nil => exact iff_of_true rfl nofun
  | cons a l ih =>
    rw [List.forM_cons, List.forall_mem_cons, ← ih]
    cases f a with
    | ok u => exact (and_iff_right rfl).symm
    | error m => exact iff_of_false nofun fun h ↦ nomatch h.1

end Sequence

namespace Query

variable {w : Writer} {d : Dialect} {q : Query}

theorem asks_render (w : Writer) (d : Dialect) (q : Query) :
    Asks w d q.marks (q.render w d) (q.render .unbounded d) := by
  rw [render, render, marks]
  by_cases htables : q.tables = []
  · rw [htables, fromPlan?_eq_none htables]
    exact .pure _
  · obtain ⟨plan, hplan, -⟩ := q.exists_fromPlan htables
    have hnonempty := mt List.isEmpty_iff.mp htables
    rw [hplan, if_neg hnonempty, if_neg hnonempty]
    exact (Asks.clause (w.asks_selection d _) _ _).bind fun _ ↦
      (w.asks_fromClause d q hplan).bind fun _ ↦
      (w.asks_whereClause d q).bind fun _ ↦
      (Asks.clause (w.asks_column d) _ _).bind fun _ ↦
      (Asks.clause (w.asks_groupFilter d q) _ _).bind fun _ ↦
      (Asks.clause (w.asks_sortKey d) _ _).bind fun _ ↦
      (w.asks_pageClause d q).map _

/-- A query has a statement if its writer gets all that it is asked for, and only then. -/
theorem exists_render_iff : (∃ text, q.render w d = .ok text) ↔ q.Writable w d := by
  rw [Writable, ← forM_eq_ok_iff, ← (q.asks_render w d).failure]
  cases q.render w d with
  | ok text => exact iff_of_true ⟨text, rfl⟩ rfl
  | error m => exact iff_of_false nofun nofun

section Unlimited

variable (hw : w.longest = none)

include hw

end Unlimited

end Query

open Query Writer

end SelectBuilder
