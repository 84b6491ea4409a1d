import SelectBuilder.Proofs.Filter.Meaning
import SelectBuilder.Proofs.FromPlan.Reach
import SelectBuilder.Proofs.Text.Words
import SelectBuilder.Sql.Render

/-!
# What is written

The text of a statement is described by `Query.sql`, which has no failures: its plan holds the
tables themselves, keywords are a function of the kind, and declarations and values are taken apart
by cases.  Rendering asks for all of this where it is needed.  Here a writer that never fails is
followed through the statement.  Nothing else fails either, so that what is written is `Query.sql`
(`Query.render_unbounded`).

Each way of writing has one lemma, which gives its text.  A lemma about a larger part only puts
those of its parts together.
-/

namespace SelectBuilder

theorem mapM_eq_pure {α β : Type} {f : α → Except Misfit β} {g : α → β} {l : List α}
    (h : ∀ a ∈ l, f a = pure (g a)) : l.mapM f = pure (l.map g) := by
  induction l with
  | nil => rfl
  | cons a l ih =>
    obtain ⟨ha, hl⟩ := List.forall_mem_cons.mp h
    rw [List.mapM_cons, ha, ih hl]
    rfl

/-! ## Joins -/

namespace JoinKind

@[simp] theorem lookup_keywords (k : JoinKind) : keywords.lookup k = some k.keyword := by
  cases k <;> rfl

@[simp] theorem lookup_mirrors (k : JoinKind) : (mirrors.lookup k).getD k = k.mirror := by
  cases k <;> rfl

end JoinKind

/-- The kind of a step, as it is looked up. -/
theorem FromStep.lookup_kind (s : FromStep) :
    (if s.reversed then (JoinKind.mirrors.lookup s.join.kind).getD s.join.kind
      else s.join.kind) = s.kind := by
  rw [JoinKind.lookup_mirrors, kind]

/-! ## Types -/

namespace Family

theorem lookup_map (ws : List String) (f : Family) (w : String) :
    (ws.map (·, f)).lookup w = if w ∈ ws then some f else none := by
  induction ws with
  | nil => rfl
  | cons w' ws ih =>
    rw [List.map_cons, List.lookup_cons, ih]
    by_cases h : w = w'
    · simp [h]
    · rw [beq_eq_false_iff_ne.mpr h]
      simp [h]

theorem lookup_ofWords (w : String) : (ofWords.lookup w).getD .string = ofWord w := by
  have hdate : [("date", Family.date)].lookup w = if w = "date" then some .date else none := by
    by_cases h : w = "date" <;> simp [h]
  rw [ofWords, List.lookup_append, List.lookup_append, List.lookup_append, lookup_map, lookup_map,
    lookup_map, hdate, ofWord]
  split_ifs <;> rfl

theorem classify_eq (declaration : String) :
    classify declaration = pure (ofDeclaration declaration) := by
  obtain ⟨hhead, hnil⟩ := Text.head?_words_lower (dropParameters 0 declaration.toList)
  rw [classify, ofDeclaration, typeWord]
  by_cases h : Text.lowerFrom false (Text.trim (dropParameters 0 declaration.toList)) = []
  · rw [if_pos h, hnil h]
    rfl
  · rw [if_neg h, hhead, if_neg h, demand_some, pure_bind, lookup_ofWords]

end Family

namespace KnownType

theorem family?_forOperator (type : KnownType) (operator : Operator) :
    (type.forOperator operator).family? = Operand.familyFor operator type.family? := by
  cases operator <;> rfl

theorem familyFor_eq (type : KnownType) (v : Value) :
    type.familyFor v = pure (type.family?.getD (Literal.familyOf v)) := by
  cases type with
  | unknown => rfl
  | family f => rfl
  | declared s =>
    rw [familyFor, family?, Family.declared?, Family.classify_eq]
    split <;> rfl

end KnownType

theorem Query.family?_knownType (q : Query) (r : ColumnRef) :
    (q.knownType r).family? = Family.declared? (q.columnType? r) := by
  rw [knownType]
  cases q.columnType? r <;> rfl

theorem Operand.readBounds_eq (v : Value) : readBounds v = pure (bounds v) := by
  cases v with
  | list vs => match vs with
    | [] | [_] | _ :: _ :: _ => rfl
  | _ => rfl

/-! ## The filter -/

namespace ConditionGroup

variable (conditionText : Condition → String)

/-- The text of a row of lexemes. -/
def rowText (ls : List FilterLexeme) : String :=
  String.join (ls.map (FilterLexeme.text conditionText))

theorem rowText_append (ls ms : List FilterLexeme) :
    rowText conditionText (ls ++ ms) = rowText conditionText ls ++ rowText conditionText ms := by
  simp [rowText]

theorem rowText_intercalate (k : Connective) (lss : List (List FilterLexeme)) :
    rowText conditionText ([.connective k].intercalate lss) =
      (" " ++ k.word ++ " ").intercalate (lss.map (rowText conditionText)) := by
  induction lss with
  | nil => rfl
  | cons ls lss ih =>
    cases lss with
    | nil => simp
    | cons ms lss =>
      rw [List.intercalate_cons_cons, rowText_append, rowText_append, ih, List.map_cons,
        List.map_cons, List.map_cons, String.intercalate_cons_cons]
      simp [rowText, FilterLexeme.text]

theorem ne_nil_of_mem_nestedLexemes {gs : List ConditionGroup} :
    ∀ ls ∈ nestedLexemes gs, ls ≠ [] := by
  induction gs with
  | nil => simp [nestedLexemes]
  | cons g gs ih =>
    by_cases h : g.lexemes = []
    · rwa [nestedLexemes_cons_of_eq_nil h]
    · rw [nestedLexemes_cons_of_ne_nil h]
      exact List.forall_mem_cons.mpr ⟨by simp, ih⟩

/-- What a group is put together of, each of its own conditions and nested groups for itself. -/
def rows (g : ConditionGroup) : List (List FilterLexeme) :=
  g.conditions.map (fun c ↦ [.condition c]) ++ nestedLexemes g.groups

theorem lexemes_eq_nil_iff_rows (g : ConditionGroup) : g.lexemes = [] ↔ g.rows = [] := by
  have hrows : ∀ ls ∈ g.rows, ls ≠ [] := fun ls hls ↦ by
    obtain hls | hls := List.mem_append.mp hls
    · obtain ⟨c, -, rfl⟩ := List.mem_map.mp hls
      exact List.cons_ne_nil _ _
    · exact ne_nil_of_mem_nestedLexemes ls hls
  rw [lexemes_eq, ← rows]
  cases h : g.rows with
  | nil => simp
  | cons ls lss =>
    have hls := hrows ls (by rw [h]; exact List.mem_cons_self)
    simp [intercalate_singleton_cons, hls]

theorem intercalate_rows (g : ConditionGroup) :
    (" " ++ g.connective.word ++ " ").intercalate (g.rows.map (rowText conditionText)) =
      g.text conditionText := by
  rw [← rowText_intercalate, rows, ← lexemes_eq]
  rfl

end ConditionGroup

namespace Writer

section Filter

open ConditionGroup (lexemes nestedLexemes rows rowText intercalate_rows lexemes_eq_nil_iff_rows
  nestedLexemes_cons_of_eq_nil nestedLexemes_cons_of_ne_nil)

variable {condition : Condition → Except Misfit String} {conditionText : Condition → String}

mutual

/-- Where every condition is written, the filter is. -/
theorem group_eq (h : ∀ c, condition c = pure (conditionText c)) (depth : Nat) :
    (g : ConditionGroup) → group condition depth g =
      pure (if g.lexemes = [] then ""
        else if 0 < depth then "(" ++ g.text conditionText ++ ")" else g.text conditionText)
  | ⟨own, connective, conditions, groups⟩ => by
    -- The parts are the texts of the rows that the lexemes of the group are joined from.
    have hparts (g : ConditionGroup) : g.conditions.map conditionText ++
        (nestedLexemes g.groups).map (rowText conditionText) =
          g.rows.map (rowText conditionText) := by
      simp [rows, rowText, FilterLexeme.text]
    rw [group, mapM_eq_pure fun c _ ↦ h c, nested_eq h depth groups, pure_bind, pure_bind,
      hparts ⟨own, connective, conditions, groups⟩]
    by_cases hnil : lexemes ⟨own, connective, conditions, groups⟩ = []
    · rw [if_pos hnil, (lexemes_eq_nil_iff_rows _).mp hnil]
      rfl
    · dsimp only
      rw [if_neg hnil, List.isEmpty_map, if_neg (mt List.isEmpty_iff.mp
        ((lexemes_eq_nil_iff_rows _).not.mp hnil))]
      exact congrArg (fun text ↦ pure (if 0 < depth then "(" ++ text ++ ")" else text))
        (intercalate_rows conditionText ⟨own, connective, conditions, groups⟩)

theorem nested_eq (h : ∀ c, condition c = pure (conditionText c)) (depth : Nat) :
    (gs : List ConditionGroup) → nested condition (depth + 1) gs =
      pure ((nestedLexemes gs).map (rowText conditionText))
  | [] => rfl
  | g :: gs => by
    rw [nested, group_eq h (depth + 1) g, nested_eq h depth gs, pure_bind, pure_bind]
    by_cases hnil : g.lexemes = []
    · rw [if_pos hnil, if_pos rfl, nestedLexemes_cons_of_eq_nil hnil]
    · have hrow : rowText conditionText (.openParen :: g.lexemes ++ [.closeParen]) =
          "(" ++ g.text conditionText ++ ")" := by
        simp [rowText, ConditionGroup.text, FilterLexeme.text, String.append_assoc]
      rw [if_neg hnil, if_pos (Nat.succ_pos depth), if_neg (by simp),
        nestedLexemes_cons_of_ne_nil hnil, List.map_cons, hrow]

end

theorem group_root (h : ∀ c, condition c = pure (conditionText c)) (g : ConditionGroup) :
    group condition 0 g = pure (g.text conditionText) := by
  rw [group_eq h]
  by_cases hnil : g.lexemes = []
  · rw [if_pos hnil, ConditionGroup.text, hnil]
    rfl
  · rw [if_neg hnil, if_neg (Nat.lt_irrefl 0)]

end Filter

/-! ## A writer that never fails -/

open Query (selectionText stepText conditionText groupFilterText groupFilterFamily sortKeyText
  family?_knownType)

variable (d : Dialect) (q : Query)

@[simp] theorem column_unbounded (r : ColumnRef) :
    unbounded.column d r = pure (d.qualifiedColumn r) := by
  simp [column, Dialect.qualifiedColumn]

@[simp] theorem table_unbounded (t : Table) : unbounded.table d t = pure (d.tableText t) := by
  rw [table, qualified, Dialect.tableText, Dialect.qualifiedTable]
  by_cases h : t.schema = "" <;> simp [h]

theorem literal_unbounded (type : KnownType) (v : Value) :
    unbounded.literal d type v = pure ((Literal.ofValue type.family? v).text d) := by
  cases v with
  | null => rfl
  | _ =>
    simp only [literal, KnownType.familyFor_eq, check_unbounded, pure_bind]
    rfl

theorem operand_unbounded (operator : Operator) (type : KnownType) (v : Value) :
    unbounded.operand d operator type v =
      pure ((Operand.ofValue operator type.family? v).text d) := by
  have hfamily := type.family?_forOperator operator
  cases operator with
  | isNull | isNotNull => rfl
  | isIn | notIn =>
    simp only [operand, mapM_eq_pure fun v _ ↦ literal_unbounded d _ v, pure_bind, hfamily,
      Operand.ofValue, Operand.text, List.map_map]
    rfl
  | between =>
    simp only [operand, Operand.readBounds_eq, pure_bind, literal_unbounded, hfamily]
    rfl
  | compare | like | notLike =>
    simp only [operand, literal_unbounded, hfamily]
    rfl

theorem selection_unbounded (distinctRows : Bool) (c : Selection) :
    unbounded.selection d distinctRows c = pure (selectionText d distinctRows c) := by
  rw [selection, selectionText, column_unbounded, pure_bind]
  cases c.aliasName with
  | none => rfl
  | some aliasName =>
    cases c.aggregate <;> by_cases h : aliasName = "" <;> simp [h]

theorem selectClause_unbounded : unbounded.selectClause d q = pure (Query.selectClause d q) := by
  rw [selectClause, Query.selectClause, mapM_eq_pure fun c _ ↦ selection_unbounded d _ c]
  cases q.columns.isEmpty <;> rfl

/-- A step is written where the table behind its target is the one that the plan has for it. -/
theorem step_unbounded {s : FromStep} (h : q.table? s.target = some s.table) :
    unbounded.step d q s = pure (stepText d s) := by
  rw [step, stepText, s.lookup_kind, h, demand_some, pure_bind, table_unbounded, pure_bind,
    JoinKind.lookup_keywords, demand_some, pure_bind]
  by_cases hcross : s.kind = .cross
  · simp only [if_pos hcross]
  · simp only [if_neg hcross, column_unbounded, pure_bind]

theorem fromClause_unbounded {plan : FromPlan} (h : q.fromPlan? = some plan) :
    unbounded.fromClause d q = pure (Query.fromClause d plan) := by
  have hspans := Query.spans_of_fromPlan? h
  have hsteps : plan.steps.mapM (unbounded.step d q) = pure (plan.steps.map (stepText d)) :=
    mapM_eq_pure fun s hs ↦ step_unbounded d q (hspans.table?_target s hs)
  rw [fromClause, h, hspans.base, demand_some, demand_some, pure_bind, pure_bind,
    table_unbounded, pure_bind, hsteps, pure_bind]
  rfl

theorem condition_unbounded (c : Condition) :
    unbounded.condition d q c = pure (conditionText d q c) := by
  rw [Writer.condition, column_unbounded, operand_unbounded, pure_bind, pure_bind,
    family?_knownType]
  rfl

theorem whereClause_unbounded : unbounded.whereClause d q = pure (Query.whereClause d q) := by
  rw [whereClause, Query.whereClause]
  cases q.filter with
  | none => rfl
  | some g =>
    simp only [group_root (condition_unbounded d q), pure_bind]

theorem groupByClause_unbounded :
    unbounded.groupByClause d q = pure (Query.groupByClause d q) := by
  rw [groupByClause, Query.groupByClause, mapM_eq_pure fun r _ ↦ column_unbounded d r]
  cases q.grouping.isEmpty <;> rfl

theorem groupFilter_unbounded (h : GroupFilter) :
    unbounded.groupFilter d q h = pure (groupFilterText d q h) := by
  have hfamily : KnownType.family? (if h.aggregate.isNumeric then .family .numeric
      else q.knownType h.subject) = q.groupFilterFamily h := by
    rw [groupFilterFamily]
    split
    · rfl
    · exact q.family?_knownType h.subject
  rw [groupFilter, column_unbounded, pure_bind]
  dsimp only
  rw [operand_unbounded, pure_bind, hfamily]
  rfl

theorem havingClause_unbounded : unbounded.havingClause d q = pure (Query.havingClause d q) := by
  rw [havingClause, Query.havingClause, mapM_eq_pure fun h _ ↦ groupFilter_unbounded d q h]
  cases q.having.isEmpty <;> rfl

theorem sortKey_unbounded (k : SortKey) : unbounded.sortKey d k = pure (sortKeyText d k) := by
  rw [sortKey, column_unbounded, pure_bind]
  rfl

theorem orderByClause_unbounded :
    unbounded.orderByClause d q = pure (Query.orderByClause d q) := by
  rw [orderByClause, Query.orderByClause, mapM_eq_pure fun k _ ↦ sortKey_unbounded d k]
  cases q.sorting.isEmpty <;> cases q.isPaged && d.pagingNeedsOrder <;> rfl

end Writer

open Writer

/-- A writer that never fails gets a statement for every query, and its text is `Query.sql`. -/
theorem Query.render_unbounded (d : Dialect) (q : Query) :
    q.render .unbounded d = .ok (q.sql d) := by
  rw [render, sql]
  by_cases htables : q.tables = []
  · rw [htables, fromPlan?_eq_none htables]
    rfl
  · obtain ⟨plan, hplan, -⟩ := q.exists_fromPlan htables
    rw [if_neg (mt List.isEmpty_iff.mp htables), selectClause_unbounded,
      fromClause_unbounded d q hplan, whereClause_unbounded, groupByClause_unbounded,
      havingClause_unbounded, orderByClause_unbounded, hplan]
    rfl

end SelectBuilder
