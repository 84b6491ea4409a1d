import Mathlib.Data.List.Chain
import SelectBuilder.Proofs.FromPlan.Scope
import SelectBuilder.Proofs.Statement.Spelling

/-!
# The grammar of statements

`IsSelect` is the grammar of the statements that the databases accept, as far as queries make use of
it: the clauses in their order, with names that are not empty, DISTINCT only in front of all columns
or inside of an aggregate, and a page in the form of the dialect.

Two things keep the statement for a valid query from being one of these.  A column after the first
that is made distinct by itself puts DISTINCT behind a comma, and in two of the dialects an offset
cannot stand without a limit.  That the statement is out of the grammar in the first case is seen
from pairs of neighbours: whatever the grammar derives has no DISTINCT behind a comma
(`IsSettled.of_select`).
-/

namespace SelectBuilder

open SqlLexeme

/-! ## The grammar -/

section Lists

variable (sep : SqlLexeme) (IsPart : List SqlLexeme → Prop)

/-- One or more parts, with a separator between one and the next. -/
inductive IsSeparated : List SqlLexeme → Prop where
  | one {ls} : IsPart ls → IsSeparated ls
  | more {ls ms} : IsPart ls → IsSeparated ms → IsSeparated (ls ++ sep :: ms)

/-- Any number of parts, one after the other. -/
inductive IsRepeated : List SqlLexeme → Prop where
  | nil : IsRepeated []
  | cons {ls ms} : IsPart ls → IsRepeated ms → IsRepeated (ls ++ ms)

/-- A part that may be left out. -/
def IsOptional (ls : List SqlLexeme) : Prop := ls = [] ∨ IsPart ls

end Lists

inductive IsRef : List SqlLexeme → Prop where
  | qualified {t c : String} : t ≠ "" → c ≠ "" → IsRef [.name t, .dot, .name c]

def aggregateFunctions : List String := ["COUNT", "SUM", "AVG", "MIN", "MAX"]

inductive IsAggregate : List SqlLexeme → Prop where
  | all {w ls} : w ∈ aggregateFunctions → IsRef ls →
      IsAggregate (.function w :: .openParen :: ls ++ [.closeParen])
  | distinct {w ls} : w ∈ aggregateFunctions → IsRef ls →
      IsAggregate (.function w :: .openParen :: .word "DISTINCT" :: ls ++ [.closeParen])

inductive IsExpression : List SqlLexeme → Prop where
  | column {ls} : IsRef ls → IsExpression ls
  | aggregate {ls} : IsAggregate ls → IsExpression ls

inductive IsItem : List SqlLexeme → Prop where
  | plain {ls} : IsExpression ls → IsItem ls
  | named {ls a} : IsExpression ls → a ≠ "" → IsItem (ls ++ [.word "AS", .name a])

inductive IsSelection : List SqlLexeme → Prop where
  | all : IsSelection [.star]
  | items {ls} : IsSeparated .comma IsItem ls → IsSelection ls

inductive IsSelectClause : List SqlLexeme → Prop where
  | rows {ls} : IsSelection ls → IsSelectClause (.word "SELECT" :: ls)
  | distinctRows {ls} : IsSelection ls →
      IsSelectClause (.word "SELECT" :: .word "DISTINCT" :: ls)

inductive IsTable : List SqlLexeme → Prop where
  | plain {n a} : n ≠ "" → a ≠ "" → IsTable [.name n, .word "AS", .name a]
  | inSchema {s n a} : s ≠ "" → n ≠ "" → a ≠ "" →
      IsTable [.name s, .dot, .name n, .word "AS", .name a]

inductive IsJoin : List SqlLexeme → Prop where
  | on {kind : JoinKind} {ls left right c} : kind ≠ .cross → IsTable ls → IsRef left →
      IsRef right →
      IsJoin (.word kind.keyword :: ls ++ (.word "ON" :: left ++ .comparison c :: right))
  | cross {ls} : IsTable ls → IsJoin (.word "CROSS JOIN" :: ls)

inductive IsFrom : List SqlLexeme → Prop where
  | joined {ls ms} : IsTable ls → IsRepeated IsJoin ms → IsFrom (.word "FROM" :: ls ++ ms)

inductive IsWhere : List SqlLexeme → Prop where
  | filtered {ls p} : Reads .search ls p → IsWhere (.word "WHERE" :: ls.map FilterLexeme.sql)

inductive IsGroupBy : List SqlLexeme → Prop where
  | grouped {ls} : IsSeparated .comma IsRef ls → IsGroupBy (.word "GROUP BY" :: ls)

inductive IsGroupCondition : List SqlLexeme → Prop where
  | compared {ls c l} : IsAggregate ls → IsGroupCondition (ls ++ [.comparison c, .literal l])

inductive IsHaving : List SqlLexeme → Prop where
  | filtered {ls} : IsSeparated (.word "AND") IsGroupCondition ls → IsHaving (.word "HAVING" :: ls)

inductive IsSortKey : List SqlLexeme → Prop where
  | directed {ls} (direction : Direction) : IsRef ls → IsSortKey (ls ++ [.word direction.word])

/-- Where a page needs an order, an arbitrary one can stand for it. -/
inductive IsOrderBy : Dialect → List SqlLexeme → Prop where
  | sorted {d ls} : IsSeparated .comma IsSortKey ls → IsOrderBy d (.word "ORDER BY" :: ls)
  | arbitrary : IsOrderBy .sqlserver
      [.word "ORDER BY", .openParen, .word "SELECT", .word "NULL", .closeParen]

/-- A page with the bounds that are set. -/
inductive IsPage : Dialect → Option Nat → Option Nat → List SqlLexeme → Prop where
  | whole {d} : IsPage d none none []
  | limited {d n} : d ≠ .sqlserver → IsPage d (some n) none [.word "LIMIT", .number n]
  | cut {d n m} : d ≠ .sqlserver → IsPage d (some n) (some m)
      [.word "LIMIT", .number n, .word "OFFSET", .number m]
  | skipped {m} : IsPage .postgres none (some m) [.word "OFFSET", .number m]
  | skippedRows {m} : IsPage .sqlserver none (some m)
      [.word "OFFSET", .number m, .word "ROWS"]
  | fetchedRows {n offset} : IsPage .sqlserver (some n) offset
      [.word "OFFSET", .number (offset.getD 0), .word "ROWS", .word "FETCH NEXT", .number n,
        .word "ROWS ONLY"]

/-- The statements of a dialect, the bounds of the page being given that are set. -/
inductive IsSelect (d : Dialect) (limit offset : Option Nat) : List SqlLexeme → Prop where
  | clauses {select source filter grouping having order page} :
      IsSelectClause select → IsFrom source → IsOptional IsWhere filter →
      IsOptional IsGroupBy grouping → IsOptional IsHaving having →
      IsOptional (IsOrderBy d) order → IsPage d limit offset page →
      (d = .sqlserver → page ≠ [] → order ≠ []) →
      IsSelect d limit offset
        [select, source, filter, grouping, having, order, page].flatten

/-! ## Queries whose statements are derived -/

/-- Neither of the two names of a column is empty. -/
def ColumnRef.IsGiven (r : ColumnRef) : Prop := r.table ≠ "" ∧ r.column ≠ ""

instance (r : ColumnRef) : Decidable r.IsGiven := inferInstanceAs (Decidable (_ ∧ _))

/-- The names that stand outside of conditions are not empty.  A schema is left out if it is. -/
structure Query.NamesGiven (q : Query) : Prop where
  tables : ∀ t ∈ q.tables, t.name ≠ "" ∧ t.aliasName ≠ ""
  columns : ∀ c ∈ q.columns, c.source.IsGiven
  joins : ∀ j ∈ q.joins, j.left.IsGiven ∧ j.right.IsGiven
  grouping : ∀ r ∈ q.grouping, r.IsGiven
  having : ∀ h ∈ q.having, h.subject.IsGiven
  sorting : ∀ k ∈ q.sorting, k.source.IsGiven

theorem IsSeparated.intercalate {sep : SqlLexeme} {IsPart : List SqlLexeme → Prop}
    {lss : List (List SqlLexeme)} (h : ∀ ls ∈ lss, IsPart ls) (hne : lss ≠ []) :
    IsSeparated sep IsPart ([sep].intercalate lss) := by
  induction lss with
  | nil => exact absurd rfl hne
  | cons ls lss ih =>
    obtain ⟨hls, h⟩ := List.forall_mem_cons.mp h
    cases lss with
    | nil => simpa using one hls
    | cons ms lss =>
      rw [List.intercalate_cons_cons, List.append_assoc]
      exact more hls (ih h (List.cons_ne_nil ms lss))

theorem IsRepeated.flatMap {α : Type} {IsPart : List SqlLexeme → Prop} {f : α → List SqlLexeme}
    {l : List α} (h : ∀ a ∈ l, IsPart (f a)) : IsRepeated IsPart (l.flatMap f) := by
  induction l with
  | nil => exact nil
  | cons a l ih =>
    obtain ⟨ha, h⟩ := List.forall_mem_cons.mp h
    exact cons ha (ih h)

theorem isRef_lexemes {r : ColumnRef} (h : r.IsGiven) : IsRef r.lexemes :=
  .qualified h.1 h.2

theorem Aggregate.functionName_mem (a : Aggregate) : a.functionName ∈ aggregateFunctions := by
  cases a <;> decide

theorem isAggregate_lexemes (a : Aggregate) (distinct : Bool) {r : ColumnRef} (h : r.IsGiven) :
    IsAggregate (a.lexemes distinct r) := by
  rw [Aggregate.lexemes]
  split
  next => exact .distinct a.functionName_mem (isRef_lexemes h)
  next => exact .all a.functionName_mem (isRef_lexemes h)

theorem isTable_lexemes {t : Table} (h : t.name ≠ "" ∧ t.aliasName ≠ "") : IsTable t.lexemes := by
  rw [Table.lexemes]
  split
  next => exact .plain h.1 h.2
  next hschema => exact .inSchema hschema h.1 h.2

theorem IsItem.withAlias {ls : List SqlLexeme} (h : IsExpression ls) (aliasName : Option String) :
    IsItem (ls ++ aliasLexemes aliasName) := by
  cases aliasName with
  | none => simpa [aliasLexemes] using plain h
  | some a =>
    by_cases ha : a = ""
    · simpa [aliasLexemes, ha] using plain h
    · simpa [aliasLexemes, ha] using named h ha

namespace Query

/-- A column is an item unless it is made distinct by itself. -/
theorem isItem_selectionLexemes {distinctRows : Bool} {c : Selection} (hnames : c.source.IsGiven)
    (hdistinct : distinctRows ∨ (c.distinct → c.aggregate.isSome)) :
    IsItem (selectionLexemes distinctRows c) := by
  refine .withAlias ?_ c.aliasName
  cases haggregate : c.aggregate with
  | none =>
    have hplain : (c.distinct && !distinctRows) = false := by
      cases distinctRows <;> simp_all
    simpa [hplain] using IsExpression.column (isRef_lexemes hnames)
  | some a => exact .aggregate (isAggregate_lexemes a _ hnames)

/-- A column that is made distinct by itself is one that is not, with DISTINCT in front of it. -/
theorem selectionLexemes_of_distinct {c : Selection} (hdistinct : c.distinct)
    (haggregate : c.aggregate = none) :
    selectionLexemes false c = .word "DISTINCT" :: selectionLexemes true c := by
  simp [selectionLexemes, hdistinct, haggregate]

variable {q : Query}

theorem isSelectClause_selectLexemes (hnames : q.NamesGiven)
    (hdistinct : q.distinct.truth ∨ ∀ c ∈ q.columns.tail, c.distinct → c.aggregate.isSome) :
    IsSelectClause q.selectLexemes := by
  cases hcolumns : q.columns with
  | nil =>
    rw [selectLexemes, hcolumns]
    cases q.distinct.truth with
    | false => exact .rows .all
    | true => exact .distinctRows .all
  | cons c cs =>
    have hnamed : ∀ c' ∈ c :: cs, c'.source.IsGiven := hcolumns ▸ hnames.columns
    rw [selectLexemes, hcolumns]
    cases hrows : q.distinct.truth with
    | true =>
      refine .distinctRows (.items (.intercalate (List.forall_mem_map.mpr fun c' hc' ↦ ?_)
        (List.cons_ne_nil _ _)))
      exact isItem_selectionLexemes (hnamed c' hc') (.inl rfl)
    | false =>
      rw [hrows, hcolumns] at hdistinct
      have htail : ∀ c' ∈ cs, c'.distinct → c'.aggregate.isSome := by simpa using hdistinct
      by_cases hc : c.distinct → c.aggregate.isSome
      · refine .rows (.items (.intercalate (List.forall_mem_map.mpr fun c' hc' ↦ ?_)
          (List.cons_ne_nil _ _)))
        refine isItem_selectionLexemes (hnamed c' hc') (.inr ?_)
        exact List.forall_mem_cons.mpr ⟨hc, htail⟩ c' hc'
      · -- DISTINCT in front of the first column is DISTINCT in front of all columns.
        obtain ⟨hc, haggregate⟩ : c.distinct ∧ c.aggregate = none := by simpa using hc
        have hfirst : [.comma].intercalate ((c :: cs).map (selectionLexemes false)) =
            .word "DISTINCT" :: [.comma].intercalate
              (selectionLexemes true c :: cs.map (selectionLexemes false)) := by
          rw [List.map_cons, selectionLexemes_of_distinct hc haggregate, intercalate_singleton_cons,
            intercalate_singleton_cons, List.cons_append]
        have hitems : ∀ ls ∈ selectionLexemes true c :: cs.map (selectionLexemes false),
            IsItem ls := by
          obtain ⟨hcnamed, hnamed⟩ := List.forall_mem_cons.mp hnamed
          refine List.forall_mem_cons.mpr ⟨isItem_selectionLexemes hcnamed (.inl rfl), ?_⟩
          exact List.forall_mem_map.mpr fun c' hc' ↦
            isItem_selectionLexemes (hnamed c' hc') (.inr (htail c' hc'))
        have hclause := IsSelectClause.distinctRows
          (.items (IsSeparated.intercalate hitems (List.cons_ne_nil _ _)))
        rwa [← hfirst] at hclause

theorem isFrom_fromLexemes (hnames : q.NamesGiven) {p : FromPlan} (hp : q.fromPlan? = some p) :
    IsFrom (fromLexemes p) := by
  have hspans := spans_of_fromPlan? hp
  have htables : ∀ t ∈ p.tables, t ∈ q.tables := fun t ht ↦
    mem_tables_of_table? (hspans.mem_tables_iff.mp ht).2
  refine .joined (isTable_lexemes (hnames.tables _ (htables _ List.mem_cons_self)))
    (.flatMap fun s hs ↦ ?_)
  obtain ⟨before, after, heq⟩ := List.append_of_mem hs
  have hjoin := hnames.joins s.join (hspans.steps before s after heq).1
  have htable := isTable_lexemes (hnames.tables _ (htables s.table
    (List.mem_cons_of_mem _ (List.mem_map_of_mem hs))))
  rw [FromStep.lexemes]
  split
  next hcross => simpa [hcross, JoinKind.keyword] using IsJoin.cross htable
  next hcross => exact .on hcross htable (isRef_lexemes hjoin.1) (isRef_lexemes hjoin.2)

theorem isWhere_whereLexemes (q : Query) : IsOptional IsWhere q.whereLexemes := by
  rw [whereLexemes]
  cases q.filter with
  | none => exact .inl rfl
  | some g =>
    rw [Option.map_some, Option.getD_some]
    cases g.renders_lexemes with
    | nothing hls _ => exact .inl (by rw [hls])
    | condition p hread _ =>
      obtain ⟨l, ls, hls⟩ := List.exists_cons_of_ne_nil hread.ne_nil
      rw [hls] at hread ⊢
      exact .inr (.filtered hread)

theorem isGroupBy_groupByLexemes (hnames : q.NamesGiven) :
    IsOptional IsGroupBy q.groupByLexemes := by
  rw [groupByLexemes]
  split
  next => exact .inl rfl
  next h =>
    refine .inr (.grouped (.intercalate (List.forall_mem_map.mpr fun r hr ↦ ?_) (by simpa using h)))
    exact isRef_lexemes (hnames.grouping r hr)

theorem isHaving_havingLexemes (hnames : q.NamesGiven) :
    IsOptional IsHaving q.havingLexemes := by
  rw [havingLexemes]
  split
  next => exact .inl rfl
  next h =>
    refine .inr (.filtered (.intercalate (List.forall_mem_map.mpr fun f hf ↦ ?_)
      (by simpa using h)))
    exact .compared (isAggregate_lexemes f.aggregate false (hnames.having f hf))

theorem isOrderBy_orderByLexemes (d : Dialect) (hnames : q.NamesGiven) :
    IsOptional (IsOrderBy d) (orderByLexemes d q) := by
  rw [orderByLexemes]
  split
  next h =>
    refine .inr (.sorted (.intercalate (List.forall_mem_map.mpr fun k hk ↦ ?_) (by simpa using h)))
    exact .directed k.direction (isRef_lexemes (hnames.sorting k hk))
  next =>
    split
    next h =>
      cases d with
      | sqlserver => exact .inr .arbitrary
      | postgres | mysql | sqlite => simp [Dialect.pagingNeedsOrder] at h
    next => exact .inl rfl

/-- Where a page needs an order, there is one. -/
theorem orderByLexemes_ne_nil (h : q.isPaged) : orderByLexemes .sqlserver q ≠ [] := by
  rw [orderByLexemes]
  split
  next => exact List.cons_ne_nil _ _
  next => simp [h, Dialect.pagingNeedsOrder]

end Query

theorem isPage_pageLexemes {d : Dialect} {limit offset : Option Nat}
    (h : d = .mysql ∨ d = .sqlite → offset.isSome → limit.isSome) :
    IsPage d limit offset (d.pageLexemes limit offset) := by
  cases limit with
  | none =>
    cases offset with
    | none => cases d <;> exact .whole
    | some m =>
      cases d with
      | postgres => exact .skipped
      | sqlserver => exact .skippedRows
      | mysql | sqlite => simp at h
  | some n =>
    cases d with
    | sqlserver => exact .fetchedRows
    | postgres | mysql | sqlite =>
      cases offset with
      | none => exact .limited (by decide)
      | some m => exact .cut (by decide)

/-! ## Where DISTINCT stands -/

/-- Whether a lexeme may stand behind another one as far as DISTINCT is concerned. -/
def SqlLexeme.MayFollow (l m : SqlLexeme) : Prop := l = .comma → m ≠ .word "DISTINCT"

/-- A row that has no DISTINCT behind a comma, and can stand behind one. -/
structure IsSettled (ls : List SqlLexeme) : Prop where
  chain : ls.IsChain SqlLexeme.MayFollow
  head : ls.head? ≠ some (.word "DISTINCT")

namespace IsSettled

variable {ls ms : List SqlLexeme}

theorem append (h : IsSettled ls) (h' : IsSettled ms) : IsSettled (ls ++ ms) where
  chain := List.isChain_append.mpr ⟨h.chain, h'.chain, fun l _ m hm _ heq ↦ h'.head (heq ▸ hm)⟩
  head := by
    cases ls with
    | nil => exact h'.head
    | cons l ls => exact h.head

theorem cons {l : SqlLexeme} (hl : l ≠ .word "DISTINCT") (h : IsSettled ms) :
    IsSettled (l :: ms) where
  chain := List.isChain_cons.mpr ⟨fun m hm _ heq ↦ h.head (heq ▸ hm), h.chain⟩
  head := by simpa using hl

/-- DISTINCT may stand behind anything but a comma. -/
theorem distinct {l : SqlLexeme} (hl : l ≠ .word "DISTINCT") (hcomma : l ≠ .comma)
    (h : IsSettled ms) : IsSettled (l :: .word "DISTINCT" :: ms) where
  chain := List.isChain_cons_cons.mpr ⟨fun heq ↦ absurd heq hcomma,
    List.isChain_cons.mpr ⟨fun _ _ heq ↦ (nomatch heq), h.chain⟩⟩
  head := by simpa using hl

theorem of_not_mem (h : .word "DISTINCT" ∉ ls) : IsSettled ls := by
  induction ls with
  | nil => exact ⟨.nil, by simp⟩
  | cons l ls ih =>
    rw [List.mem_cons, not_or] at h
    exact (ih h.2).cons fun heq ↦ h.1 heq.symm

theorem of_optional {IsPart : List SqlLexeme → Prop} (h : ∀ ls, IsPart ls → IsSettled ls)
    (hls : IsOptional IsPart ls) : IsSettled ls := by
  obtain rfl | hls := hls
  · exact of_not_mem (List.not_mem_nil)
  · exact h ls hls

theorem of_separated {sep : SqlLexeme} {IsPart : List SqlLexeme → Prop}
    (hsep : sep ≠ .word "DISTINCT") (h : ∀ ls, IsPart ls → IsSettled ls)
    (hls : IsSeparated sep IsPart ls) : IsSettled ls := by
  induction hls with
  | one hls => exact h _ hls
  | more hls _ ih => exact (h _ hls).append (ih.cons hsep)

theorem of_repeated {IsPart : List SqlLexeme → Prop} (h : ∀ ls, IsPart ls → IsSettled ls)
    (hls : IsRepeated IsPart ls) : IsSettled ls := by
  induction hls with
  | nil => exact of_not_mem (List.not_mem_nil)
  | cons hls _ ih => exact (h _ hls).append ih

end IsSettled

variable {ls : List SqlLexeme}

theorem IsRef.not_mem (h : IsRef ls) : .word "DISTINCT" ∉ ls := by
  cases h
  simp

theorem IsTable.not_mem (h : IsTable ls) : .word "DISTINCT" ∉ ls := by
  cases h <;> simp

namespace IsSettled

/-- Inside of an aggregate, DISTINCT stands behind a parenthesis. -/
theorem of_aggregate (h : IsAggregate ls) : IsSettled ls := by
  have hclose : IsSettled [.closeParen] := .of_not_mem (by simp)
  cases h with
  | all _ href =>
    exact .cons (by simp) (.cons (by simp) ((of_not_mem href.not_mem).append hclose))
  | distinct _ href =>
    exact .cons (by simp) (.distinct (by simp) (by simp) ((of_not_mem href.not_mem).append hclose))

theorem of_item (h : IsItem ls) : IsSettled ls := by
  have hexpression {ls : List SqlLexeme} (h : IsExpression ls) : IsSettled ls := by
    cases h with
    | column href => exact of_not_mem href.not_mem
    | aggregate haggregate => exact of_aggregate haggregate
  cases h with
  | plain h => exact hexpression h
  | named h _ => exact (hexpression h).append (of_not_mem (by simp))

/-- In front of all columns, DISTINCT stands behind SELECT. -/
theorem of_selectClause (h : IsSelectClause ls) : IsSettled ls := by
  have hselection {ls : List SqlLexeme} (h : IsSelection ls) : IsSettled ls := by
    cases h with
    | all => exact of_not_mem (by simp)
    | items hitems => exact of_separated (by simp) (fun _ ↦ of_item) hitems
  cases h with
  | rows h => exact .cons (by simp) (hselection h)
  | distinctRows h => exact .distinct (by simp) (by simp) (hselection h)

theorem of_from (h : IsFrom ls) : IsSettled ls := by
  have hjoin (ls : List SqlLexeme) (h : IsJoin ls) : IsSettled ls := by
    cases h with
    | @on kind _ _ _ _ _ htable hleft hright =>
      have hkeyword : .word kind.keyword ≠ SqlLexeme.word "DISTINCT" := by
        cases kind <;> simp [JoinKind.keyword]
      exact .cons hkeyword ((of_not_mem htable.not_mem).append (.cons (by simp)
        ((of_not_mem hleft.not_mem).append (.cons (by simp) (of_not_mem hright.not_mem)))))
    | cross htable => exact .cons (by simp) (of_not_mem htable.not_mem)
  cases h with
  | joined htable hjoins =>
    exact .cons (by simp) ((of_not_mem htable.not_mem).append (of_repeated hjoin hjoins))

theorem of_where (h : IsWhere ls) : IsSettled ls := by
  cases h with
  | @filtered ls p _ =>
    refine .cons (by simp) (of_not_mem fun hmem ↦ ?_)
    obtain ⟨l, -, hl⟩ := List.mem_map.mp hmem
    cases l with
    | connective k => cases k <;> simp [FilterLexeme.sql, Connective.word] at hl
    | condition | openParen | closeParen => cases hl

theorem of_groupBy (h : IsGroupBy ls) : IsSettled ls := by
  cases h with
  | grouped h => exact .cons (by simp) (of_separated (by simp) (fun _ h ↦ of_not_mem h.not_mem) h)

theorem of_having (h : IsHaving ls) : IsSettled ls := by
  cases h with
  | filtered h =>
    refine .cons (by simp) (of_separated (by simp) (fun _ h ↦ ?_) h)
    cases h with
    | compared h => exact (of_aggregate h).append (of_not_mem (by simp))

theorem of_orderBy {d : Dialect} (h : IsOrderBy d ls) : IsSettled ls := by
  cases h with
  | sorted h =>
    refine .cons (by simp) (of_separated (by simp) (fun _ h ↦ ?_) h)
    cases h with
    | directed direction href =>
      refine (of_not_mem href.not_mem).append (of_not_mem ?_)
      cases direction <;> simp [Direction.word]
  | arbitrary => exact of_not_mem (by simp)

theorem of_page {d : Dialect} {limit offset : Option Nat} (h : IsPage d limit offset ls) :
    IsSettled ls := by
  cases h <;> exact of_not_mem (by simp)

theorem of_select {d : Dialect} {limit offset : Option Nat} (h : IsSelect d limit offset ls) :
    IsSettled ls := by
  cases h with
  | clauses hselect hfrom hwhere hgroupBy hhaving horderBy hpage _ =>
    simp only [List.flatten_cons, List.flatten_nil]
    exact (of_selectClause hselect).append <| (of_from hfrom).append <|
      (of_optional (fun _ ↦ of_where) hwhere).append <|
      (of_optional (fun _ ↦ of_groupBy) hgroupBy).append <|
      (of_optional (fun _ ↦ of_having) hhaving).append <|
      (of_optional (fun _ ↦ of_orderBy) horderBy).append <|
      (of_page hpage).append (of_not_mem List.not_mem_nil)

end IsSettled

/-! ## The main statement -/

theorem IsPage.isSome_limit {d : Dialect} {limit offset : Option Nat}
    (h : IsPage d limit offset ls) (hd : d = .mysql ∨ d = .sqlite) (hoffset : offset.isSome) :
    limit.isSome := by
  cases h with
  | whole => exact hoffset
  | limited | cut => rfl
  | skipped | skippedRows | fetchedRows => simp at hd

/-- A statement has a page with the bounds that are set. -/
theorem IsSelect.exists_page {d : Dialect} {limit offset : Option Nat}
    (h : IsSelect d limit offset ls) : ∃ page, IsPage d limit offset page := by
  cases h with
  | clauses _ _ _ _ _ _ hpage _ => exact ⟨_, hpage⟩

namespace Query

variable {q : Query}

/-- A column after the first that is made distinct by itself has DISTINCT behind a comma. -/
theorem selectLexemes_of_distinct {c : Selection} (hrows : q.distinct.truth = false)
    (hc : c ∈ q.columns.tail) (hdistinct : c.distinct) (haggregate : c.aggregate = none) :
    ∃ before after, q.selectLexemes = before ++ .comma :: .word "DISTINCT" :: after := by
  cases hcolumns : q.columns with
  | nil => simp [hcolumns] at hc
  | cons first columns =>
    rw [hcolumns, List.tail_cons] at hc
    obtain ⟨cs, cs', rfl⟩ := List.append_of_mem hc
    have hlexemes := selectionLexemes_of_distinct hdistinct haggregate
    refine ⟨.word "SELECT" :: selectionLexemes false first ++
      (cs.map (selectionLexemes false)).flatMap (.comma :: ·), selectionLexemes true c ++
      (cs'.map (selectionLexemes false)).flatMap (.comma :: ·), ?_⟩
    simp [selectLexemes, hrows, hcolumns, intercalate_singleton_cons, hlexemes]

/-- What the statement for a query is derived from. -/
theorem isSelect_lexemes_iff (d : Dialect) (hnames : q.NamesGiven) {p : FromPlan}
    (hp : q.fromPlan? = some p) :
    IsSelect d (q.limit.map (·.val)) q.offset (q.lexemes d p) ↔
      (q.distinct.truth ∨ ∀ c ∈ q.columns.tail, c.distinct → c.aggregate.isSome) ∧
      (d = .mysql ∨ d = .sqlite → q.offset.isSome → q.limit.isSome) := by
  constructor
  · intro h
    refine ⟨?_, ?_⟩
    · by_contra hlate
      obtain ⟨hrows, c, hc, hdistinct, haggregate⟩ : q.distinct.truth = false ∧
          ∃ c ∈ q.columns.tail, c.distinct ∧ c.aggregate = none := by simpa using hlate
      obtain ⟨before, after, hselect⟩ := selectLexemes_of_distinct hrows hc hdistinct haggregate
      have hchain := (IsSettled.of_select h).chain
      rw [lexemes, clauseLexemes, List.flatten_cons, hselect] at hchain
      exact (List.isChain_append_cons_cons.mp hchain.left_of_append).2.1 rfl rfl
    · intro hd hoffset
      obtain ⟨page, hpage⟩ := h.exists_page
      simpa using hpage.isSome_limit hd hoffset
  · rintro ⟨hdistinct, hbounds⟩
    refine .clauses (isSelectClause_selectLexemes hnames hdistinct)
      (isFrom_fromLexemes hnames hp) (isWhere_whereLexemes q) (isGroupBy_groupByLexemes hnames)
      (isHaving_havingLexemes hnames) (isOrderBy_orderByLexemes d hnames)
      (isPage_pageLexemes fun hd hoffset ↦ ?_) ?_
    · simpa using hbounds hd hoffset
    · rintro rfl hpage
      refine orderByLexemes_ne_nil ?_
      cases hlimit : q.limit with
      | some n => simp [isPaged, hlimit]
      | none =>
        cases hoffset : q.offset with
        | some m => simp [isPaged, hoffset]
        | none => simp [hlimit, hoffset, Dialect.pageLexemes] at hpage

end Query

/-- What keeps the statement for a valid query from being grammatical.

The statement is the text of its lexemes, and these are derived just when two things hold.  Where
rows are not distinct, no column after the first is made distinct by itself.  And for MySQL and
SQLite, an offset does not stand without a limit. -/
theorem statement_grammatical_iff (d : Dialect) (q : Query) (limit : DepthLimit)
    (hvalid : q.isValid limit) (hnames : q.NamesGiven) :
    ∃ p, q.fromPlan? = some p ∧
      q.sql d = spell d (Query.conditionText d q) (q.lexemes d p) ∧
      (IsSelect d (q.limit.map (·.val)) q.offset (q.lexemes d p) ↔
        (q.distinct.truth ∨ ∀ c ∈ q.columns.tail, c.distinct → c.aggregate.isSome) ∧
        (d = .mysql ∨ d = .sqlite → q.offset.isSome → q.limit.isSome)) := by
  obtain ⟨htables, -⟩ := Query.isValid_iff.mp hvalid
  obtain ⟨p, hp, -⟩ := q.exists_fromPlan (Query.tableProblems_eq_nil_iff.mp htables)
  refine ⟨p, hp, ?_, Query.isSelect_lexemes_iff d hnames hp⟩
  rw [Query.sql, hp]
  exact Query.statement_eq_spell d q p

/-- A page of a query with something in every clause. -/
def pagedReport : Query := { orderReport with limit := some ⟨10, by decide⟩, offset := some 20 }

theorem statement_of_pagedReport :
    pagedReport.isValid (.depth 1) ∧ pagedReport.NamesGiven ∧ ∃ p,
      pagedReport.fromPlan? = some p ∧
      pagedReport.sql .sqlserver =
        spell .sqlserver (Query.conditionText .sqlserver pagedReport)
          (pagedReport.lexemes .sqlserver p) ∧
      IsSelect .sqlserver (some 10) (some 20) (pagedReport.lexemes .sqlserver p) := by
  have hvalid : pagedReport.isValid (.depth 1) := by decide +kernel
  have hnames : pagedReport.NamesGiven := by constructor <;> decide
  obtain ⟨p, hp, hsql, hiff⟩ := statement_grammatical_iff .sqlserver pagedReport _ hvalid hnames
  exact ⟨hvalid, hnames, p, hp, hsql, hiff.mpr ⟨.inr (by decide), by decide⟩⟩

/-- All rows but the first five. -/
def laterUsers : Query where
  tables := [{ aliasName := "users", name := "users" }]
  offset := some 5

/-- The statement for this valid query has an offset alone, for which there is no page. -/
theorem no_page_for_laterUsers :
    laterUsers.isValid (.depth 3) ∧ laterUsers.NamesGiven ∧
      laterUsers.sql .mysql = "SELECT * FROM users AS users OFFSET 5" ∧
      ∀ ls, ¬ IsSelect .mysql (laterUsers.limit.map (·.val)) laterUsers.offset ls := by
  refine ⟨by decide +kernel, by constructor <;> decide, by decide +kernel, fun ls h ↦ ?_⟩
  obtain ⟨page, hpage⟩ := h.exists_page
  cases hpage

/-- A column that is made distinct by itself, after another one. -/
def statusQuery : Query where
  tables := [{ aliasName := "o", name := "orders" }]
  columns := [{ id := "1", source := ⟨"o", "id"⟩ },
    { id := "2", source := ⟨"o", "status"⟩, distinct := true }]

/-- The statement for this valid query has DISTINCT behind a comma. -/
theorem late_distinct_of_statusQuery :
    statusQuery.isValid (.depth 3) ∧ statusQuery.NamesGiven ∧
      statusQuery.sql .postgres = "SELECT o.id, DISTINCT o.status FROM orders AS o" ∧
      ∀ p, statusQuery.fromPlan? = some p →
        ¬ IsSelect .postgres none none (statusQuery.lexemes .postgres p) := by
  have hnames : statusQuery.NamesGiven := by constructor <;> decide
  refine ⟨by decide +kernel, hnames, by decide +kernel, fun p hp h ↦ ?_⟩
  exact absurd ((Query.isSelect_lexemes_iff .postgres hnames hp).mp h).1 (by decide)

end SelectBuilder
