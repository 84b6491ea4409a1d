import SelectBuilder.Proofs.Filter.Meaning

/-!
# Statements as rows of lexemes

The lexemes of a statement: its words, names, literals, conditions and marks.  `Query.lexemes` lists
those of the statement for a query, and `spell` writes a row of lexemes with one blank between any
two of them, except at dots, before commas, and inside of parentheses.  The statement is what
`spell` makes of the row, so that what is said of the row of lexemes is said of the text.

Texts and rows are compared part by part.  `Spells` says that a row is written as a text wherever it
stands, with a blank before it if one is due there; it goes through every way in which parts are put
together.
-/

namespace SelectBuilder

inductive SqlLexeme where
  | word (w : String)
  /-- The name of a function, in front of its argument. -/
  | function (w : String)
  | name (s : String)
  | comparison (c : Comparison)
  | literal (l : Literal)
  | condition (c : Condition)
  | number (n : Nat)
  | star
  | dot
  | comma
  | openParen
  | closeParen
deriving Repr

namespace SqlLexeme

/-- Whether no blank comes before a lexeme. -/
def bindsLeft : SqlLexeme → Bool
  | .dot | .comma | .closeParen => true
  | _ => false

/-- Whether no blank comes after a lexeme. -/
def bindsRight : SqlLexeme → Bool
  | .function _ | .dot | .openParen => true
  | _ => false

section Spelling

variable (d : Dialect) (conditionText : Condition → String)

/-- The text of a lexeme, given that of a condition. -/
def text : SqlLexeme → String
  | .word w | .function w => w
  | .name s => d.quoteName s
  | .comparison c => c.word
  | .literal l => l.text d
  | .condition c => conditionText c
  | .number n => toString n
  | .star => "*"
  | .dot => "."
  | .comma => ","
  | .openParen => "("
  | .closeParen => ")"

/-- The text of a row behind something that takes a blank after it, or does not. -/
def spellAfter : Bool → List SqlLexeme → String
  | _, [] => ""
  | blank, l :: ls =>
    (if blank && !l.bindsLeft then " " else "") ++ l.text d conditionText ++
      spellAfter (!l.bindsRight) ls

/-- The text of a row of lexemes. -/
def spell (ls : List SqlLexeme) : String := spellAfter d conditionText false ls

/-- Wherever a row stands, it is written as a text, with a blank before it if one is due, and takes
a blank after it. -/
def Spells (ls : List SqlLexeme) (s : String) : Prop :=
  ∀ blank rest, spellAfter d conditionText blank (ls ++ rest) =
    (if blank then " " else "") ++ s ++ spellAfter d conditionText true rest

/-- A clause that is left out has no text. -/
def SpellsClause (ls : List SqlLexeme) (s : String) : Prop :=
  ls = [] ∧ s = "" ∨ Spells d conditionText ls s ∧ s ≠ ""

end Spelling

variable {d : Dialect} {conditionText : Condition → String} {ls ms : List SqlLexeme} {s t : String}

namespace Spells

theorem spell_eq (h : Spells d conditionText ls s) : spell d conditionText ls = s := by
  simpa [spell, spellAfter] using h false []

theorem single {l : SqlLexeme} (hleft : l.bindsLeft = false) (hright : l.bindsRight = false) :
    Spells d conditionText [l] (l.text d conditionText) := by
  intro blank rest
  simp [spellAfter, hleft, hright]

theorem single_word (w : String) : Spells d conditionText [.word w] w := single rfl rfl

theorem single_comparison (c : Comparison) : Spells d conditionText [.comparison c] c.word :=
  single rfl rfl

theorem single_literal (l : Literal) : Spells d conditionText [.literal l] (l.text d) :=
  single rfl rfl

theorem append (h : Spells d conditionText ls s) (h' : Spells d conditionText ms t) :
    Spells d conditionText (ls ++ ms) (s ++ " " ++ t) := by
  intro blank rest
  rw [List.append_assoc, h, h']
  simp [String.append_assoc]

/-- A word before something. -/
theorem word (w : String) (h : Spells d conditionText ls s) :
    Spells d conditionText (.word w :: ls) (w ++ " " ++ s) :=
  (single_word w).append h

/-- A word behind something. -/
theorem wordAfter (w : String) (h : Spells d conditionText ls s) :
    Spells d conditionText (ls ++ [.word w]) (s ++ (" " ++ w)) := by
  simpa [String.append_assoc] using h.append (single_word w)

/-- A word between two parts. -/
theorem join (w : String) (h : Spells d conditionText ls s) (h' : Spells d conditionText ms t) :
    Spells d conditionText (ls ++ .word w :: ms) (s ++ (" " ++ w ++ " ") ++ t) := by
  simpa [String.append_assoc] using h.append (h'.word w)

theorem comma (h : Spells d conditionText ls s) (h' : Spells d conditionText ms t) :
    Spells d conditionText (ls ++ .comma :: ms) (s ++ ", " ++ t) := by
  intro blank rest
  rw [List.append_assoc, h, List.cons_append, spellAfter, h']
  simp only [bindsLeft, bindsRight, text, String.append_assoc]
  rfl

theorem parens (h : Spells d conditionText ls s) :
    Spells d conditionText (.openParen :: ls ++ [.closeParen]) ("(" ++ s ++ ")") := by
  intro blank rest
  have hinside := h false (.closeParen :: rest)
  rw [spellAfter] at hinside
  simp [spellAfter, hinside, bindsLeft, bindsRight, text, String.append_assoc]

/-- A function with its argument. -/
theorem call (w : String) (h : Spells d conditionText ls s) :
    Spells d conditionText (.function w :: .openParen :: ls ++ [.closeParen])
      (w ++ "(" ++ s ++ ")") := by
  intro blank rest
  have hparens := h.parens false rest
  rw [List.cons_append, List.cons_append, spellAfter, bindsRight, Bool.not_true, hparens]
  simp [bindsLeft, text, String.append_assoc]

/-- Parts with something between one and the next. -/
theorem intercalate {α : Type} {sep : SqlLexeme} {mark : String} {f : α → List SqlLexeme}
    {g : α → String}
    (hsep : ∀ {ls ms s t}, Spells d conditionText ls s → Spells d conditionText ms t →
      Spells d conditionText (ls ++ sep :: ms) (s ++ mark ++ t))
    (h : ∀ a, Spells d conditionText (f a) (g a)) {l : List α} (hl : l ≠ []) :
    Spells d conditionText ([sep].intercalate (l.map f)) (mark.intercalate (l.map g)) := by
  induction l with
  | nil => exact absurd rfl hl
  | cons a l ih =>
    cases l with
    | nil => simpa using h a
    | cons b l =>
      rw [List.map_cons, List.map_cons, List.map_cons, List.map_cons, List.intercalate_cons_cons,
        String.intercalate_cons_cons, List.append_assoc]
      exact hsep (h a) (ih (List.cons_ne_nil b l))

/-- Parts one after the other. -/
theorem flatMap {α : Type} {f : α → List SqlLexeme} {g : α → String}
    (h : ∀ a, Spells d conditionText (f a) (g a)) (l : List α)
    (hfirst : Spells d conditionText ls s) :
    Spells d conditionText (ls ++ l.flatMap f) (Dialect.spaced (s :: l.map g)) := by
  induction l generalizing ls s with
  | nil => simpa [Dialect.spaced] using hfirst
  | cons a l ih =>
    rw [List.flatMap_cons, List.map_cons, Dialect.spaced, String.intercalate_cons_cons]
    exact hfirst.append (ih (h a))

end Spells

theorem spaced_ne_empty {ss : List String} (hs : s ≠ "") : Dialect.spaced (s :: ss) ≠ "" := by
  cases ss with
  | nil => simpa [Dialect.spaced] using hs
  | cons s' ss =>
    rw [Dialect.spaced, String.intercalate_cons_cons]
    simp [String.append_eq_empty_iff, hs]

/-- Clauses that have a text follow one another. -/
theorem SpellsClause.flatten {lss : List (List SqlLexeme)} {ss : List String}
    (h : List.Forall₂ (SpellsClause d conditionText) lss ss) :
    SpellsClause d conditionText lss.flatten (Dialect.spaced (ss.filter (· ≠ ""))) := by
  induction h with
  | nil => exact .inl ⟨rfl, rfl⟩
  | @cons ls s lss ss hclause _ ih =>
    obtain ⟨rfl, rfl⟩ | ⟨hls, hs⟩ := hclause
    · exact ih
    rw [List.flatten_cons, List.filter_cons_of_pos (by simpa using hs)]
    refine .inr ⟨?_, spaced_ne_empty hs⟩
    cases hss : ss.filter (· ≠ "") with
    | nil =>
      rw [hss] at ih
      obtain ⟨hnil, -⟩ | ⟨-, hne⟩ := ih
      · simpa [hnil, Dialect.spaced] using hls
      · exact absurd rfl hne
    | cons s' ss' =>
      have hs' : s' ≠ "" := by
        have hmem : s' ∈ ss.filter (· ≠ "") := hss ▸ List.mem_cons_self
        simpa using (List.mem_filter.mp hmem).2
      rw [hss] at ih
      obtain ⟨-, hempty⟩ | ⟨hlss, -⟩ := ih
      · exact absurd hempty (spaced_ne_empty hs')
      · rw [Dialect.spaced, String.intercalate_cons_cons]
        exact hls.append hlss

theorem SpellsClause.spell_eq (h : SpellsClause d conditionText ls s) :
    spell d conditionText ls = s := by
  obtain ⟨rfl, rfl⟩ | ⟨h, -⟩ := h
  · rfl
  · exact h.spell_eq

end SqlLexeme

open SqlLexeme

/-! ## The lexemes of a statement -/

def FilterLexeme.sql : FilterLexeme → SqlLexeme
  | .condition c => .condition c
  | .connective k => .word k.word
  | .openParen => .openParen
  | .closeParen => .closeParen

def ColumnRef.lexemes (r : ColumnRef) : List SqlLexeme := [.name r.table, .dot, .name r.column]

namespace Aggregate

/-- The function that an aggregate is written with. -/
def functionName : Aggregate → String
  | .countDistinct => "COUNT"
  | a => a.word

/-- An aggregate of a column, or of its distinct values. -/
def lexemes (a : Aggregate) (distinct : Bool) (r : ColumnRef) : List SqlLexeme :=
  .function a.functionName :: .openParen ::
    (if distinct || a = .countDistinct then .word "DISTINCT" :: r.lexemes else r.lexemes) ++
      [.closeParen]

end Aggregate

/-- A new name, where one is given. -/
def aliasLexemes : Option String → List SqlLexeme
  | none => []
  | some a => if a = "" then [] else [.word "AS", .name a]

def Table.lexemes (t : Table) : List SqlLexeme :=
  (if t.schema = "" then [.name t.name] else [.name t.schema, .dot, .name t.name]) ++
    [.word "AS", .name t.aliasName]

def FromStep.lexemes (s : FromStep) : List SqlLexeme :=
  .word s.kind.keyword :: s.table.lexemes ++
    if s.kind = .cross then []
    else .word "ON" :: s.join.left.lexemes ++ .comparison s.join.comparison :: s.join.right.lexemes

def SortKey.lexemes (k : SortKey) : List SqlLexeme := k.source.lexemes ++ [.word k.direction.word]

/-- The page, the bounds being given that are set. -/
def Dialect.pageLexemes (d : Dialect) (limit offset : Option Nat) : List SqlLexeme :=
  match d, limit, offset with
  | .sqlserver, none, none => []
  | .sqlserver, none, some m => [.word "OFFSET", .number m, .word "ROWS"]
  | .sqlserver, some n, _ =>
    [.word "OFFSET", .number (offset.getD 0), .word "ROWS", .word "FETCH NEXT", .number n,
      .word "ROWS ONLY"]
  | _, _, _ =>
    (limit.map fun n ↦ [.word "LIMIT", .number n]).getD [] ++
      (offset.map fun m ↦ [.word "OFFSET", .number m]).getD []

namespace Query

def selectionLexemes (distinctRows : Bool) (c : Selection) : List SqlLexeme :=
  let distinct := c.distinct && !distinctRows
  (match c.aggregate with
    | none => if distinct then .word "DISTINCT" :: c.source.lexemes else c.source.lexemes
    | some a => a.lexemes distinct c.source) ++ aliasLexemes c.aliasName

def selectLexemes (q : Query) : List SqlLexeme :=
  .word "SELECT" :: (if q.distinct.truth then [.word "DISTINCT"] else []) ++
    if q.columns.isEmpty then [.star]
    else [.comma].intercalate (q.columns.map (selectionLexemes q.distinct.truth))

def fromLexemes (plan : FromPlan) : List SqlLexeme :=
  .word "FROM" :: plan.base.lexemes ++ plan.steps.flatMap FromStep.lexemes

def whereLexemes (q : Query) : List SqlLexeme :=
  match (q.filter.map ConditionGroup.lexemes).getD [] with
  | [] => []
  | l :: ls => .word "WHERE" :: (l :: ls).map FilterLexeme.sql

def groupByLexemes (q : Query) : List SqlLexeme :=
  if q.grouping.isEmpty then []
  else .word "GROUP BY" :: [.comma].intercalate (q.grouping.map ColumnRef.lexemes)

def groupFilterLexemes (q : Query) (h : GroupFilter) : List SqlLexeme :=
  h.aggregate.lexemes false h.subject ++
    [.comparison h.comparison, .literal (Literal.ofValue (q.groupFilterFamily h) h.value)]

def havingLexemes (q : Query) : List SqlLexeme :=
  if q.having.isEmpty then []
  else .word "HAVING" :: [.word "AND"].intercalate (q.having.map q.groupFilterLexemes)

def orderByLexemes (d : Dialect) (q : Query) : List SqlLexeme :=
  if !q.sorting.isEmpty then
    .word "ORDER BY" :: [.comma].intercalate (q.sorting.map SortKey.lexemes)
  else if q.isPaged && d.pagingNeedsOrder then
    [.word "ORDER BY", .openParen, .word "SELECT", .word "NULL", .closeParen]
  else []

def clauseLexemes (d : Dialect) (q : Query) (plan : FromPlan) : List (List SqlLexeme) :=
  [q.selectLexemes, fromLexemes plan, q.whereLexemes, q.groupByLexemes, q.havingLexemes,
    orderByLexemes d q, d.pageLexemes (q.limit.map (·.val)) q.offset]

/-- The lexemes of the statement for a query. -/
def lexemes (d : Dialect) (q : Query) (plan : FromPlan) : List SqlLexeme :=
  (clauseLexemes d q plan).flatten

end Query

/-! ## Their text -/

section Text

variable {d : Dialect} {conditionText : Condition → String}

theorem spells_ref (r : ColumnRef) : Spells d conditionText r.lexemes (d.qualifiedColumn r) := by
  intro blank rest
  simp [ColumnRef.lexemes, Dialect.qualifiedColumn, spellAfter, bindsLeft, bindsRight, text,
    String.append_assoc]

/-- What is followed by a new name. -/
theorem spells_alias {ls : List SqlLexeme} {s : String} (h : Spells d conditionText ls s)
    (a : String) : Spells d conditionText (ls ++ [.word "AS", .name a])
      (s ++ " AS " ++ d.quoteName a) :=
  h.join "AS" (.single rfl rfl)

theorem Aggregate.text_eq (a : Aggregate) (distinct : Bool) (columnText : String) :
    (if distinct then a.applyDistinct columnText else a.apply columnText) =
      a.functionName ++ (if distinct || a = .countDistinct then "(DISTINCT " else "(") ++
        columnText ++ ")" := by
  cases distinct <;> cases a <;> rfl

theorem spells_aggregate (a : Aggregate) (distinct : Bool) (r : ColumnRef) :
    Spells d conditionText (a.lexemes distinct r)
      (if distinct then a.applyDistinct (d.qualifiedColumn r)
        else a.apply (d.qualifiedColumn r)) := by
  rw [a.text_eq, Aggregate.lexemes]
  split
  next =>
    have hcall : Spells d conditionText
        (.function a.functionName :: .openParen :: .word "DISTINCT" :: r.lexemes ++ [.closeParen])
        (a.functionName ++ "(" ++ ("DISTINCT " ++ d.qualifiedColumn r) ++ ")") :=
      ((spells_ref r).word "DISTINCT").call _
    have hopen : a.functionName ++ "(" ++ "DISTINCT " = a.functionName ++ "(DISTINCT " :=
      String.append_assoc
    rwa [← String.append_assoc, hopen] at hcall
  next => exact (spells_ref r).call _

theorem spells_table (t : Table) : Spells d conditionText t.lexemes (d.tableText t) := by
  refine spells_alias ?_ t.aliasName
  rw [Dialect.qualifiedTable]
  split
  next => exact .single rfl rfl
  next => exact spells_ref ⟨t.schema, t.name⟩

theorem spells_step (s : FromStep) : Spells d conditionText s.lexemes (Query.stepText d s) := by
  have hjoined : Spells d conditionText (.word s.kind.keyword :: s.table.lexemes)
      (s.kind.keyword ++ " " ++ d.tableText s.table) := (spells_table s.table).word _
  rw [FromStep.lexemes, Query.stepText]
  split
  next => simpa using hjoined
  next =>
    have hon := hjoined.join "ON" ((spells_ref s.join.left).append
      ((Spells.single_comparison s.join.comparison).append (spells_ref s.join.right)))
    simpa [← String.append_assoc] using hon

theorem spells_sortKey (k : SortKey) :
    Spells d conditionText k.lexemes (Query.sortKeyText d k) :=
  (spells_ref k.source).append (.single rfl rfl)

/-- A filter that can be read is written with blanks around its connectives. -/
theorem spells_filter {level : FilterLevel} {ls : List FilterLexeme} {p : SearchCondition}
    (h : Reads level ls p) : Spells d conditionText (ls.map FilterLexeme.sql)
      (String.join (ls.map (FilterLexeme.text conditionText))) := by
  have hconnective (k : Connective) {ls ms : List FilterLexeme}
      (hls : Spells d conditionText (ls.map FilterLexeme.sql)
        (String.join (ls.map (FilterLexeme.text conditionText))))
      (hms : Spells d conditionText (ms.map FilterLexeme.sql)
        (String.join (ms.map (FilterLexeme.text conditionText)))) :
      Spells d conditionText ((ls ++ .connective k :: ms).map FilterLexeme.sql)
        (String.join ((ls ++ .connective k :: ms).map (FilterLexeme.text conditionText))) := by
    simpa [FilterLexeme.text, FilterLexeme.sql, ← String.append_assoc] using hls.join k.word hms
  induction h with
  | condition c =>
    have hc : Spells d conditionText [.condition c] (conditionText c) := .single rfl rfl
    simpa [FilterLexeme.sql, FilterLexeme.text] using hc
  | parens _ ih =>
    simpa [FilterLexeme.sql, FilterLexeme.text, ← String.append_assoc] using ih.parens
  | term _ ih => exact ih
  | search _ ih => exact ih
  | and _ _ ihl ihr => exact hconnective .and ihl ihr
  | or _ _ ihl ihr => exact hconnective .or ihl ihr

/-- Where a page is taken from rows in order, a bound that is not set counts as zero. -/
theorem skipped_eq (offset : Option Nat) :
    (if (Query.writtenCount offset).truth then (Query.writtenCount offset).display else "0") =
      toString (offset.getD 0) := by
  cases offset with
  | none => rfl
  | some m =>
    cases m with
    | zero => rfl
    | succ m => rfl

theorem spells_page (limit offset : Option Nat) :
    SpellsClause d conditionText (d.pageLexemes limit offset)
      (d.pageText (Query.writtenCount limit) (Query.writtenCount offset)) := by
  have hcount (w : String) (n : Nat) : Spells d conditionText [.word w, .number n]
      (w ++ " " ++ toString n) := .word w (.single rfl rfl)
  cases d with
  | sqlserver =>
    have hskipped := (hcount "OFFSET" (offset.getD 0)).wordAfter "ROWS"
    simp only [Dialect.pageText, skipped_eq]
    cases limit with
    | none =>
      cases offset with
      | none => exact .inl ⟨rfl, rfl⟩
      | some m => exact .inr ⟨hskipped, spaced_ne_empty (by simp)⟩
    | some n =>
      have hfetched := (hcount "FETCH NEXT" n).wordAfter "ROWS ONLY"
      exact .inr ⟨hskipped.append hfetched, spaced_ne_empty (by simp)⟩
  | postgres | mysql | sqlite =>
    cases limit with
    | none =>
      cases offset with
      | none => exact .inl ⟨rfl, rfl⟩
      | some m => exact .inr ⟨hcount "OFFSET" m, spaced_ne_empty (by simp)⟩
    | some n =>
      refine .inr ⟨?_, spaced_ne_empty (by simp)⟩
      cases offset with
      | none => exact hcount "LIMIT" n
      | some m => exact (hcount "LIMIT" n).append (hcount "OFFSET" m)

theorem spells_selection (distinctRows : Bool) (c : Selection) :
    Spells d conditionText (Query.selectionLexemes distinctRows c)
      (Query.selectionText d distinctRows c) := by
  obtain ⟨id, source, aliasName, aggregate, distinct⟩ := c
  have hcolumn : Spells d conditionText
      (Query.selectionLexemes distinctRows ⟨id, source, none, aggregate, distinct⟩)
      (Query.selectionText d distinctRows ⟨id, source, none, aggregate, distinct⟩) := by
    cases aggregate with
    | none =>
      simp only [Query.selectionLexemes, Query.selectionText, aliasLexemes, List.append_nil]
      split
      next => exact (spells_ref source).word "DISTINCT"
      next => exact spells_ref source
    | some a =>
      simp only [Query.selectionLexemes, Query.selectionText, aliasLexemes, List.append_nil]
      exact spells_aggregate a _ source
  cases aliasName with
  | none => exact hcolumn
  | some a =>
    by_cases ha : a = ""
    · simpa [Query.selectionLexemes, Query.selectionText, aliasLexemes, ha] using hcolumn
    · simpa [Query.selectionLexemes, Query.selectionText, aliasLexemes, ha] using
        spells_alias hcolumn a

end Text

namespace Query

variable (d : Dialect) (q : Query)

theorem spells_select :
    SpellsClause d (conditionText d q) q.selectLexemes (selectClause d q) := by
  have hlist : Spells d (conditionText d q)
      (if q.columns.isEmpty then [.star]
        else [.comma].intercalate (q.columns.map (selectionLexemes q.distinct.truth)))
      (if q.columns.isEmpty then "*"
        else ", ".intercalate (q.columns.map (selectionText d q.distinct.truth))) := by
    split
    next => exact .single rfl rfl
    next h => exact .intercalate .comma (spells_selection _) (by simpa using h)
  rw [selectLexemes, selectClause]
  split
  next => exact .inr ⟨((Spells.single_word "SELECT").wordAfter "DISTINCT").append hlist, by simp⟩
  next => exact .inr ⟨hlist.word "SELECT", by simp⟩

theorem spells_from (plan : FromPlan) :
    SpellsClause d (conditionText d q) (fromLexemes plan) (fromClause d plan) :=
  .inr ⟨.flatMap spells_step plan.steps ((spells_table plan.base).word "FROM"),
    spaced_ne_empty (by simp)⟩

theorem spells_where : SpellsClause d (conditionText d q) q.whereLexemes (whereClause d q) := by
  cases hg : q.filter with
  | none => exact .inl ⟨by simp [whereLexemes, hg], by simp [whereClause, hg]⟩
  | some g =>
    rw [whereClause_eq d hg, whereLexemes, hg, Option.map_some, Option.getD_some]
    cases g.renders_lexemes with
    | nothing hls _ =>
      rw [hls, if_pos (g.lexemes_eq_nil_iff.mp hls)]
      exact .inl ⟨rfl, rfl⟩
    | condition p hread _ =>
      rw [if_neg fun h ↦ hread.ne_nil (g.lexemes_eq_nil_iff.mpr h)]
      have hfilter : Spells d (conditionText d q) (.word "WHERE" :: g.lexemes.map FilterLexeme.sql)
          ("WHERE " ++ String.join (g.lexemes.map (FilterLexeme.text (conditionText d q)))) :=
        (spells_filter hread).word "WHERE"
      obtain ⟨l, ls, hls⟩ := List.exists_cons_of_ne_nil hread.ne_nil
      rw [hls] at hfilter
      rw [ConditionGroup.text, hls]
      exact .inr ⟨hfilter, by simp⟩

theorem spells_groupBy :
    SpellsClause d (conditionText d q) q.groupByLexemes (groupByClause d q) := by
  rw [groupByLexemes, groupByClause]
  split
  next => exact .inl ⟨rfl, rfl⟩
  next h =>
    refine .inr ⟨?_, by simp⟩
    exact (Spells.intercalate .comma spells_ref (by simpa using h)).word "GROUP BY"

theorem spells_groupFilter (h : GroupFilter) :
    Spells d (conditionText d q) (q.groupFilterLexemes h) (groupFilterText d q h) := by
  have haggregate : Spells d (conditionText d q) (h.aggregate.lexemes false h.subject)
      (h.aggregate.apply (d.qualifiedColumn h.subject)) :=
    spells_aggregate h.aggregate false h.subject
  have hcompared := haggregate.append ((Spells.single_comparison h.comparison).append
    (.single_literal (Literal.ofValue (q.groupFilterFamily h) h.value)))
  simpa [groupFilterLexemes, groupFilterText, ← String.append_assoc] using hcompared

theorem spells_having : SpellsClause d (conditionText d q) q.havingLexemes (havingClause d q) := by
  rw [havingLexemes, havingClause]
  split
  next => exact .inl ⟨rfl, rfl⟩
  next h =>
    refine .inr ⟨?_, by simp⟩
    exact (Spells.intercalate (.join "AND") (spells_groupFilter d q) (by simpa using h)).word
      "HAVING"

theorem spells_orderBy :
    SpellsClause d (conditionText d q) (orderByLexemes d q) (orderByClause d q) := by
  rw [orderByLexemes, orderByClause]
  split
  next h =>
    refine .inr ⟨?_, by simp⟩
    exact (Spells.intercalate .comma spells_sortKey (by simpa using h)).word "ORDER BY"
  next =>
    split
    next =>
      exact .inr ⟨((Spells.single_word "NULL").word "SELECT").parens.word "ORDER BY", by simp⟩
    next => exact .inl ⟨rfl, rfl⟩

/-- The statement for a query is what its lexemes are written as. -/
theorem statement_eq_spell (plan : FromPlan) :
    statement d q plan = spell d (conditionText d q) (lexemes d q plan) := by
  refine (SpellsClause.spell_eq (.flatten ?_)).symm
  exact .cons (spells_select d q) <| .cons (spells_from d q plan) <| .cons (spells_where d q) <|
    .cons (spells_groupBy d q) <| .cons (spells_having d q) <| .cons (spells_orderBy d q) <|
    .cons (spells_page _ _) .nil

end Query

end SelectBuilder
