import Mathlib.Data.List.Forall2
import SelectBuilder.Proofs.Filter.Truth
import SelectBuilder.Sql.Filter

/-!
# Reading a filter

How SQL reads a row of conditions, connectives and parentheses: a search condition is made of terms
joined by OR, a term of primaries joined by AND, and a primary is a condition or a search condition
in parentheses.  `Reads` is this grammar, both connectives going to the left.

The grammar leaves no choice.  To see this, `readPrimary` and `readAfter` read in one pass from left
to right, with the parentheses that are open on a stack; whatever the grammar reads, the pass reads
in the same way.
-/

namespace SelectBuilder

/-- A filter as it is read: conditions combined two by two. -/
inductive SearchCondition where
  | condition (c : Condition)
  | combine (k : Connective) (left right : SearchCondition)

namespace SearchCondition

def value (truth : Condition → Truth) : SearchCondition → Truth
  | .condition c => truth c
  | .combine k l r => k.apply (l.value truth) (r.value truth)

/-- The conditions from left to right. -/
def conditions : SearchCondition → List Condition
  | .condition c => [c]
  | .combine _ l r => l.conditions ++ r.conditions

theorem conditions_ne_nil (p : SearchCondition) : p.conditions ≠ [] := by
  induction p with
  | condition c => simp [conditions]
  | combine k l r ihl _ => simp [conditions, ihl]

/-- The value of a row of members joined by one connective. -/
theorem value_foldl_combine (truth : Condition → Truth) (k : Connective)
    (ps : List SearchCondition) (p : SearchCondition) :
    (ps.foldl (.combine k) p).value truth =
      (ps.map (value truth)).foldl k.apply (p.value truth) := by
  induction ps generalizing p with
  | nil => rfl
  | cons q ps ih =>
    rw [List.foldl_cons, ih]
    rfl

end SearchCondition

/-! ## The grammar -/

/-- The parts of a search condition, by how tightly they hold together. -/
inductive FilterLevel where
  | primary
  | term
  | search

/-- The grammar of search conditions. -/
inductive Reads : FilterLevel → List FilterLexeme → SearchCondition → Prop where
  | condition (c : Condition) : Reads .primary [.condition c] (.condition c)
  | parens {ls p} : Reads .search ls p → Reads .primary (.openParen :: ls ++ [.closeParen]) p
  | term {ls p} : Reads .primary ls p → Reads .term ls p
  | and {ls p ms q} : Reads .term ls p → Reads .primary ms q →
      Reads .term (ls ++ .connective .and :: ms) (.combine .and p q)
  | search {ls p} : Reads .term ls p → Reads .search ls p
  | or {ls p ms q} : Reads .search ls p → Reads .term ms q →
      Reads .search (ls ++ .connective .or :: ms) (.combine .or p q)

/-- The condition that a lexeme is, if it is one. -/
def FilterLexeme.condition? : FilterLexeme → Option Condition
  | .condition c => some c
  | _ => none

namespace FilterLexeme

/-- The conditions in a row of lexemes. -/
def conditionsIn (ls : List FilterLexeme) : List Condition := ls.filterMap condition?

@[simp] theorem conditionsIn_nil : conditionsIn [] = [] := rfl

@[simp] theorem conditionsIn_append (ls ms : List FilterLexeme) :
    conditionsIn (ls ++ ms) = conditionsIn ls ++ conditionsIn ms :=
  List.filterMap_append

@[simp] theorem conditionsIn_condition (c : Condition) (ls : List FilterLexeme) :
    conditionsIn (.condition c :: ls) = c :: conditionsIn ls := rfl

@[simp] theorem conditionsIn_connective (k : Connective) (ls : List FilterLexeme) :
    conditionsIn (.connective k :: ls) = conditionsIn ls := rfl

@[simp] theorem conditionsIn_openParen (ls : List FilterLexeme) :
    conditionsIn (.openParen :: ls) = conditionsIn ls := rfl

@[simp] theorem conditionsIn_closeParen (ls : List FilterLexeme) :
    conditionsIn (.closeParen :: ls) = conditionsIn ls := rfl

end FilterLexeme

open FilterLexeme (conditionsIn)

/-- What is read holds the conditions of the row, each where it stands. -/
theorem Reads.conditions_eq {level : FilterLevel} {ls : List FilterLexeme} {p : SearchCondition}
    (h : Reads level ls p) : conditionsIn ls = p.conditions := by
  induction h with
  | condition c => rfl
  | parens _ ih => simpa using ih
  | term _ ih => exact ih
  | search _ ih => exact ih
  | and _ _ ihl ihr => simp [SearchCondition.conditions, ihl, ihr]
  | or _ _ ihl ihr => simp [SearchCondition.conditions, ihl, ihr]

theorem Reads.ne_nil {level : FilterLevel} {ls : List FilterLexeme} {p : SearchCondition}
    (h : Reads level ls p) : ls ≠ [] := by
  rintro rfl
  exact p.conditions_ne_nil h.conditions_eq.symm

/-! ## Rows of one connective -/

/-- The level at which a connective joins members. -/
def Connective.level : Connective → FilterLevel
  | .and => .term
  | .or => .search

theorem Reads.of_primary {ls : List FilterLexeme} {p : SearchCondition} (k : Connective)
    (h : Reads .primary ls p) : Reads k.level ls p := by
  cases k with
  | and => exact .term h
  | or => exact .search (.term h)

theorem Reads.to_search {ls : List FilterLexeme} {p : SearchCondition} {k : Connective}
    (h : Reads k.level ls p) : Reads .search ls p := by
  cases k with
  | and => exact .search h
  | or => exact h

/-- One more member at the end of a row. -/
theorem Reads.snoc {k : Connective} {ls ms : List FilterLexeme} {p q : SearchCondition}
    (h : Reads k.level ls p) (h' : Reads .primary ms q) :
    Reads k.level (ls ++ .connective k :: ms) (.combine k p q) := by
  cases k with
  | and => exact .and h h'
  | or => exact .or h (.term h')

theorem intercalate_singleton_cons {α : Type} (sep : α) (m : List α) (ms : List (List α)) :
    [sep].intercalate (m :: ms) = m ++ ms.flatMap (sep :: ·) := by
  induction ms generalizing m with
  | nil => simp
  | cons a ms ih => rw [List.intercalate_cons_cons, ih, List.flatMap_cons]; simp

/-- Members joined by one connective are read as a row that goes to the left. -/
theorem Reads.intercalate {k : Connective} {m : List FilterLexeme} {ms : List (List FilterLexeme)}
    {p : SearchCondition} {ps : List SearchCondition} (h : Reads k.level m p)
    (h' : List.Forall₂ (Reads .primary) ms ps) :
    Reads k.level ([.connective k].intercalate (m :: ms)) (ps.foldl (.combine k) p) := by
  rw [intercalate_singleton_cons]
  induction h' generalizing m p with
  | nil => simpa using h
  | cons hm _ ih =>
    -- The first of the members goes with what stands before them.
    simpa using ih (h.snoc hm)

/-! ## Reading in one pass -/

/-- What has been read when a primary is to come: some terms, and some factors of the next term. -/
structure HalfRead where
  terms : Option SearchCondition := none
  factors : Option SearchCondition := none

namespace SearchCondition

/-- Join what has been read, if anything, with what comes next. -/
def after (k : Connective) : Option SearchCondition → SearchCondition → SearchCondition
  | none, p => p
  | some l, p => .combine k l p

mutual

/-- Read on where a primary is to come.  Outside the parentheses that are open, `outer` has been
read. -/
def readPrimary (outer : List HalfRead) (f : HalfRead) : List FilterLexeme → Option SearchCondition
  | .condition c :: ls => readAfter outer f.terms (after .and f.factors (.condition c)) ls
  | .openParen :: ls => readPrimary (f :: outer) {} ls
  | _ => none

/-- Read on behind a primary, when some terms and the beginning of another one have been read. -/
def readAfter (outer : List HalfRead) (terms : Option SearchCondition) (term : SearchCondition) :
    List FilterLexeme → Option SearchCondition
  | [] => if outer.isEmpty then some (after .or terms term) else none
  | .connective .and :: ls => readPrimary outer ⟨terms, some term⟩ ls
  | .connective .or :: ls => readPrimary outer ⟨some (after .or terms term), none⟩ ls
  | .closeParen :: ls =>
    match outer with
    | [] => none
    | f :: outer => readAfter outer f.terms (after .and f.factors (after .or terms term)) ls
  | _ => none

end

/-- The search condition that a row of lexemes is read as, if it is one. -/
def read? (ls : List FilterLexeme) : Option SearchCondition := readPrimary [] {} ls

end SearchCondition

open SearchCondition

/-- What reading a part of a row in one pass comes to, whatever stands around it. -/
def ReadThrough : FilterLevel → List FilterLexeme → SearchCondition → Prop
  | .primary, ls, p => ∀ outer f rest,
    readPrimary outer f (ls ++ rest) = readAfter outer f.terms (after .and f.factors p) rest
  | .term, ls, p => ∀ outer terms rest,
    readPrimary outer ⟨terms, none⟩ (ls ++ rest) = readAfter outer terms p rest
  | .search, ls, p => ∀ outer rest, ∃ terms term, after .or terms term = p ∧
    readPrimary outer {} (ls ++ rest) = readAfter outer terms term rest

/-- What the grammar reads, the pass reads in the same way. -/
theorem Reads.readThrough {level : FilterLevel} {ls : List FilterLexeme} {p : SearchCondition}
    (h : Reads level ls p) : ReadThrough level ls p := by
  induction h with
  | condition c =>
    intro outer f rest
    rfl
  | @parens ls p _ ih =>
    intro outer f rest
    obtain ⟨terms, term, rfl, hread⟩ := ih (f :: outer) (.closeParen :: rest)
    rw [List.append_assoc, List.cons_append, List.singleton_append, readPrimary, hread, readAfter]
  | term _ ih =>
    intro outer terms rest
    exact ih outer ⟨terms, none⟩ rest
  | and _ _ ihl ihr =>
    intro outer terms rest
    rw [List.append_assoc, List.cons_append, ihl, readAfter, ihr]
    rfl
  | search _ ih =>
    intro outer rest
    exact ⟨none, _, rfl, ih outer none rest⟩
  | @or ls p ms q _ _ ihl ihr =>
    intro outer rest
    obtain ⟨terms, term, rfl, hread⟩ := ihl outer (.connective .or :: (ms ++ rest))
    refine ⟨some (after .or terms term), q, rfl, ?_⟩
    rw [List.append_assoc, List.cons_append, hread, readAfter, ihr]

theorem Reads.read?_eq {ls : List FilterLexeme} {p : SearchCondition} (h : Reads .search ls p) :
    read? ls = some p := by
  obtain ⟨terms, term, rfl, hread⟩ := h.readThrough [] []
  rw [List.append_nil] at hread
  rw [read?, hread]
  rfl

/-- A row of lexemes is read in one way at most. -/
theorem Reads.unique {ls : List FilterLexeme} {p q : SearchCondition} (h : Reads .search ls p)
    (h' : Reads .search ls q) : q = p :=
  Option.some.inj (h'.read?_eq.symm.trans h.read?_eq)

end SelectBuilder
