import SelectBuilder.Proofs.Filter.Reading
import SelectBuilder.Sql.Select

/-!
# The filter in text means what its tree means

The text of a filter is read back by the precedence of SQL, the text of each condition being taken
as one piece.  What comes out has the value of the tree for every truth of the conditions, although
the pieces are joined without regard to which connective binds tighter: only members of one group
ever stand side by side without parentheses, and these have one connective.

Groups without a condition are the delicate point.  They may stand anywhere, a group may lose all
of its members to them, and a text in which one of them left a connective or a pair of parentheses
behind could not be read at all.  `Renders` says what is left of a group: nothing if it has no
value, and otherwise a search condition of its value.  One lemma goes through the members of a
group, and the induction over the tree only has to put it at every level.
-/

namespace SelectBuilder

open FilterLexeme (conditionsIn)

/-! ## The conditions of the text -/

theorem FilterLexeme.conditionsIn_intercalate (k : Connective) (ms : List (List FilterLexeme)) :
    conditionsIn ([.connective k].intercalate ms) = ms.flatMap conditionsIn := by
  cases ms with
  | nil => rfl
  | cons m ms =>
    rw [intercalate_singleton_cons, conditionsIn_append, List.flatMap_cons]
    congr 1
    induction ms with
    | nil => rfl
    | cons a ms ih => rw [List.flatMap_cons, conditionsIn_append, conditionsIn_connective, ih,
        List.flatMap_cons]

/-- The condition that a member of a tree is, if it is one. -/
def ConditionNode.condition? : ConditionNode → Option Condition
  | .condition c => some c
  | .group _ => none

namespace ConditionGroup

theorem flatMap_conditionsIn_conditions (cs : List Condition) :
    (cs.map fun c ↦ [.condition c]).flatMap conditionsIn = cs := by
  induction cs with
  | nil => rfl
  | cons c cs ih => rw [List.map_cons, List.flatMap_cons, ih]; rfl

/-! Of nested groups, one without lexemes is left out, and any other stands in parentheses. -/

theorem nestedLexemes_cons_of_eq_nil {g : ConditionGroup} {gs : List ConditionGroup}
    (h : g.lexemes = []) : nestedLexemes (g :: gs) = nestedLexemes gs := by
  rw [nestedLexemes, h]

theorem nestedLexemes_cons_of_ne_nil {g : ConditionGroup} {gs : List ConditionGroup}
    (h : g.lexemes ≠ []) :
    nestedLexemes (g :: gs) = (.openParen :: g.lexemes ++ [.closeParen]) :: nestedLexemes gs := by
  obtain ⟨l, ls, hls⟩ := List.exists_cons_of_ne_nil h
  rw [nestedLexemes, hls]

mutual

/-- The text of a group has the conditions of the tree, each of them once and in their order. -/
theorem conditionsIn_lexemes : (g : ConditionGroup) → conditionsIn g.lexemes = g.allConditions
  | ⟨_, _, conditions, groups⟩ => by
    rw [lexemes_eq, FilterLexeme.conditionsIn_intercalate, List.flatMap_append,
      flatMap_conditionsIn_conditions, conditionsIn_nestedLexemes groups, allConditions]

theorem conditionsIn_nestedLexemes :
    (gs : List ConditionGroup) → (nestedLexemes gs).flatMap conditionsIn = allConditionsOf gs
  | [] => rfl
  | g :: gs => by
    have hg := conditionsIn_lexemes g
    have hgs := conditionsIn_nestedLexemes gs
    by_cases h : g.lexemes = []
    · rw [nestedLexemes_cons_of_eq_nil h, allConditionsOf, hgs, ← hg, h]
      rfl
    · rw [nestedLexemes_cons_of_ne_nil h, allConditionsOf, List.flatMap_cons, hgs, ← hg]
      simp

end

mutual

/-- Going through all members of a tree meets the conditions in the same order. -/
theorem filterMap_nodes (depth : Int) :
    (g : ConditionGroup) → (g.nodes depth).filterMap (·.1.condition?) = g.allConditions
  | ⟨_, _, conditions, groups⟩ => by
    have hgroups := filterMap_nodesOf (depth + 1) groups
    simp only [nodes, allConditions, ← hgroups, List.cons_append, List.filterMap_cons,
      ConditionNode.condition?, List.filterMap_append, List.filterMap_map, Function.comp_def,
      List.filterMap_some]

theorem filterMap_nodesOf (depth : Int) :
    (gs : List ConditionGroup) →
      (nodesOf depth gs).filterMap (·.1.condition?) = allConditionsOf gs
  | [] => rfl
  | g :: gs => by
    rw [nodesOf, allConditionsOf, List.filterMap_append, filterMap_nodes depth g,
      filterMap_nodesOf depth gs]

end

/-! ## What is left of a group -/

/-- The text of something that may have a value: no text, or a search condition of that value. -/
inductive Renders (ls : List FilterLexeme) (value? : (Condition → Truth) → Option Truth) :
    Prop where
  | nothing (hls : ls = []) (hvalue : ∀ truth, value? truth = none)
  | condition (p : SearchCondition) (hread : Reads .search ls p)
      (hvalue : ∀ truth, value? truth = some (p.value truth))

/-- The members of a group, joined by its connective. -/
theorem Renders.of_members {ms : List (List FilterLexeme)} {ps : List SearchCondition}
    (k : Connective) (h : List.Forall₂ (Reads .primary) ms ps) :
    Renders ([.connective k].intercalate ms)
      fun truth ↦ k.combine? (ps.map (·.value truth)) := by
  cases h with
  | nil => exact .nothing rfl fun _ ↦ rfl
  | @cons m p ms ps hm hms =>
    have hread := Reads.intercalate (.of_primary k hm) hms
    refine .condition (ps.foldl (.combine k) p) hread.to_search ?_
    intro truth
    rw [SearchCondition.value_foldl_combine]
    rfl

theorem reads_conditions (cs : List Condition) :
    List.Forall₂ (Reads .primary) (cs.map fun c ↦ [.condition c]) (cs.map .condition) := by
  induction cs with
  | nil => exact .nil
  | cons c cs ih => exact .cons (.condition c) ih

mutual

/-- A group is rendered by its members that have a value. -/
theorem renders_lexemes : (g : ConditionGroup) → Renders g.lexemes fun truth ↦ g.value? truth
  | ⟨_, k, conditions, groups⟩ => by
    obtain ⟨ps, hps, hvalues⟩ := reads_nestedLexemes groups
    have h := Renders.of_members k (List.rel_append (reads_conditions conditions) hps)
    rw [lexemes_eq]
    convert h using 2 with truth
    rw [value?_eq, hvalues truth]
    simp [Function.comp_def, SearchCondition.value]

/-- Of some nested groups, those that have a value stand in parentheses. -/
theorem reads_nestedLexemes : (gs : List ConditionGroup) →
    ∃ ps, List.Forall₂ (Reads .primary) (nestedLexemes gs) ps ∧
      ∀ truth, valuesOf truth gs = ps.map (·.value truth)
  | [] => ⟨[], .nil, fun _ ↦ rfl⟩
  | g :: gs => by
    obtain ⟨ps, hps, hvalues⟩ := reads_nestedLexemes gs
    cases renders_lexemes g with
    | nothing hls hvalue =>
      refine ⟨ps, by simpa [nestedLexemes, hls] using hps, fun truth ↦ ?_⟩
      simp [valuesOf, hvalue truth, hvalues truth]
    | condition p hread hvalue =>
      refine ⟨p :: ps, ?_, fun truth ↦ ?_⟩
      · rw [nestedLexemes_cons_of_ne_nil hread.ne_nil]
        exact .cons (.parens hread) hps
      · simp [valuesOf, hvalue truth, hvalues truth]

end

/-- A group has lexemes just when there is a condition in it at some depth. -/
theorem lexemes_eq_nil_iff (g : ConditionGroup) : g.lexemes = [] ↔ g.allConditions = [] := by
  rw [← g.value?_eq_none_iff fun _ ↦ .unknown]
  cases renders_lexemes g with
  | nothing hls hvalue => simp [hls, hvalue]
  | condition p hread hvalue => simp [hread.ne_nil, hvalue]

/-- A text of something is only empty if it has no lexemes. -/
theorem text_eq_empty_iff {conditionText : Condition → String} (h : ∀ c, conditionText c ≠ "")
    (g : ConditionGroup) : g.text conditionText = "" ↔ g.lexemes = [] := by
  have hne (l : FilterLexeme) : l.text conditionText ≠ "" := by
    cases l with
    | condition c => exact h c
    | connective k => simp [FilterLexeme.text, String.append_eq_empty_iff]
    | openParen => simp [FilterLexeme.text]
    | closeParen => simp [FilterLexeme.text]
  rw [text]
  cases g.lexemes with
  | nil => simp
  | cons l ls => simp [String.append_eq_empty_iff, hne l]

end ConditionGroup

/-! ## The clause -/

namespace Query

theorem conditionText_ne_empty (d : Dialect) (q : Query) (c : Condition) :
    conditionText d q c ≠ "" := by
  simp [conditionText, String.append_eq_empty_iff]

/-- Where there is a filter with a condition, the clause is its text. -/
theorem whereClause_eq {q : Query} {g : ConditionGroup} (d : Dialect) (h : q.filter = some g) :
    whereClause d q =
      if g.allConditions = [] then "" else "WHERE " ++ g.text (conditionText d q) := by
  have htext : g.text (conditionText d q) = "" ↔ g.allConditions = [] :=
    (g.text_eq_empty_iff (conditionText_ne_empty d q)).trans g.lexemes_eq_nil_iff
  simp only [whereClause, h, htext]

end Query

open Query in
/-- The filter of a statement means what the filter of the query means.

There is a clause just when the filter has a condition at some depth.  Its text has all conditions
of the tree, each once and in the order in which the tree is gone through.  It is read by the
precedence of SQL in one way only, and whatever the conditions are of a row, true, false or unknown,
what is read has the value of the tree. -/
theorem whereClause_means_filter (d : Dialect) (q : Query) :
    (whereClause d q = "" ↔ q.conditions = []) ∧
    ∀ g, q.filter = some g →
      conditionsIn g.lexemes = (g.nodes 0).filterMap (·.1.condition?) ∧
      conditionsIn g.lexemes = q.conditions ∧
      (∀ truth, g.value? truth = none ↔ q.conditions = []) ∧
      (q.conditions ≠ [] →
        whereClause d q =
          "WHERE " ++ String.join (g.lexemes.map (FilterLexeme.text (conditionText d q))) ∧
        ∃ p, (∀ p', Reads .search g.lexemes p' ↔ p' = p) ∧
          ∀ truth, g.value? truth = some (p.value truth)) := by
  refine ⟨?_, fun g hg ↦ ?_⟩
  · cases hq : q.filter with
    | none => simp [whereClause, conditions, hq]
    | some g => simp [whereClause_eq d hq, conditions, hq, String.append_eq_empty_iff]
  have hconditions : q.conditions = g.allConditions := by simp [conditions, hg]
  rw [hconditions]
  refine ⟨?_, g.conditionsIn_lexemes, fun truth ↦ g.value?_eq_none_iff truth, fun hne ↦ ?_⟩
  · rw [g.conditionsIn_lexemes, g.filterMap_nodes]
  refine ⟨by rw [whereClause_eq d hg, if_neg hne, ConditionGroup.text], ?_⟩
  cases g.renders_lexemes with
  | nothing hls _ => exact absurd (g.lexemes_eq_nil_iff.mp hls) hne
  | condition p hread hvalue =>
    refine ⟨p, fun p' ↦ ⟨fun hread' ↦ hread.unique hread', ?_⟩, hvalue⟩
    rintro rfl
    exact hread

/-- A filter in which groups vanish before, between and below the groups that stay. -/
def shiftFilter : ConditionGroup :=
  { id := "1"
    conditions := [{ id := "2", subject := ⟨"s", "day"⟩, operator := .isNull }]
    groups := [
      { id := "3", groups := [{ id := "4", connective := .or }] },
      { id := "5", connective := .or
        conditions := [{ id := "6", subject := ⟨"s", "room"⟩, operator := .isNull }]
        groups := [
          { id := "7" },
          { id := "8"
            conditions := [{ id := "9", subject := ⟨"s", "nurse"⟩, operator := .isNotNull }] }] },
      { id := "10" }] }

theorem whereClause_of_shiftFilter :
    Query.whereClause .mysql { filter := some shiftFilter } =
      "WHERE s.day IS NULL AND (s.room IS NULL OR (s.nurse IS NOT NULL))" ∧
    ∃ p, (∀ p', Reads .search shiftFilter.lexemes p' ↔ p' = p) ∧
      ∀ truth, shiftFilter.value? truth = some (p.value truth) := by
  have hne : Query.conditions { filter := some shiftFilter } ≠ [] := List.cons_ne_nil _ _
  obtain ⟨-, hmeans⟩ := whereClause_means_filter .mysql { filter := some shiftFilter }
  obtain ⟨-, -, -, hread⟩ := hmeans shiftFilter rfl
  exact ⟨by decide +kernel, (hread hne).2⟩

end SelectBuilder
