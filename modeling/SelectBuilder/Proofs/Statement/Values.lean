import SelectBuilder.Proofs.FromPlan.Scope
import SelectBuilder.Proofs.Literal.Containment

/-!
# Values in the statement for a valid query

Whether a condition has a value is decided twice: by the rules for queries, which ask whether a
value is missing, and where the condition is written, which makes items of its value.  The two agree
on all values but one.  Neither null nor the empty text passes the rules, so that no bound and no
single value of a valid query is written as the keyword NULL.  But an empty list is not missing, and
there are no items in it: a list condition that has it for its value passes the rules and is written
with nothing between its parentheses.

What is written is taken as it is read, with the reader of operands.
-/

namespace SelectBuilder

/-- A text is read as some lexemes, whatever follows it that does not carry on the last of them. -/
def Dialect.ReadsAs (d : Dialect) (s : String) (ls : List Lexeme) : Prop :=
  ∀ rest, (∀ l ∈ ls.getLast?, l.EndsBefore rest) →
    d.lex? (s.toList ++ rest) = (d.lex? rest).map (ls ++ ·)

theorem Dialect.ReadsAs.lex?_eq {d : Dialect} {s : String} {ls : List Lexeme} (h : d.ReadsAs s ls) :
    d.lex? s.toList = some ls := by
  have hend := h [] fun l _ ↦ l.endsBefore_nil
  rw [List.append_nil] at hend
  rw [hend, show d.lex? [] = some [] from rfl, Option.map_some, List.append_nil]

theorem IsLiteralFor.ne_null {d : Dialect} {family : Family} {v : Value} {l : Lexeme}
    (h : IsLiteralFor d family v l) (hv : ¬ v.isMissing) : l ≠ .word "NULL" := by
  intro hnull
  rw [h.eq_null_iff.mp hnull] at hv
  exact hv rfl

/-- The lexemes of an operand have all that its operator asks for: items in a list, and bounds and
values other than NULL. -/
def Operator.IsComplete (operator : Operator) (ls : List Lexeme) : Prop :=
  match operator with
  | .isNull | .isNotNull => ls = []
  | .isIn | .notIn =>
    ∃ literals, literals ≠ [] ∧ ls = .opening :: (literals.intersperse .comma ++ [.closing])
  | .between =>
    ∃ low high, ls = [low, .word "AND", high] ∧ low ≠ .word "NULL" ∧ high ≠ .word "NULL"
  | _ => ∃ l, ls = [l] ∧ l ≠ .word "NULL"

theorem Operator.isComplete_list_iff (literals : List Lexeme) :
    Operator.IsComplete .isIn (.opening :: (literals.intersperse .comma ++ [.closing])) ↔
      literals ≠ [] := by
  refine ⟨?_, fun h ↦ ⟨literals, h, rfl⟩⟩
  rintro ⟨literals', hne, heq⟩ rfl
  obtain ⟨l, ls, rfl⟩ := List.exists_cons_of_ne_nil hne
  cases ls <;> simp at heq

namespace Condition

/-- A list condition that has an empty list for its one value. -/
structure HasEmptyList (c : Condition) : Prop where
  operator : c.operator = .isIn ∨ c.operator = .notIn
  values : c.values = []
  value : c.value = .list []

/-- A list condition that the rules let pass has items, or else an empty list of them. -/
theorem listItems_eq_nil_iff {c : Condition} (h : c.values.isEmpty → ¬ c.value.isMissing) :
    c.listItems = [] ↔ c.values = [] ∧ c.value = .list [] := by
  rw [listItems]
  cases hvalues : c.values with
  | cons v vs => simp
  | nil =>
    have hvalue := h (by rw [hvalues]; rfl)
    cases hv : c.value <;> simp_all [Value.isMissing]

variable {d : Dialect} {family : Value → Family} {c : Condition} {ls : List Lexeme}

theorem hasEmptyList_iff (hoperator : c.operator = .isIn ∨ c.operator = .notIn)
    (hc : c.problem? = none) : c.HasEmptyList ↔ c.listItems = [] := by
  have hmissing : c.values.isEmpty → ¬ c.value.isMissing := by
    rcases hoperator with h | h <;> simpa [problem?, h] using hc
  rw [listItems_eq_nil_iff hmissing]
  exact ⟨fun h ↦ ⟨h.values, h.value⟩, fun h ↦ ⟨hoperator, h.1, h.2⟩⟩

/-- Where the rules find nothing missing, something is missing in an operand just when the condition
has an empty list. -/
theorem isComplete_iff (hc : c.problem? = none)
    (h : IsOperandFor d family c.operator c.operandValue ls) :
    c.operator.IsComplete ls ↔ ¬ c.HasEmptyList := by
  have hlist (hoperator : c.operator = .isIn ∨ c.operator = .notIn) {literals : List Lexeme}
      (hliterals : List.Forall₂ (fun item ↦ IsLiteralFor d (family item) item)
        (Operand.items c.operandValue) literals) :
      Operator.IsComplete .isIn (.opening :: (literals.intersperse .comma ++ [.closing])) ↔
        ¬ c.HasEmptyList := by
    have hitems : Operand.items c.operandValue = c.listItems := by
      rcases hoperator with h | h <;> simp [operandValue, h, Operand.items]
    rw [hasEmptyList_iff hoperator hc, ← hitems, Operator.isComplete_list_iff, ← ne_eq,
      ← List.length_pos_iff, ← List.length_pos_iff, hliterals.length_eq]
  have hother (hoperator : ¬ (c.operator = .isIn ∨ c.operator = .notIn)) : ¬ c.HasEmptyList :=
    fun hempty ↦ hoperator hempty.operator
  cases hoperator : c.operator with
  | isNull | isNotNull =>
    rw [hoperator] at h
    exact iff_of_true h (hother (by simp [hoperator]))
  | isIn | notIn =>
    rw [hoperator] at h
    obtain ⟨literals, hliterals, rfl⟩ := h
    exact hlist (by simp [hoperator]) hliterals
  | between =>
    rw [hoperator] at h
    obtain ⟨low, high, hlow, hhigh, rfl⟩ := h
    obtain ⟨hvalue, hupper⟩ : ¬ c.value.isMissing ∧ ¬ c.upper.isMissing := by
      simpa [problem?, hoperator] using hc
    have hbounds : Operand.bounds c.operandValue = (c.value, c.upper) := by
      simp [operandValue, hoperator, Operand.bounds]
    rw [hbounds] at hlow hhigh
    exact iff_of_true ⟨low, high, rfl, hlow.ne_null hvalue, hhigh.ne_null hupper⟩
      (hother (by simp [hoperator]))
  | compare | like | notLike =>
    rw [hoperator] at h
    obtain ⟨l, hl, rfl⟩ := h
    have hvalue : ¬ c.value.isMissing := by simpa [problem?, hoperator] using hc
    have hown : c.operandValue = c.value := by simp [operandValue, hoperator]
    rw [hown] at hl
    exact iff_of_true ⟨l, rfl, hl.ne_null hvalue⟩ (hother (by simp [hoperator]))

end Condition

namespace Query

variable (d : Dialect) {q : Query} {limit : DepthLimit}

theorem valueProblems_eq_nil_iff :
    q.valueProblems = [] ↔
      (∀ c ∈ q.conditions, c.problem? = none) ∧ ∀ f ∈ q.having, ¬ f.value.isMissing := by
  simp [valueProblems, List.filterMap_eq_nil_iff]

/-- The text of a condition ends in what is read as its operand. -/
theorem exists_operand (q : Query) (c : Condition) :
    ∃ s ls, conditionText d q c = d.qualifiedColumn c.subject ++ " " ++ c.operator.word ++
        (if ls = [] then "" else " " ++ s) ∧
      d.ReadsAs s ls ∧
      IsOperandFor d (Operand.itemFamily c.operator (q.columnType? c.subject)) c.operator
        c.operandValue ls := by
  have hreads : d.ReadsAs ((q.conditionOperand c).text d) ((q.conditionOperand c).lexemes d) :=
    fun rest ↦ Operand.lex?_text d (Operand.whole_of_mem_literals _ _ _)
  refine ⟨_, _, ?_, hreads, Operand.isOperandFor_lexemes d _ _ _⟩
  have hempty : (q.conditionOperand c).text d = "" ↔ (q.conditionOperand c).lexemes d = [] := by
    constructor
    · intro h
      have hread := hreads.lex?_eq
      rw [h] at hread
      exact (Option.some.inj hread).symm
    · intro h
      cases ho : q.conditionOperand c with
      | nothing => rfl
      | one | list | range => simp [ho, Operand.lexemes] at h
  simp only [conditionText, operatorText, hempty]
  split <;> simp [String.append_assoc]

/-- The text of a condition on groups ends in what is read as its value. -/
theorem exists_groupValue (q : Query) (f : GroupFilter) :
    ∃ s l, groupFilterText d q f =
        f.aggregate.apply (d.qualifiedColumn f.subject) ++ " " ++ f.comparison.word ++ " " ++ s ∧
      d.ReadsAs s [l] ∧
      IsLiteralFor d ((q.groupFilterFamily f).getD (Literal.familyOf f.value)) f.value l := by
  have h := represents_ofValue d (q.groupFilterFamily f) f.value
  exact ⟨_, _, rfl, fun rest hrest ↦ Literal.lex?_text d h.whole rest (hrest _ rfl),
    h.isLiteralFor⟩

end Query

open Query in
/-- What keeps the values in the statement for a valid query from being complete.

Every condition of the filter is written with its operand, which is read as one literal for each
item of the condition, in the shape that the operator asks for.  A list has an item in it, and
bounds and single values are not the keyword NULL, unless the condition has an empty list for its
value.  A condition on groups always has a value other than NULL. -/
theorem values_complete_iff (d : Dialect) (q : Query) (limit : DepthLimit)
    (h : q.isValid limit) :
    (∀ c ∈ q.conditions, ∃ s ls,
      conditionText d q c = d.qualifiedColumn c.subject ++ " " ++ c.operator.word ++
        (if ls = [] then "" else " " ++ s) ∧
      d.ReadsAs s ls ∧
      IsOperandFor d (Operand.itemFamily c.operator (q.columnType? c.subject)) c.operator
        c.operandValue ls ∧
      (c.operator.IsComplete ls ↔ ¬ c.HasEmptyList)) ∧
    ∀ f ∈ q.having, ∃ s l,
      groupFilterText d q f =
        f.aggregate.apply (d.qualifiedColumn f.subject) ++ " " ++ f.comparison.word ++ " " ++ s ∧
      d.ReadsAs s [l] ∧
      IsLiteralFor d ((q.groupFilterFamily f).getD (Literal.familyOf f.value)) f.value l ∧
      l ≠ .word "NULL" := by
  obtain ⟨-, -, -, -, hvalues, -⟩ := isValid_iff.mp h
  obtain ⟨hconditions, hhaving⟩ := valueProblems_eq_nil_iff.mp hvalues
  constructor
  · intro c hc
    obtain ⟨s, ls, htext, hreads, hoperand⟩ := exists_operand d q c
    exact ⟨s, ls, htext, hreads, hoperand, c.isComplete_iff (hconditions c hc) hoperand⟩
  · intro f hf
    obtain ⟨s, l, htext, hreads, hliteral⟩ := exists_groupValue d q f
    exact ⟨s, l, htext, hreads, hliteral, hliteral.ne_null (hhaving f hf)⟩

/-- Conditions of every shape, one list of them with a single value and one with null and an empty
text for items. -/
def priceReport : Query where
  tables := [
    { aliasName := "p", name := "products"
      columns := [{ name := "price", type := "numeric(8, 2)" }] }]
  filter := some
    { id := "1"
      conditions := [
        { id := "2", subject := ⟨"p", "price"⟩, operator := .between, value := .int 0
          upper := .text " 9.5 " }]
      groups := [
        { id := "3", connective := .or
          conditions := [
            { id := "4", subject := ⟨"p", "kind"⟩, operator := .notIn, value := .bool false },
            { id := "5", subject := ⟨"p", "kind"⟩, operator := .isIn, values := [.null, .text ""] },
            { id := "6", subject := ⟨"p", "kind"⟩, operator := .like, value := .list [] }] }] }
  having := [{ id := "7", subject := ⟨"p", "price"⟩, aggregate := .min, value := .int 0 }]

theorem values_complete_of_priceReport :
    priceReport.isValid (.depth 1) ∧
      priceReport.sql .sqlserver = "SELECT * FROM products AS p WHERE p.price BETWEEN 0 AND 9.5 " ++
        "AND (p.kind NOT IN (0) OR p.kind IN (NULL, '') OR p.kind LIKE '[]') " ++
        "HAVING MIN(p.price) > 0" ∧
      (∀ c ∈ priceReport.conditions, ∃ s ls,
        Query.conditionText .sqlserver priceReport c =
          Dialect.sqlserver.qualifiedColumn c.subject ++ " " ++ c.operator.word ++
            (if ls = [] then "" else " " ++ s) ∧
        Dialect.sqlserver.ReadsAs s ls ∧ c.operator.IsComplete ls) ∧
      ∀ f ∈ priceReport.having, ∃ s l, Dialect.sqlserver.ReadsAs s [l] ∧ l ≠ .word "NULL" := by
  have hvalid : priceReport.isValid (.depth 1) := by decide +kernel
  obtain ⟨hconditions, hhaving⟩ := values_complete_iff .sqlserver priceReport (.depth 1) hvalid
  refine ⟨hvalid, by decide +kernel, fun c hc ↦ ?_, fun f hf ↦ ?_⟩
  · obtain ⟨s, ls, htext, hreads, -, hiff⟩ := hconditions c hc
    refine ⟨s, ls, htext, hreads, hiff.mpr fun hempty ↦ ?_⟩
    have hitems : ∀ c ∈ priceReport.conditions, c.operator = .isIn ∨ c.operator = .notIn →
        c.listItems.isEmpty = false := by decide
    have hnone : c.listItems = [] := by
      rw [Condition.listItems, hempty.values, hempty.value]
      rfl
    have := hitems c hc hempty.operator
    rw [hnone] at this
    cases this
  · obtain ⟨s, l, -, hreads, -, hne⟩ := hhaving f hf
    exact ⟨s, l, hreads, hne⟩

/-- Users by their ids, of which none are given. -/
def noIdsQuery : Query where
  tables := [{ aliasName := "u", name := "users" }]
  filter := some
    { id := "1"
      conditions := [
        { id := "2", subject := ⟨"u", "id"⟩, operator := .isIn, value := .list [] }] }

/-- The condition of this valid query is written with a list of no items. -/
theorem no_items_in_noIdsQuery :
    noIdsQuery.isValid (.depth 3) ∧
      noIdsQuery.sql .postgres = "SELECT * FROM users AS u WHERE u.id IN ()" ∧
      Dialect.postgres.lex? "()".toList = some [.opening, .closing] ∧
      ¬ Operator.IsComplete .isIn [.opening, .closing] := by
  refine ⟨by decide +kernel, by decide +kernel, by decide +kernel, fun h ↦ ?_⟩
  exact (Operator.isComplete_list_iff []).mp h rfl

end SelectBuilder
