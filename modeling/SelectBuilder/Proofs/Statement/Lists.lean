import SelectBuilder.Proofs.Literal.DisplayText
import SelectBuilder.Proofs.Statement.Values

/-!
# Lists in conditions

A value is made a list twice: by the condition that it stands in, before its operand is written, and
by the operand itself, when it is handed the value.  Both take null for no items, a list for its
items, and any other value for one item, except that the operand knows sets as well: to the
condition a set is one item.  The two texts are the same but for sets, and there never, not even for
a set of one item (`lexeme_set_ne`): the text of the set has braces that its item has not.
-/

namespace SelectBuilder

/-! ## Sets as literals -/

namespace Text

open LetterCase

/-- A character that is its own lower case is not lost. -/
theorem mem_lowerFrom {c : Char} (hc : ∀ before rest, lowerOf c before rest = [c]) {s : List Char}
    (h : c ∈ s) (before : Bool) : c ∈ lowerFrom before s := by
  induction s generalizing before with
  | nil => cases h
  | cons a s ih =>
    rw [lowerFrom, List.mem_append]
    rcases List.mem_cons.mp h with rfl | h
    · left
      rw [hc]
      exact List.mem_singleton_self _
    · exact .inr (ih h _)

end Text

section Set

variable {d : Dialect} {family : Family} {v : Value}

theorem Value.display_set_singleton (v : Value) :
    display (.set [v]) = "\x7b" ++ v.full ++ "\x7d" := by
  simp [display, full, fullItems]

theorem Value.brace_mem_trimmed (v : Value) : '\x7b' ∈ (Value.set [v]).trimmed := by
  refine Text.mem_trim ?_ (by decide)
  rw [display_set_singleton]
  simp

/-- A set of one item is no word for a truth value. -/
theorem Value.wordTruth?_set_singleton (v : Value) : (Value.set [v]).wordTruth? = none := by
  have hbrace : '\x7b' ∈ (Text.lower (String.ofList (Value.set [v]).trimmed)).toList := by
    rw [Text.lower, String.toList_ofList, String.toList_ofList]
    exact Text.mem_lowerFrom (fun _ _ ↦ rfl) v.brace_mem_trimmed false
  have hwords : ∀ w ∈ Literal.trueWords ++ Literal.falseWords, '\x7b' ∉ w.toList := by decide
  obtain ⟨htrue, hfalse⟩ := List.forall_mem_append.mp hwords
  rw [wordTruth?, Literal.wordTruth?, if_neg fun h ↦ htrue _ h hbrace,
    if_neg fun h ↦ hfalse _ h hbrace]

/-- A set of one item is written with quotes, whatever family it is taken to be of. -/
theorem Stands.eq_quoted_of_set {l : Lexeme} (h : Stands d family (.set [v]) l) :
    l = .quoted ("\x7b" ++ v.full ++ "\x7d") := by
  cases h with
  | boolean htruth =>
    rw [v.wordTruth?_set_singleton] at htruth
    cases htruth
  | number hparts =>
    have hpart := hparts.2 _ v.brace_mem_trimmed
    have hbrace : Numeral.isPart '\x7b' = false := by decide +kernel
    rw [hbrace] at hpart
    cases hpart
  | quoted =>
    rw [← v.display_set_singleton]
    cases family <;> rfl

theorem Stands.eq_quotable {s : String} (h : Stands d family v (.quoted s)) :
    s = v.quotable family := by
  cases h
  rfl

/-- A set of one item is not written like its item. -/
theorem lexeme_set_ne (d : Dialect) (declared : Option Family) (v : Value) :
    (Literal.ofValue declared (.set [v])).lexeme d ≠ (Literal.ofValue declared v).lexeme d := by
  obtain ⟨-, -, hset⟩ := represents_ofValue d declared (.set [v])
  obtain ⟨-, hnull, hitem⟩ := represents_ofValue d declared v
  have hquoted := (hset nofun).eq_quoted_of_set
  rw [hquoted]
  intro heq
  by_cases hv : v = .null
  · have hword := hnull.mpr hv
    rw [← heq] at hword
    cases hword
  · have hstands := hitem hv
    rw [← heq] at hstands
    exact v.quotable_ne_braced _ hstands.eq_quotable.symm

end Set

/-! ## Operands -/

namespace Operand

variable {d : Dialect}

/-- Operands with the same text have the same literals in it. -/
theorem lexemes_eq_of_text_eq {o o' : Operand} (ho : ∀ l ∈ o.literals, l.IsWhole)
    (ho' : ∀ l ∈ o'.literals, l.IsWhole) (h : o.text d = o'.text d) :
    o.lexemes d = o'.lexemes d := by
  have hreads {o : Operand} (ho : ∀ l ∈ o.literals, l.IsWhole) :
      d.lex? (o.text d).toList = some (o.lexemes d) :=
    Dialect.ReadsAs.lex?_eq fun rest hrest ↦ lex?_text d ho hrest
  have hread := hreads ho
  rw [h, hreads ho', Option.some.injEq] at hread
  exact hread.symm

section Operator

variable {operator : Operator} (h : operator = .isIn ∨ operator = .notIn)

include h

theorem ofValue_of_list (family : Option Family) (v : Value) :
    ofValue operator family v = .list ((items v).map (Literal.ofValue family)) := by
  rcases h with rfl | rfl <;> rfl

theorem isOperandFor_of_list {family : Value → Family} {v : Value} {ls : List Lexeme}
    (hls : IsOperandFor d family operator v ls) :
    ∃ literals, List.Forall₂ (fun item ↦ IsLiteralFor d (family item) item) (items v) literals ∧
      ls = .opening :: (literals.intersperse .comma ++ [.closing]) := by
  rcases h with rfl | rfl <;> exact hls

end Operator

/-- A set as one item is not written like the items of the set. -/
theorem lexemes_set_ne (family : Option Family) (vs : List Value) :
    (list [Literal.ofValue family (.set vs)]).lexemes d ≠
      (list ((Value.sorted vs).map (Literal.ofValue family))).lexemes d := by
  intro heq
  rw [lexemes, lexemes, List.cons.injEq, List.append_cancel_right_eq] at heq
  obtain ⟨-, heq⟩ := heq
  have hlength := congrArg List.length heq
  simp only [List.length_intersperse, List.length_map, List.length_cons, List.length_nil,
    Value.sorted, List.length_mergeSort] at hlength
  obtain ⟨v, rfl⟩ := List.length_eq_one_iff.mp (show vs.length = 1 by omega)
  have hsorted : Value.sorted [v] = [v] := List.mergeSort_singleton v
  rw [hsorted] at heq
  exact lexeme_set_ne d family v (List.singleton_inj.mp heq)

end Operand

/-! ## The main statement -/

namespace Condition

/-- What is given to a list condition: its values, or else its one value. -/
def givenList (c : Condition) : Value := if c.values = [] then c.value else .list c.values

/-- Whether a condition takes its items from a set. -/
def HasSet (c : Condition) : Prop := c.values = [] ∧ ∃ vs, c.value = .set vs

/-- The condition takes the items that the operand would take, if it is not a set that it is
given. -/
theorem listItems_eq_items {c : Condition} (h : ¬ c.HasSet) :
    c.listItems = Operand.items c.givenList := by
  rw [listItems, givenList]
  cases hvalues : c.values with
  | cons v vs => rfl
  | nil =>
    cases hvalue : c.value with
    | set vs => exact absurd ⟨hvalues, vs, hvalue⟩ h
    | _ => rfl

end Condition

namespace Query

variable {q : Query} {c : Condition} (hoperator : c.operator = .isIn ∨ c.operator = .notIn)

include hoperator

/-- The condition makes a list of its items first. -/
theorem conditionOperand_of_list :
    q.conditionOperand c =
      .list (c.listItems.map (Literal.ofValue (Family.declared? (q.columnType? c.subject)))) := by
  have hvalue : c.operandValue = .list c.listItems := by
    rcases hoperator with h | h <;> rw [Condition.operandValue, h]
  rw [conditionOperand, hvalue, Operand.ofValue_of_list hoperator]
  rfl

theorem conditionText_of_list (d : Dialect) :
    conditionText d q c =
      d.qualifiedColumn c.subject ++ " " ++ c.operator.word ++ " " ++
        (q.conditionOperand c).text d := by
  have hne : (q.conditionOperand c).text d ≠ "" := by
    rw [conditionOperand_of_list hoperator]
    simp [Operand.text]
  rw [conditionText, operatorText, if_neg hne]
  simp [String.append_assoc]

/-- The text of the operand is that for what the condition is given, if that is no set, and only
then. -/
theorem conditionOperand_text_eq_iff (d : Dialect) :
    (q.conditionOperand c).text d =
        (Operand.ofValue c.operator (Family.declared? (q.columnType? c.subject))
          c.givenList).text d ↔
      ¬ c.HasSet := by
  constructor
  · rintro heq ⟨hvalues, vs, hvalue⟩
    have hlexemes := Operand.lexemes_eq_of_text_eq (Operand.whole_of_mem_literals _ _ _)
      (Operand.whole_of_mem_literals _ _ _) heq
    have hitems : c.listItems = [.set vs] := by
      rw [Condition.listItems, hvalues, hvalue]
      rfl
    have hgiven : c.givenList = .set vs := by
      rw [Condition.givenList, if_pos hvalues, hvalue]
    rw [← conditionOperand, conditionOperand_of_list hoperator, hitems,
      Operand.ofValue_of_list hoperator, hgiven] at hlexemes
    exact Operand.lexemes_set_ne _ vs hlexemes
  · intro hset
    rw [conditionOperand_of_list hoperator, Operand.ofValue_of_list hoperator,
      Condition.listItems_eq_items hset]

end Query

open Operand in
/-- The text that a list condition is written with is the text of the operand for what is given to
it, one literal for each item, unless that is a set. -/
theorem listText_eq_iff (d : Dialect) (q : Query) (c : Condition)
    (hoperator : c.operator = .isIn ∨ c.operator = .notIn) :
    ∃ s t,
      Query.conditionText d q c =
        d.qualifiedColumn c.subject ++ " " ++ c.operator.word ++ " " ++ s ∧
      (ofTyped c.operator (((q.columnType? c.subject).map Value.text).getD .null) c.givenList).map
        (text d) = .ok t ∧
      (∃ ls, List.Forall₂ (fun item ↦ IsLiteralFor d
          (itemFamily c.operator (q.columnType? c.subject) item) item) (items c.givenList) ls ∧
        d.ReadsAs t (.opening :: (ls.intersperse .comma ++ [.closing]))) ∧
      (s = t ↔ ¬ c.HasSet) := by
  have hreads (v : Value) :
      d.ReadsAs ((ofValue c.operator (Family.declared? (q.columnType? c.subject)) v).text d)
        ((ofValue c.operator (Family.declared? (q.columnType? c.subject)) v).lexemes d) :=
    fun rest ↦ lex?_text d (whole_of_mem_literals _ _ _)
  obtain ⟨ls, hls, hlexemes⟩ := isOperandFor_of_list hoperator
    (isOperandFor_lexemes d c.operator (q.columnType? c.subject) c.givenList)
  refine ⟨_, _, Query.conditionText_of_list hoperator d, ?_, ⟨ls, hls, hlexemes ▸ hreads _⟩,
    Query.conditionOperand_text_eq_iff hoperator d⟩
  rw [ofTyped_declared]
  rfl

/-- Orders by their states, of which one is not known and one is a list by itself. -/
def stateQuery : Query where
  tables := [
    { aliasName := "o", name := "orders", columns := [{ name := "state", type := "smallint" }] }]

def stateCondition : Condition where
  id := "1"
  subject := ⟨"o", "state"⟩
  operator := .notIn
  value := .list [.text " 7 ", .null, .list [.int 1]]

theorem listText_of_stateCondition :
    ∃ s, Query.conditionText .mysql stateQuery stateCondition = "o.state NOT IN " ++ s ∧
      (Operand.ofTyped .notIn (.text "smallint") stateCondition.value).map (Operand.text .mysql) =
        .ok s ∧
      s = "(7, NULL, '[1]')" := by
  obtain ⟨s, t, hs, ht, -, hiff⟩ := listText_eq_iff .mysql stateQuery stateCondition (.inr rfl)
  have hset : ¬ stateCondition.HasSet := by
    rintro ⟨-, vs, ⟨⟩⟩
  obtain rfl := hiff.mpr hset
  have htext : (Operand.ofTyped .notIn (.text "smallint") stateCondition.value).map
      (Operand.text .mysql) = .ok "(7, NULL, '[1]')" := by decide +kernel
  exact ⟨s, hs, ht, Except.ok.inj (ht.symm.trans htext)⟩

/-- Orders by a state that is the only one of a set. -/
def stateSetCondition : Condition :=
  { stateCondition with operator := .isIn, value := .set [.int 5] }

/-- The set is written as one text, and not as a list of the number in it. -/
theorem set_as_one_item_of_stateSetCondition :
    Query.conditionText .postgres stateQuery stateSetCondition = "o.state IN ('\x7b5\x7d')" ∧
      (Operand.ofTyped .isIn (.text "smallint") stateSetCondition.value).map
        (Operand.text .postgres) = .ok "(5)" := by
  constructor <;> decide +kernel

end SelectBuilder
