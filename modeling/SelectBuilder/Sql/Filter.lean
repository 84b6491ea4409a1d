import SelectBuilder.Query.Condition

/-! # The filter in text

The filter tree as a row of lexemes: conditions, connectives and parentheses. The members of a
group stand in their order with its connective between them, and a nested group stands in
parentheses. A group without a condition at any depth leaves no trace.
-/

namespace SelectBuilder

inductive FilterLexeme where
  | condition (c : Condition)
  | connective (c : Connective)
  | openParen
  | closeParen
deriving Repr

namespace FilterLexeme

/-- The text of a lexeme, given that of a condition. -/
def text (conditionText : Condition → String) : FilterLexeme → String
  | .condition c => conditionText c
  | .connective c => " " ++ c.word ++ " "
  | .openParen => "("
  | .closeParen => ")"

end FilterLexeme

namespace ConditionGroup

mutual

/-- A group without parentheses around it. -/
def lexemes : ConditionGroup → List FilterLexeme
  | ⟨_, connective, conditions, groups⟩ =>
    [.connective connective].intercalate
      (conditions.map (fun c => [.condition c]) ++ nestedLexemes groups)

/-- Nested groups, each in parentheses; those without a condition are left out. -/
def nestedLexemes : List ConditionGroup → List (List FilterLexeme)
  | [] => []
  | g :: gs =>
    match lexemes g with
    | [] => nestedLexemes gs
    | l :: ls => (.openParen :: l :: ls ++ [.closeParen]) :: nestedLexemes gs

end

theorem lexemes_eq (g : ConditionGroup) :
    g.lexemes = [.connective g.connective].intercalate
      (g.conditions.map (fun c => [.condition c]) ++ nestedLexemes g.groups) := by
  cases g; rfl

/-- The text of a group, given that of a condition. -/
def text (conditionText : Condition → String) (g : ConditionGroup) : String :=
  String.join (g.lexemes.map (FilterLexeme.text conditionText))

end ConditionGroup

end SelectBuilder
