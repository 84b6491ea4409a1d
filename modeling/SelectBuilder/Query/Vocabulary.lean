import SelectBuilder.Named

/-! # The words of a query

The operators, functions and directions a query is built from, each with the word it is written
with in a stored query and in SQL.
-/

namespace SelectBuilder

inductive Aggregate where
  | count
  | sum
  | avg
  | min
  | max
  | countDistinct
deriving DecidableEq, Repr

/-- The operators that compare one value with another. -/
inductive Comparison where
  | equal
  | notEqual
  | greater
  | less
  | atLeast
  | atMost
deriving DecidableEq, Repr

/-- The operators of a filter condition. -/
inductive Operator where
  | compare (c : Comparison)
  | like
  | notLike
  | isIn
  | notIn
  | isNull
  | isNotNull
  | between
deriving DecidableEq, Repr

inductive JoinKind where
  | inner
  | left
  | right
  | full
  | cross
deriving DecidableEq, Repr

/-- How a group combines what it holds. -/
inductive Connective where
  | and
  | or
deriving DecidableEq, Repr

inductive Direction where
  | ascending
  | descending
deriving DecidableEq, Repr

namespace Aggregate

def word : Aggregate → String
  | .count => "COUNT"
  | .sum => "SUM"
  | .avg => "AVG"
  | .min => "MIN"
  | .max => "MAX"
  | .countDistinct => "COUNT_DISTINCT"

/-- Whether the result is a number whatever the type of the column is. -/
def isNumeric : Aggregate → Bool
  | .min | .max => false
  | _ => true

instance : Named Aggregate where
  all := [.count, .sum, .avg, .min, .max, .countDistinct]
  word := word

end Aggregate

namespace Comparison

def word : Comparison → String
  | .equal => "="
  | .notEqual => "!="
  | .greater => ">"
  | .less => "<"
  | .atLeast => ">="
  | .atMost => "<="

def all : List Comparison := [.equal, .notEqual, .greater, .less, .atLeast, .atMost]

instance : Named Comparison := ⟨all, word⟩

end Comparison

namespace Operator

def word : Operator → String
  | .compare c => c.word
  | .like => "LIKE"
  | .notLike => "NOT LIKE"
  | .isIn => "IN"
  | .notIn => "NOT IN"
  | .isNull => "IS NULL"
  | .isNotNull => "IS NOT NULL"
  | .between => "BETWEEN"

instance : Named Operator where
  all := Comparison.all.map .compare ++
    [.like, .notLike, .isIn, .notIn, .isNull, .isNotNull, .between]
  word := word

/-- An operator as a plain comparison, if it is one. -/
def comparison? : Operator → Option Comparison
  | .compare c => some c
  | _ => none

end Operator

namespace JoinKind

def word : JoinKind → String
  | .inner => "INNER"
  | .left => "LEFT"
  | .right => "RIGHT"
  | .full => "FULL"
  | .cross => "CROSS"

instance : Named JoinKind := ⟨[.inner, .left, .right, .full, .cross], word⟩

/-- The kind that keeps the same rows when the two sides change places. -/
def mirror : JoinKind → JoinKind
  | .left => .right
  | .right => .left
  | kind => kind

end JoinKind

namespace Connective

def word : Connective → String
  | .and => "AND"
  | .or => "OR"

instance : Named Connective := ⟨[.and, .or], word⟩

end Connective

namespace Direction

def word : Direction → String
  | .ascending => "ASC"
  | .descending => "DESC"

instance : Named Direction := ⟨[.ascending, .descending], word⟩

end Direction

/-! Every word reads back as the value it is written for. -/

@[simp] theorem Aggregate.read?_word (a : Aggregate) : Named.read? a.word = some a := by
  cases a <;> decide

@[simp] theorem Operator.read?_word (o : Operator) : Named.read? o.word = some o := by
  rcases o with c | _ <;> try cases c
  all_goals decide

@[simp] theorem JoinKind.read?_word (k : JoinKind) : Named.read? k.word = some k := by
  cases k <;> decide

@[simp] theorem Connective.read?_word (c : Connective) : Named.read? c.word = some c := by
  cases c <;> decide

@[simp] theorem Direction.read?_word (d : Direction) : Named.read? d.word = some d := by
  cases d <;> decide

end SelectBuilder
