/-! # Closed vocabularies

Types with finitely many values, each of which is written as a word.
-/

namespace SelectBuilder

class Named (α : Type) where
  /-- All values, in the order in which a message lists their words. -/
  all : List α
  word : α → String

namespace Named

variable {α : Type} [Named α]

def words (α : Type) [Named α] : List String := (all : List α).map word

/-- The value with a given word; letter case counts. -/
def read? (s : String) : Option α := all.find? (word · = s)

end Named

end SelectBuilder
