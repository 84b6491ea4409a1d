import SelectBuilder.Query.Basic
import SelectBuilder.Text.LetterCase

/-! # Table aliases

A table gets the lower case of its name as its alias, with a number added where the name is taken
already.
-/

namespace SelectBuilder.Alias

def numbered (base : String) (k : Nat) : String := base ++ "_" ++ toString k

/-- The first alias in use neither as it stands nor with a smaller number, counted from `k`; among
`fuel + 1` numbers one is free if at most `fuel` aliases are in use. -/
def firstFree (base : String) (existing : List String) : Nat → Nat → String
  | 0, k => numbered base k
  | fuel + 1, k =>
    if numbered base k ∈ existing then firstFree base existing fuel (k + 1) else numbered base k

/-- An alias for a table that is not in use yet. -/
def allocate (name : String) (existing : List String) : String :=
  let base := Text.lower name
  if base ∈ existing then firstFree base existing existing.length 1 else base

theorem allocate_of_not_mem {name : String} {existing : List String}
    (h : Text.lower name ∉ existing) : allocate name existing = Text.lower name := by
  simp [allocate, h]

end SelectBuilder.Alias
