import SelectBuilder.Value.Comparison

/-! # Depth limits

How deep the filter of a query may be nested. A limit is a depth, as a rule, but any number can
serve as one.
-/

namespace SelectBuilder

inductive DepthLimit where
  | depth (n : Int)
  | quantity (q : Quantity) (text : String)
  /-- No depth is within the limit, and none is beyond it. -/
  | undefined
deriving DecidableEq, Repr

namespace DepthLimit

def ofValue : Value → Except Misfit DepthLimit
  | .int n => .ok (.depth n)
  | v =>
    v.measure.map fun
      | some q => .quantity q v.display
      | none => .undefined

/-- A limit that is not needed is not looked at. -/
def ofValueIf (needed : Bool) (v : Value) : Except Misfit DepthLimit :=
  if needed then ofValue v else .ok .undefined

def text : DepthLimit → String
  | .depth n => toString n
  | .quantity _ text => text
  | .undefined => "nan"

/-- Whether a depth is within the limit. -/
def admits : DepthLimit → Int → Bool
  | .depth n, m => m ≤ n
  | .quantity q _, m => !q.isLess (.ofInt m)
  | .undefined, _ => false

/-- Whether a depth is beyond the limit. -/
def excludes : DepthLimit → Int → Bool
  | .depth n, m => n < m
  | .quantity q _, m => q.isLess (.ofInt m)
  | .undefined, _ => false

@[simp] theorem admits_depth {n m : Int} : (DepthLimit.depth n).admits m ↔ m ≤ n := by
  simp [admits]

@[simp] theorem excludes_depth {n m : Int} : (DepthLimit.depth n).excludes m ↔ n < m := by
  simp [excludes]

end DepthLimit

end SelectBuilder
