import SelectBuilder.Query.Basic

/-! # The plan of the FROM clause

The first table of a query is its base. A join is placed once one of its sides is in FROM, and
brings in the table of the other side; joins that have to wait are tried again until a round
places none of them, so the order in which they were added does not decide which tables are
reached. A join whose sides are both in FROM already, or whose other side is no table of the
query, settles without bringing anything in.
-/

namespace SelectBuilder

/-- A join placed in FROM, with the table that it brings in. -/
structure FromStep where
  join : Join
  table : Table
  /-- The table is that of the left side. -/
  reversed : Bool
deriving DecidableEq, Repr

/-- The alias of the table that is brought in. -/
def FromStep.target (s : FromStep) : String := s.table.aliasName

structure FromPlan where
  base : Table
  steps : List FromStep
  /-- Joins of which neither side is in FROM. -/
  stranded : List Join
  /-- Tables that no join brings in. -/
  unreachable : List Table
deriving DecidableEq, Repr

namespace FromPlan

/-- What a join does when some aliases are in FROM. -/
inductive Standing where
  | waiting
  | settled
  | brings (aliasName : String) (reversed : Bool)
deriving DecidableEq, Repr

def standing (reached : List String) (j : Join) : Standing :=
  if j.left.table ∈ reached then
    if j.right.table ∈ reached then .settled else .brings j.right.table false
  else if j.right.table ∈ reached then .brings j.left.table true
  else .waiting

/-- The outcome of one round, or of all of them. -/
structure Placement where
  steps : List FromStep := []
  waiting : List Join := []
deriving DecidableEq, Repr

/-- Put a step in front. -/
def Placement.place (s : FromStep) (p : Placement) : Placement :=
  { p with steps := s :: p.steps }

def Placement.wait (j : Join) (p : Placement) : Placement :=
  { p with waiting := j :: p.waiting }

/-- Try every join once. A table that comes in counts as reached for the joins after it. -/
def round (table? : String → Option Table) (reached : List String) : List Join → Placement
  | [] => {}
  | j :: js =>
    match standing reached j with
    | .waiting => (round table? reached js).wait j
    | .settled => round table? reached js
    | .brings aliasName reversed =>
      match table? aliasName with
      | some table => (round table? (aliasName :: reached) js).place { join := j, table, reversed }
      | none => round table? reached js

theorem length_waiting_le (table? : String → Option Table) (reached : List String)
    (js : List Join) : (round table? reached js).waiting.length ≤ js.length := by
  induction js generalizing reached with
  | nil => simp [round]
  | cons j js ih =>
    simp only [round]
    split
    · simpa [Placement.wait] using ih reached
    · exact Nat.le_succ_of_le (ih reached)
    · split
      · exact Nat.le_succ_of_le (ih _)
      · exact Nat.le_succ_of_le (ih reached)

/-- Try the joins in rounds, as long as there are fewer of them from round to round. -/
def rounds (table? : String → Option Table) (reached : List String) (js : List Join) :
    Placement :=
  let first := round table? reached js
  if first.waiting.length < js.length then
    let later := rounds table? (first.steps.map FromStep.target ++ reached) first.waiting
    { steps := first.steps ++ later.steps, waiting := later.waiting }
  else first
termination_by js.length

/-- The aliases in FROM: that of the base, and those of the tables that the steps bring in. -/
def reached (p : FromPlan) : List String := p.base.aliasName :: p.steps.map FromStep.target

end FromPlan

/-- The plan of a query that has a table. -/
def Query.fromPlan? (q : Query) : Option FromPlan :=
  match q.tables with
  | [] => none
  | base :: _ =>
    let placed := FromPlan.rounds q.table? [base.aliasName] q.joins
    let reached := base.aliasName :: placed.steps.map FromStep.target
    some
      { base
        steps := placed.steps
        stranded := placed.waiting
        unreachable := q.tables.filter (·.aliasName ∉ reached) }

end SelectBuilder
