import SelectBuilder.Proofs.FromPlan.Reach
import SelectBuilder.Proofs.FromPlan.Rows
import SelectBuilder.Sql.Select

/-!
# The direction of a join

A join says which of its sides keep their unmatched rows, and its left side is its own left side.
In FROM whatever is there already stands on the left and the table that comes in on the right.  So
there are two joins to compare: the one that is meant (`Join.rowSet`) and the one that is read off
the text (`WrittenJoin.rowSet?`), and they take their sides in different orders when the table that
comes in is the left side of its join.

Both come down to `RowSet.joined` with a condition on the pair of rows.  That the conditions say the
same is a matter of names: no column of what is in FROM has the alias of the table that comes in.
The rest is that mirroring the kind undoes what changing places does (`JoinKind.kept_mirror`).
-/

namespace SelectBuilder

universe u

variable {V : Type u}

/-! ## The join that is meant -/

/-- The sides that keep their unmatched rows. -/
def JoinKind.kept : JoinKind → Sides
  | .inner | .cross => ⟨false, false⟩
  | .left => ⟨true, false⟩
  | .right => ⟨false, true⟩
  | .full => ⟨true, true⟩

@[simp] theorem JoinKind.kept_mirror (k : JoinKind) : k.mirror.kept = k.kept.swap := by
  cases k <;> rfl

@[simp] theorem JoinKind.mirror_eq_cross_iff (k : JoinKind) : k.mirror = .cross ↔ k = .cross := by
  cases k <;> simp [JoinKind.mirror]

section Meaning

variable (compare : Comparison → Option V → Option V → Truth)

/-- Whether a row of the left side and one of the right side match.  Unknown is no match, and in a
cross join everything matches. -/
def Join.pairs (j : Join) (l r : Row V) : Bool :=
  j.kind = .cross || compare j.comparison (l.cell j.left) (r.cell j.right) = .true

/-- The rows of a join, given those of its left and of its right side. -/
def Join.rowSet (j : Join) (L R : RowSet V) : RowSet V :=
  RowSet.joined j.kind.kept (j.pairs compare) L R

/-! ## The join that is written -/

/-- An ON clause. -/
structure OnClause where
  left : ColumnRef
  comparison : Comparison
  right : ColumnRef

/-- A join as it stands in FROM. -/
structure WrittenJoin where
  keyword : String
  table : Table
  on : Option OnClause

def WrittenJoin.text (d : Dialect) (w : WrittenJoin) : String :=
  match w.on with
  | none => w.keyword ++ " " ++ d.tableText w.table
  | some on =>
    w.keyword ++ " " ++ d.tableText w.table ++ " ON " ++ d.qualifiedColumn on.left ++ " " ++
      on.comparison.word ++ " " ++ d.qualifiedColumn on.right

/-- The sides that keep their unmatched rows, in a join that is written with an ON clause. -/
def keptBy? : String → Option Sides
  | "INNER JOIN" => some ⟨false, false⟩
  | "LEFT JOIN" => some ⟨true, false⟩
  | "RIGHT JOIN" => some ⟨false, true⟩
  | "FULL OUTER JOIN" => some ⟨true, true⟩
  | _ => none

/-- Whether a row satisfies an ON clause.  The columns are looked up by their names in the whole
row, whichever side they come from. -/
def OnClause.holds (on : OnClause) (r : Row V) : Bool :=
  compare on.comparison (r.cell on.left) (r.cell on.right) = .true

/-- The rows of a join as it is written, with what stands before it on the left and its table on the
right.  Only CROSS JOIN goes without an ON clause. -/
def WrittenJoin.rowSet? (w : WrittenJoin) (L R : RowSet V) : Option (RowSet V) :=
  match w.on with
  | none =>
    if w.keyword = "CROSS JOIN" then
      some (RowSet.joined ⟨false, false⟩ (fun _ _ ↦ true) L R)
    else none
  | some on =>
    (keptBy? w.keyword).map fun kept ↦
      RowSet.joined kept (fun l r ↦ on.holds compare (l ++ r)) L R

/-- What a join makes of the rows before it. -/
def WrittenJoin.after? (content : Table → Content V) (L : RowSet V) (w : WrittenJoin) :
    Option (RowSet V) :=
  w.rowSet? compare L ((content w.table).under w.table.aliasName)

/-- The rows of FROM as it is written: those of its first table, and join after join. -/
def fromRowSet? (content : Table → Content V) (base : Table) (joins : List WrittenJoin) :
    Option (RowSet V) :=
  joins.foldlM (WrittenJoin.after? compare content) ((content base).under base.aliasName)

end Meaning

theorem JoinKind.keptBy?_keyword {k : JoinKind} (h : k ≠ .cross) :
    keptBy? k.keyword = some k.kept := by
  cases k with
  | cross => exact absurd rfl h
  | _ => rfl

namespace FromStep

/-- The join that a step is written as. -/
def written (s : FromStep) : WrittenJoin where
  keyword := s.kind.keyword
  table := s.table
  on := if s.kind = .cross then none else some ⟨s.join.left, s.join.comparison, s.join.right⟩

theorem text_written (d : Dialect) (s : FromStep) : s.written.text d = Query.stepText d s := by
  by_cases h : s.kind = .cross
  · simp [Query.stepText, written, WrittenJoin.text, h]
  · simp [Query.stepText, written, WrittenJoin.text, h]

/-- The rows that an alias of the join stands for: those of the table that comes in, if it is the
alias of that, or else all that is in FROM so far. -/
def side (s : FromStep) (sofar table : RowSet V) (aliasName : String) : RowSet V :=
  if aliasName = s.target then table else sofar

theorem kind_eq_cross_iff (s : FromStep) : s.kind = .cross ↔ s.join.kind = .cross := by
  rw [kind]
  split
  · exact s.join.kind.mirror_eq_cross_iff
  · rfl

section Rows

variable (compare : Comparison → Option V → Option V → Truth)

/-- What is written for a step is read as a join, and its condition is that of the step's join on
the pair of rows. -/
theorem rowSet?_written (s : FromStep) (L R : RowSet V) :
    s.written.rowSet? compare L R =
      some (RowSet.joined s.kind.kept (fun l r ↦ s.join.pairs compare (l ++ r) (l ++ r)) L R) := by
  by_cases h : s.kind = .cross
  · have hjoin : s.join.kind = .cross := s.kind_eq_cross_iff.mp h
    simp [WrittenJoin.rowSet?, written, h, JoinKind.keyword, JoinKind.kept, Join.pairs, hjoin]
  · have hjoin : s.join.kind ≠ .cross := fun hc ↦ h (s.kind_eq_cross_iff.mpr hc)
    simp [WrittenJoin.rowSet?, written, h, JoinKind.keptBy?_keyword h, Join.pairs, hjoin,
      OnClause.holds]

/-- Steps that are written one after the other are read as joins, and the columns of the result are
those of the tables that they bring in. -/
theorem exists_rowSet_written (content : Table → Content V) (ss : List FromStep)
    (L : RowSet V) :
    ∃ T : RowSet V, (ss.map written).foldlM (WrittenJoin.after? compare content) L = some T ∧
      ∀ c ∈ T.columns, c ∈ L.columns ∨ c.table ∈ ss.map target := by
  induction ss generalizing L with
  | nil => exact ⟨L, rfl, fun c hc ↦ .inl hc⟩
  | cons s ss ih =>
    obtain ⟨T, hT, hcolumns⟩ := ih (RowSet.joined s.kind.kept
      (fun l r ↦ s.join.pairs compare (l ++ r) (l ++ r)) L
      ((content s.table).under s.target))
    refine ⟨T, ?_, ?_⟩
    · rw [List.map_cons, List.foldlM_cons, WrittenJoin.after?, rowSet?_written]
      exact hT
    · intro c hc
      rcases hcolumns c hc with hc | hc
      · rcases List.mem_append.mp hc with hc | hc
        · exact .inl hc
        · exact .inr (by rw [Content.table_of_mem_under hc]; exact List.mem_cons_self)
      · exact .inr (List.mem_cons_of_mem _ hc)

/-- In a row of a step's join, a column is looked up in the new table if it goes by its alias, and
in what was there before if not. -/
theorem cell_append {s : FromStep} {L R : RowSet V} (hL : ∀ c ∈ L.columns, c.table ≠ s.target)
    (hR : ∀ c ∈ R.columns, c.table = s.target) {l r : Row V} (hl : l ∈ L.rows) (hr : r ∈ R.rows)
    (c : ColumnRef) :
    Row.cell (l ++ r) c = if c.table = s.target then r.cell c else l.cell c := by
  split
  · rename_i hc
    apply Row.cell_append_right
    intro hmem
    rw [L.map_fst l hl] at hmem
    exact hL c hmem hc
  · rename_i hc
    apply Row.cell_append_left
    intro hmem
    rw [R.map_fst r hr] at hmem
    exact hc (hR c hmem)

/-- Read as it is written, the join of a step has the rows that are meant. -/
theorem Follows.agrees {s : FromStep} {reached : List String} (h : s.Follows reached)
    {L R : RowSet V} (hL : ∀ c ∈ L.columns, c.table ∈ reached)
    (hR : ∀ c ∈ R.columns, c.table = s.target) :
    (RowSet.joined s.kind.kept (fun l r ↦ s.join.pairs compare (l ++ r) (l ++ r)) L R).Agrees
      (s.join.rowSet compare (s.side L R s.join.left.table) (s.side L R s.join.right.table)) := by
  have hL' : ∀ c ∈ L.columns, c.table ≠ s.target := fun c hc heq ↦
    h.target_notMem (heq ▸ hL c hc)
  rcases h.sides with ⟨hl, -, ht⟩ | ⟨hr, -, ht⟩
  · have hne : s.join.left.table ≠ s.target := fun hc ↦ h.target_notMem (hc ▸ hl)
    have hkind : s.kind = s.join.kind := if_neg fun hrev ↦ hne (h.reversed_iff.mp hrev).symm
    have hon : ∀ l ∈ L.rows, ∀ r ∈ R.rows,
        s.join.pairs compare (l ++ r) (l ++ r) = s.join.pairs compare l r := by
      intro l hl r hr
      simp only [Join.pairs, cell_append hL' hR hl hr, if_neg hne, if_pos ht.symm]
    rw [side, if_neg hne, side, if_pos ht.symm, Join.rowSet, hkind, RowSet.joined_congr _ hon]
    exact .refl _
  · have hne : s.join.right.table ≠ s.target := fun hc ↦ h.target_notMem (hc ▸ hr)
    have hkind : s.kind = s.join.kind.mirror := if_pos (h.reversed_iff.mpr ht)
    have hon : ∀ l ∈ L.rows, ∀ r ∈ R.rows,
        s.join.pairs compare (l ++ r) (l ++ r) = flip (s.join.pairs compare) l r := by
      intro l hl r hr
      simp only [flip, Join.pairs, cell_append hL' hR hl hr, if_neg hne, if_pos ht.symm]
    rw [side, if_pos ht.symm, side, if_neg hne, Join.rowSet, hkind, JoinKind.kept_mirror,
      RowSet.joined_congr _ hon]
    exact RowSet.joined_swap _ _ _ _

end Rows

end FromStep

/-! ## The main statement -/

/-- Every join of FROM has the rows that are meant, whatever is in the tables.  What stands in FROM
before it takes the place of the side that is there already, and the other side is the table that
comes in; the sides that keep their unmatched rows are those that the join itself says, whether or
not they have changed places. -/
theorem from_joins_as_meant (q : Query) (p : FromPlan) (h : q.fromPlan? = some p)
    (before : List FromStep) (s : FromStep) (after : List FromStep)
    (hsteps : p.steps = before ++ s :: after) (content : Table → Content V)
    (compare : Comparison → Option V → Option V → Truth) :
    s.join ∈ q.joins ∧ q.table? s.target = some s.table ∧
      (s.join.left.table = s.target ↔ s.join.right.table ≠ s.target) ∧
      (∀ d, Query.stepText d s = s.written.text d) ∧
      ∃ L R T : RowSet V,
        fromRowSet? compare content p.base (before.map FromStep.written) = some L ∧
        R = (content s.table).under s.target ∧ s.written.rowSet? compare L R = some T ∧
        T.Agrees (s.join.rowSet compare
          (s.side L R s.join.left.table) (s.side L R s.join.right.table)) := by
  obtain ⟨hjoin, htable, hfollows⟩ := (q.spans_of_fromPlan? h).steps before s after hsteps
  obtain ⟨L, hL, hcolumns⟩ := FromStep.exists_rowSet_written compare content before
    ((content p.base).under p.base.aliasName)
  refine ⟨hjoin, htable, ?_, fun d ↦ (s.text_written d).symm, L, _, _, hL, rfl,
    s.rowSet?_written compare _ _, hfollows.agrees compare ?_ ?_⟩
  · rcases hfollows.sides with ⟨hl, -, ht⟩ | ⟨hr, -, ht⟩
    · exact iff_of_false (fun hc ↦ hfollows.target_notMem (hc ▸ hl)) (not_not.mpr ht.symm)
    · exact iff_of_true ht.symm fun hc ↦ hfollows.target_notMem (hc ▸ hr)
  · intro c hc
    rcases hcolumns c hc with hc | hc
    · exact List.mem_cons.mpr (.inl (Content.table_of_mem_under hc))
    · exact List.mem_cons_of_mem _ hc
  · intro c hc
    exact Content.table_of_mem_under hc

/-- SQL's comparisons of numbers; with NULL they come to nothing. -/
def compareNumbers (c : Comparison) : Option Nat → Option Nat → Truth
  | some m, some n =>
    let holds : Bool :=
      match c with
      | .equal => m = n
      | .notEqual => m ≠ n
      | .greater => m > n
      | .less => m < n
      | .atLeast => m ≥ n
      | .atMost => m ≤ n
    if holds then .true else .false
  | _, _ => .unknown

/-- Orders come in by a join that they are the left side of. -/
def orderStep : FromStep where
  join := { id := "1", kind := .left, left := ⟨"o", "user"⟩, right := ⟨"u", "id"⟩ }
  table := { aliasName := "o", name := "orders" }
  reversed := true

/-- Payments come in likewise. -/
def paymentStep : FromStep where
  join := { id := "2", kind := .left, left := ⟨"p", "order"⟩, right := ⟨"o", "id"⟩ }
  table := { aliasName := "p", name := "payments" }
  reversed := true

def paymentPlan : FromPlan where
  base := { aliasName := "u", name := "users" }
  steps := [orderStep, paymentStep]
  stranded := []
  unreachable := []

def paymentReport : Query :=
  { tables := paymentPlan.tables
    joins := paymentPlan.steps.map FromStep.join }

/-- One of two users has an order, one of two orders has no user, and one of two payments is for no
order. -/
def paymentContent (t : Table) : Content Nat :=
  match t.name with
  | "users" => ⟨["id"], [fun _ ↦ some 1, fun _ ↦ some 2]⟩
  | "orders" =>
    ⟨["id", "user"],
      [fun c ↦ if c = "id" then some 10 else some 1, fun c ↦ if c = "id" then some 11 else none]⟩
  | "payments" => ⟨["order"], [fun _ ↦ some 11, fun _ ↦ some 12]⟩
  | _ => ⟨[], []⟩

/-- Payments keep their rows although they are written on the right: one has an order without a
user, one has no order.  Of the users and of the other order nothing is left. -/
theorem from_joins_as_meant_of_paymentReport :
    paymentStep.written.keyword = "RIGHT JOIN" ∧
      ∃ L R T : RowSet Nat, paymentStep.written.rowSet? compareNumbers L R = some T ∧
        T.Agrees (paymentStep.join.rowSet compareNumbers R L) ∧
        T.rows.map (·.map Prod.snd) =
          [[none, some 11, none, some 11], [none, none, none, some 12]] := by
  have hplan : paymentReport.fromPlan? = some paymentPlan := by decide +kernel
  obtain ⟨-, -, -, -, L, R, T, hL, hR, hT, hagrees⟩ :=
    from_joins_as_meant paymentReport paymentPlan hplan [orderStep] paymentStep [] rfl
      paymentContent compareNumbers
  refine ⟨rfl, L, R, T, hT, hagrees, ?_⟩
  have hrows :
      ((fromRowSet? compareNumbers paymentContent paymentPlan.base [orderStep.written]).bind
        fun L ↦ paymentStep.written.rowSet? compareNumbers L
          ((paymentContent paymentStep.table).under paymentStep.target)).map
        (fun T ↦ T.rows.map (·.map Prod.snd)) =
      some [[none, some 11, none, some 11], [none, none, none, some 12]] := by
    decide +kernel
  rw [List.map_singleton] at hL
  rw [hL, ← hR, Option.bind_some, hT] at hrows
  exact Option.some.inj hrows

end SelectBuilder
