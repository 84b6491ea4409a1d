import Mathlib.Data.Multiset.Bind
import SelectBuilder.Proofs.Filter.Truth
import SelectBuilder.Query.Basic

/-!
# Rows and joins of rows

What a join computes, apart from how it is written: the pairs of rows that match, and with them the
rows without a match of the sides that keep them, filled up with NULL.

Rows are lists of named cells, so the two sides of a join can be put in either order and the result
is the same but for the order of its columns (`RowSet.joined_swap`).  Which side a condition looks
at is a matter of names as well: in a row of a join a column is found where it belongs, as long as
the other side has no column of that name (`Row.cell_append_left`, `Row.cell_append_right`).
-/

namespace SelectBuilder

universe u

variable {V : Type u}

/-! ## Rows -/

/-- The cells of a row by the columns that they stand in.  A cell without a value is NULL. -/
abbrev Row (V : Type u) := List (ColumnRef × Option V)

namespace Row

/-- What stands in a column; NULL where the row has no such column. -/
def cell (r : Row V) (c : ColumnRef) : Option V := (r.lookup c).join

/-- A row of NULLs. -/
def nulls (cs : List ColumnRef) : Row V := cs.map (·, none)

@[simp] theorem map_fst_nulls (cs : List ColumnRef) :
    (nulls cs : Row V).map Prod.fst = cs := by
  simp [nulls, Function.comp_def]

theorem lookup_eq_none {r : Row V} {c : ColumnRef} (h : c ∉ r.map Prod.fst) :
    r.lookup c = none := by
  rw [List.lookup_eq_none_iff]
  intro p hp
  exact bne_iff_ne.mpr fun hc ↦ h (hc ▸ List.mem_map_of_mem hp)

/-- A column that the right half does not have is looked up in the left one. -/
theorem cell_append_left {l r : Row V} {c : ColumnRef} (h : c ∉ r.map Prod.fst) :
    cell (l ++ r) c = cell l c := by
  rw [cell, cell, List.lookup_append, lookup_eq_none h, Option.or_none]

/-- A column that the left half does not have is looked up in the right one. -/
theorem cell_append_right {l r : Row V} {c : ColumnRef} (h : c ∉ l.map Prod.fst) :
    cell (l ++ r) c = cell r c := by
  rw [cell, cell, List.lookup_append, lookup_eq_none h, Option.none_or]

end Row

/-- Rows over the same columns. -/
structure RowSet (V : Type u) where
  columns : List ColumnRef
  rows : List (Row V)
  map_fst : ∀ r ∈ rows, r.map Prod.fst = columns

/-- What is in a table: its columns, and rows that have a value or NULL in each of them. -/
structure Content (V : Type u) where
  columns : List String
  rows : List (String → Option V)

/-- The rows of a table under an alias. -/
def Content.under (t : Content V) (aliasName : String) : RowSet V where
  columns := t.columns.map (⟨aliasName, ·⟩)
  rows := t.rows.map fun r ↦ t.columns.map fun c ↦ (⟨aliasName, c⟩, r c)
  map_fst := by
    intro r hr
    obtain ⟨f, -, rfl⟩ := List.mem_map.mp hr
    simp [Function.comp_def]

theorem Content.table_of_mem_under {t : Content V} {a : String} {c : ColumnRef}
    (h : c ∈ (t.under a).columns) : c.table = a := by
  obtain ⟨_, -, rfl⟩ := List.mem_map.mp h
  rfl

namespace RowSet

/-! ## The same rows -/

/-- Rows without regard to their order, each of them without regard to that of its cells. -/
def bag (rs : List (Row V)) : Multiset (Multiset (ColumnRef × Option V)) :=
  (rs : Multiset (Row V)).map (↑)

theorem bag_append (rs ss : List (Row V)) : bag (rs ++ ss) = bag rs + bag ss := by
  rw [bag, ← Multiset.coe_add, Multiset.map_add]
  rfl

/-- The same rows, each of them as often, up to the order of the columns. -/
structure Agrees (S T : RowSet V) : Prop where
  columns : S.columns.Perm T.columns
  rows : bag S.rows = bag T.rows

theorem Agrees.refl (S : RowSet V) : S.Agrees S := ⟨.refl _, rfl⟩

end RowSet

/-! ## Joins -/

/-- The sides of a join that keep their rows without a match. -/
structure Sides where
  left : Bool
  right : Bool
deriving DecidableEq, Repr

/-- The sides with their places changed. -/
def Sides.swap (k : Sides) : Sides := ⟨k.right, k.left⟩

namespace RowSet

/-- The pairs of rows that match. -/
def matched (on : Row V → Row V → Bool) (L R : List (Row V)) : List (Row V) :=
  ((L ×ˢ R).filter fun p ↦ on p.1 p.2).map fun p ↦ p.1 ++ p.2

/-- The rows that match none of some others. -/
def unmatched (on : Row V → Row V → Bool) (L R : List (Row V)) : List (Row V) :=
  L.filter fun l ↦ R.all fun r ↦ !on l r

/-- The join of two sets of rows: the pairs that match, and the rows without a match of the sides
that keep them, with NULL in the columns of the other side. -/
def joined (kept : Sides) (on : Row V → Row V → Bool) (L R : RowSet V) : RowSet V where
  columns := L.columns ++ R.columns
  rows :=
    matched on L.rows R.rows ++
      ((if kept.left then (unmatched on L.rows R.rows).map (· ++ Row.nulls R.columns) else []) ++
        if kept.right then
          (unmatched (flip on) R.rows L.rows).map (Row.nulls L.columns ++ ·)
        else [])
  map_fst := by
    intro r hr
    simp only [List.mem_append] at hr
    rcases hr with hr | hr | hr
    · obtain ⟨⟨l, r⟩, hp, rfl⟩ := List.mem_map.mp hr
      obtain ⟨hl, hr⟩ := List.mem_product.mp (List.mem_of_mem_filter hp)
      simp [L.map_fst l hl, R.map_fst r hr]
    · split at hr
      · obtain ⟨l, hl, rfl⟩ := List.mem_map.mp hr
        simp [L.map_fst l (List.mem_of_mem_filter hl)]
      · cases hr
    · split at hr
      · obtain ⟨s, hs, rfl⟩ := List.mem_map.mp hr
        simp [R.map_fst s (List.mem_of_mem_filter hs)]
      · cases hr

theorem matched_congr {on on' : Row V → Row V → Bool} {L R : List (Row V)}
    (h : ∀ l ∈ L, ∀ r ∈ R, on l r = on' l r) : matched on L R = matched on' L R := by
  refine congrArg _ (List.filter_congr ?_)
  rintro ⟨l, r⟩ hp
  obtain ⟨hl, hr⟩ := List.mem_product.mp hp
  exact h l hl r hr

theorem unmatched_congr {on on' : Row V → Row V → Bool} {L R : List (Row V)}
    (h : ∀ l ∈ L, ∀ r ∈ R, on l r = on' l r) : unmatched on L R = unmatched on' L R := by
  apply List.filter_congr
  intro l hl
  rw [Bool.eq_iff_iff, List.all_eq_true, List.all_eq_true]
  exact forall₂_congr fun r hr ↦ by rw [h l hl r hr]

/-- Only what the condition says of rows of the two sides matters. -/
theorem joined_congr {on on' : Row V → Row V → Bool} {L R : RowSet V} (kept : Sides)
    (h : ∀ l ∈ L.rows, ∀ r ∈ R.rows, on l r = on' l r) :
    joined kept on L R = joined kept on' L R := by
  have hflip : unmatched (flip on) R.rows L.rows = unmatched (flip on') R.rows L.rows :=
    unmatched_congr fun r hr l hl ↦ h l hl r hr
  simp only [joined, matched_congr h, unmatched_congr h, hflip]

/-! ## Changing places -/

theorem bag_matched (on : Row V → Row V → Bool) (L R : List (Row V)) :
    bag (matched on L R) =
      (((L : Multiset (Row V)) ×ˢ (R : Multiset (Row V))).filter fun p ↦ on p.1 p.2).map
        fun p ↦ ((p.1 ++ p.2 : Row V) : Multiset (ColumnRef × Option V)) := by
  rw [Multiset.coe_product, Multiset.filter_coe, bag, matched]
  simp [Function.comp_def]

/-- The pairs that match are the same, whichever side comes first. -/
theorem bag_matched_comm (on : Row V → Row V → Bool) (L R : List (Row V)) :
    bag (matched (flip on) R L) = bag (matched on L R) := by
  rw [bag_matched, bag_matched, ← Multiset.map_swap_product, Multiset.filter_map,
    Multiset.map_map]
  refine Multiset.map_congr rfl fun p _ ↦ ?_
  exact Multiset.coe_eq_coe.mpr List.perm_append_comm

/-- NULLs may stand on either side of the rows that are filled up with them. -/
theorem bag_filled_comm (keep : Bool) (nulls : Row V) (rs : List (Row V)) :
    bag (if keep then rs.map (· ++ nulls) else []) =
      bag (if keep then rs.map (nulls ++ ·) else []) := by
  cases keep
  · rfl
  · simp only [bag, if_true, ← Multiset.map_coe, Multiset.map_map]
    refine Multiset.map_congr rfl fun r _ ↦ ?_
    exact Multiset.coe_eq_coe.mpr List.perm_append_comm

/-- A join whose sides change places has the same rows, as long as it is the same sides that keep
theirs. -/
theorem joined_swap (kept : Sides) (on : Row V → Row V → Bool) (L R : RowSet V) :
    (joined kept.swap (flip on) R L).Agrees (joined kept on L R) := by
  refine ⟨List.perm_append_comm, ?_⟩
  simp only [joined, bag_append]
  rw [bag_matched_comm, bag_filled_comm kept.left, add_comm (bag (ite (kept.left = true) _ _))]
  exact congrArg _ (congrArg (· + _) (bag_filled_comm kept.right _ _))

end RowSet

end SelectBuilder
