import SelectBuilder.Proofs.Query.Evolution

/-!
# Parts of a query in another order

Moving a part takes it out of its clause and puts it back at an index, among the parts that are left
without it.  So where ids are distinct, a clause is its other parts with the moved one put in
somewhere (`exists_eq_insertIdx`), and a move is the same with another place (`moved?_insertIdx`).
That the parts stay the same, that the others keep their order, and that the way back is open, is
read off this form.
-/

namespace SelectBuilder

/-- An item is put between what stands before its index and what stands behind it. -/
theorem insertIdx_eq_append {α : Type} {l : List α} {n : Nat} (h : n ≤ l.length) (a : α) :
    l.insertIdx n a = l.take n ++ a :: l.drop n := by
  induction l generalizing n with
  | nil =>
    obtain rfl := Nat.le_zero.mp h
    rfl
  | cons b l ih =>
    cases n with
    | zero => rfl
    | succ n => rw [List.insertIdx_succ_cons, ih (Nat.le_of_succ_le_succ h)]; rfl

namespace Identified

variable {α : Type} [Identified α] {items rest : List α} {i : String} {index : Int} {a : α}
  {n : Nat}

/-! ## An item among others -/

theorem ne_of_mem_rest (hrest : i ∉ rest.map id) : ∀ b ∈ rest, id b ≠ i := by
  rintro b hb rfl
  exact hrest (List.mem_map_of_mem hb)

/-- Where ids are distinct, the item with an id stands among others that do not have it. -/
theorem exists_eq_insertIdx (hitems : (items.map id).Nodup) (hi : i ∈ items.map id) :
    ∃ (rest : List α) (n : Nat) (a : α), items = rest.insertIdx n a ∧ n ≤ rest.length ∧
      id a = i ∧ i ∉ rest.map id := by
  obtain ⟨a, ha, rfl⟩ := List.mem_map.mp hi
  obtain ⟨before, after, rfl⟩ := List.append_of_mem ha
  rw [List.map_append, List.map_cons, List.nodup_middle, List.nodup_cons, ← List.map_append]
    at hitems
  refine ⟨before ++ after, before.length, a, ?_, by simp, rfl, hitems.1⟩
  rw [insertIdx_eq_append (by simp), List.take_left, List.drop_left]

theorem find?_insertIdx (hn : n ≤ rest.length) (ha : id a = i) (hrest : i ∉ rest.map id) :
    (rest.insertIdx n a).find? (id · = i) = some a := by
  rw [insertIdx_eq_append hn, List.find?_eq_some_iff_append]
  refine ⟨by simpa using ha, _, _, rfl, ?_⟩
  intro b hb
  simpa using ne_of_mem_rest hrest b (List.mem_of_mem_take hb)

theorem eraseP_insertIdx (hn : n ≤ rest.length) (ha : id a = i) (hrest : i ∉ rest.map id) :
    (rest.insertIdx n a).eraseP (id · = i) = rest := by
  have hbefore : ∀ b ∈ rest.take n, ¬ decide (id b = i) = true := by
    intro b hb
    simpa using ne_of_mem_rest hrest b (List.mem_of_mem_take hb)
  rw [insertIdx_eq_append hn, List.eraseP_append_right _ hbefore,
    List.eraseP_cons_of_pos (by simpa using ha), List.take_append_drop]

theorem filter_insertIdx (hn : n ≤ rest.length) (ha : id a = i) :
    (rest.insertIdx n a).filter (id · ≠ i) = rest.filter (id · ≠ i) := by
  rw [insertIdx_eq_append hn, List.filter_append, List.filter_cons_of_neg (by simpa using ha),
    ← List.filter_append, List.take_append_drop]

theorem eq_of_getElem?_insertIdx (hrest : i ∉ rest.map id) {k : Nat}
    (hk : ((rest.insertIdx n a)[k]?).map id = some i) : k = n := by
  obtain ⟨b, hb, hid⟩ := Option.map_eq_some_iff.mp hk
  by_contra hne
  refine ne_of_mem_rest hrest b ?_ hid
  simp only [List.getElem?_insertIdx, if_neg hne] at hb
  split at hb
  · exact List.mem_of_getElem? hb
  · exact List.mem_of_getElem? hb

/-! ## Moving -/

theorem moved?_insertIdx (hn : n ≤ rest.length) (ha : id a = i) (hrest : i ∉ rest.map id)
    (index : Int) :
    moved? (rest.insertIdx n a) i index = some (rest.insertIdx (clamp index rest.length) a) := by
  rw [moved?, find?_insertIdx hn ha hrest]
  simp only [eraseP_insertIdx hn ha hrest]

theorem moved?_eq_none (hi : i ∉ items.map id) : moved? items i index = none := by
  have hfind : items.find? (id · = i) = none := by
    rw [List.find?_eq_none]
    intro b hb
    simpa using ne_of_mem_rest hi b hb
  rw [moved?, hfind]

/-- The list `items'` holds the items of `items` in the same order, but for the one with an id: that
one stands at an index, or at the end of the list that lies in the direction of the index. -/
structure Reorders (i : String) (index : Int) (items items' : List α) : Prop where
  perm : items'.Perm items
  place : ∃ a ∈ items, id a = i ∧
    ∃ k : Nat, (k : Int) = max 0 (min index (items.length - 1)) ∧ items'[k]? = some a
  others : items'.filter (id · ≠ i) = items.filter (id · ≠ i)

/-- Moving an item reorders the list, and moving it back to where it was undoes that. -/
theorem exists_moved? (hitems : (items.map id).Nodup) (hi : i ∈ items.map id) (index : Int) :
    ∃ items', moved? items i index = some items' ∧ Reorders i index items items' ∧
      ∀ k : Nat, (items[k]?).map id = some i → moved? items' i k = some items := by
  obtain ⟨rest, n, a, rfl, hn, ha, hrest⟩ := exists_eq_insertIdx hitems hi
  have hclamp : clamp index rest.length ≤ rest.length := Nat.min_le_right _ _
  have hmoved := moved?_insertIdx hn ha hrest index
  refine ⟨_, hmoved, ⟨perm_of_moved? hmoved, ?_, ?_⟩, ?_⟩
  · refine ⟨a, (List.mem_insertIdx hn).mpr (.inl rfl), ha, clamp index rest.length, ?_, ?_⟩
    · -- The bound is that of the list without the item.
      rw [List.length_insertIdx_of_le_length hn, clamp]
      omega
    · rw [List.getElem?_insertIdx_self, if_pos hclamp]
  · rw [filter_insertIdx hclamp ha, filter_insertIdx hn ha]
  · intro k hk
    obtain rfl := eq_of_getElem?_insertIdx hrest hk
    rw [moved?_insertIdx hclamp ha hrest, clamp, Int.toNat_natCast, Nat.min_eq_left hn]

end Identified

namespace Query

open Identified (Reorders)

/-- A move of a selected column or of a sort key changes the order of its clause and nothing else:
the part that is moved stands at the index, as far as the clause reaches, and the others follow each
other as before.  It can be moved back.  An id that is not there moves nothing. -/
theorem moves_reorder_clause (q : Query) (i : String) (index : Int) :
    ((q.columns.map Selection.id).Nodup → i ∈ q.columns.map Selection.id →
        ∃ columns, q.moveColumn i index = some { q with columns } ∧
          Reorders i index q.columns columns ∧
          ∀ k : Nat, (q.columns[k]?).map Selection.id = some i →
            moveColumn { q with columns } i k = some q) ∧
      (i ∉ q.columns.map Selection.id → q.moveColumn i index = none) ∧
      ((q.sorting.map SortKey.id).Nodup → i ∈ q.sorting.map SortKey.id →
        ∃ sorting, q.moveSorting i index = some { q with sorting } ∧
          Reorders i index q.sorting sorting ∧
          ∀ k : Nat, (q.sorting[k]?).map SortKey.id = some i →
            moveSorting { q with sorting } i k = some q) ∧
      (i ∉ q.sorting.map SortKey.id → q.moveSorting i index = none) := by
  refine ⟨?_, ?_, ?_, ?_⟩
  · intro hcolumns hi
    obtain ⟨columns, hmoved, hreorders, hback⟩ := Identified.exists_moved? hcolumns hi index
    refine ⟨columns, by rw [moveColumn, hmoved, Option.map_some], hreorders, ?_⟩
    intro k hk
    rw [moveColumn, hback k hk, Option.map_some]
  · intro hi
    rw [moveColumn, Identified.moved?_eq_none hi, Option.map_none]
  · intro hsorting hi
    obtain ⟨sorting, hmoved, hreorders, hback⟩ := Identified.exists_moved? hsorting hi index
    refine ⟨sorting, by rw [moveSorting, hmoved, Option.map_some], hreorders, ?_⟩
    intro k hk
    rw [moveSorting, hback k hk, Option.map_some]
  · intro hi
    rw [moveSorting, Identified.moved?_eq_none hi, Option.map_none]

/-- Guests by their nights, with the columns of a first draft. -/
def guestReport : Query where
  tables := [{ aliasName := "g", name := "guests" }]
  columns := [
    { id := "3", source := ⟨"g", "name"⟩ },
    { id := "1", source := ⟨"g", "room"⟩ },
    { id := "7", source := ⟨"g", "nights"⟩, aggregate := some .sum }]
  sorting := [{ id := "3", source := ⟨"g", "nights"⟩, direction := .descending }]

/-- An index far beyond the end stands for the end of the clause. -/
theorem moves_reorder_guestReport :
    (guestReport.columns.map Selection.id).Nodup ∧ "3" ∈ guestReport.columns.map Selection.id ∧
      ∃ columns, guestReport.moveColumn "3" 40 = some { guestReport with columns } ∧
        columns.map Selection.id = ["1", "7", "3"] ∧
        moveColumn { guestReport with columns } "3" 0 = some guestReport ∧
        guestReport.moveSorting "1" 40 = none := by
  obtain ⟨hcolumns, -, -, -⟩ := moves_reorder_clause guestReport "3" 40
  obtain ⟨-, -, -, hsorting⟩ := moves_reorder_clause guestReport "1" 40
  have hnodup : (guestReport.columns.map Selection.id).Nodup := by decide
  have hmem : "3" ∈ guestReport.columns.map Selection.id := by decide
  obtain ⟨columns, hmoved, -, hback⟩ := hcolumns hnodup hmem
  refine ⟨hnodup, hmem, columns, hmoved, ?_, hback 0 rfl, hsorting (by decide)⟩
  cases hmoved
  decide

end Query

end SelectBuilder
