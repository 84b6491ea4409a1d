import SelectBuilder.Proofs.Query.Alias
import SelectBuilder.Session.Ids

/-!
# Sources of ids

What has been drawn from a source, and what is still to come from it.  A session only knows the rest
of its source, so that an id is new is said of the rest: the id is not pending in it.  Numbered ids
never repeat, since the number can be read off behind the stem.
-/

namespace SelectBuilder.IdSource

/-- The source after some ids have been drawn. -/
def skip (s : IdSource) : Nat → IdSource
  | 0 => s
  | n + 1 => s.advance.skip n

@[simp] theorem skip_zero (s : IdSource) : s.skip 0 = s := rfl

theorem skip_skip (s : IdSource) (m n : Nat) : (s.skip m).skip n = s.skip (m + n) := by
  induction m generalizing s with
  | zero => rw [skip_zero, Nat.zero_add]
  | succ m ih => rw [skip, ih, Nat.succ_add, skip]

/-- What is drawn in two turns. -/
theorem take_add (s : IdSource) (m n : Nat) : s.take (m + n) = s.take m ++ (s.skip m).take n := by
  induction m generalizing s with
  | zero => rw [Nat.zero_add, take, List.nil_append, skip_zero]
  | succ m ih => rw [Nat.succ_add, take, take, ih, List.cons_append, skip]

/-! ## Ids that are still to come -/

/-- Whether an id is still to be drawn. -/
def Pending (s : IdSource) (i : String) : Prop := ∃ n, i ∈ s.take n

/-- Whether no id is drawn twice. -/
def Distinct (s : IdSource) : Prop := ∀ n, (s.take n).Nodup

theorem Pending.of_skip {s : IdSource} {m : Nat} {i : String} (h : (s.skip m).Pending i) :
    s.Pending i := by
  obtain ⟨n, h⟩ := h
  exact ⟨m + n, by rw [take_add]; exact List.mem_append_right _ h⟩

theorem Distinct.skip {s : IdSource} (h : s.Distinct) (m : Nat) : (s.skip m).Distinct := by
  intro n
  have hall := h (m + n)
  rw [take_add] at hall
  exact (List.nodup_append.mp hall).2.1

/-- What has been drawn does not come again. -/
theorem Distinct.not_pending {s : IdSource} (h : s.Distinct) {m : Nat} {i : String}
    (hi : i ∈ s.take m) : ¬ (s.skip m).Pending i := by
  rintro ⟨n, hn⟩
  have hall := h (m + n)
  rw [take_add] at hall
  exact (List.nodup_append.mp hall).2.2 i hi i hn rfl

/-! ## Numbered ids -/

theorem skip_numbered (stem : String) (next n : Nat) :
    (numbered stem next).skip n = numbered stem (next + n) := by
  induction n generalizing next with
  | zero => rfl
  | succ n ih => rw [skip, advance, ih, Nat.add_right_comm, Nat.add_assoc]

theorem take_numbered (stem : String) (next n : Nat) :
    (numbered stem next).take n = (List.range' next n).map (stem ++ toString ·) := by
  induction n generalizing next with
  | zero => rfl
  | succ n ih => rw [take, advance, ih, List.range'_succ, List.map_cons, id]

theorem distinct_numbered (stem : String) (next : Nat) : (numbered stem next).Distinct := by
  intro n
  rw [take_numbered]
  exact List.Nodup.map (append_toString_injective stem) List.nodup_range'

theorem pending_numbered_iff {stem : String} {next : Nat} {i : String} :
    (numbered stem next).Pending i ↔ ∃ m, next ≤ m ∧ i = stem ++ toString m := by
  simp only [Pending, take_numbered, List.mem_map, List.mem_range'_1]
  constructor
  · rintro ⟨n, m, ⟨hm, -⟩, rfl⟩
    exact ⟨m, hm, rfl⟩
  · rintro ⟨m, hm, rfl⟩
    exact ⟨m - next + 1, m, ⟨hm, by omega⟩, rfl⟩

end SelectBuilder.IdSource
