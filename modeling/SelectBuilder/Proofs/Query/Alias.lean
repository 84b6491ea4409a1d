import Mathlib.Data.List.Dedup
import Mathlib.Data.List.Nodup
import Mathlib.Data.List.Perm.Subperm
import SelectBuilder.Query.Edit

/-!
# An alias that is free

The search for an alias goes through numbered ones and gives up after as many numbers as there are
aliases in use, plus one.  It need not give up: the numbered aliases are all different, so they
cannot all be in use.

With the lower case of the name in front of them they are the candidates.  The alias that a table
gets is the first candidate that is free, so a search that never gives up finds the same one
(`finds_allocate`), and the candidates before it are so many different aliases in use.  A table that
has an alias of its own, not in use, keeps it (`Table.AddedAs`).
-/

namespace SelectBuilder

theorem append_toString_injective (stem : String) :
    Function.Injective fun k : Nat ↦ stem ++ toString k := by
  intro j k h
  have hchars := congrArg String.toList h
  simp only [String.toList_append, Nat.toString_eq_ofList_toDigits, String.toList_ofList,
    List.append_cancel_left_eq] at hchars
  have hvalue := congrArg (Nat.ofDigitChars 10 · 0) hchars
  simpa only [Nat.ofDigitChars_ten_toDigits] using hvalue

namespace Alias

theorem numbered_injective (base : String) : Function.Injective (numbered base) :=
  append_toString_injective (base ++ "_")

/-- The search ends at a numbered alias.  All before it are in use, and it is not, unless it is the
last one that the search comes to. -/
theorem firstFree_eq_numbered (base : String) (existing : List String) (fuel k : Nat) :
    ∃ j, k ≤ j ∧ firstFree base existing fuel k = numbered base j ∧
      (∀ i, k ≤ i → i < j → numbered base i ∈ existing) ∧
      (numbered base j ∈ existing → j = k + fuel) := by
  induction fuel generalizing k with
  | zero => exact ⟨k, Nat.le_refl k, rfl, fun i hi hik ↦ by omega, fun _ ↦ rfl⟩
  | succ fuel ih =>
    rw [firstFree]
    split
    next hk =>
      obtain ⟨j, hj, heq, hused, hlast⟩ := ih (k + 1)
      refine ⟨j, by omega, heq, fun i hi hij ↦ ?_, fun hmem ↦ by have := hlast hmem; omega⟩
      rcases Nat.eq_or_lt_of_le hi with rfl | hi
      · exact hk
      · exact hused i hi hij
    next hk => exact ⟨k, Nat.le_refl k, rfl, fun i hi hik ↦ by omega, fun hmem ↦ absurd hmem hk⟩

/-- Different names that are all in use are no more than the different names in use. -/
theorem le_length_dedup {f : Nat → String} (hf : Function.Injective f) {existing : List String}
    {n : Nat} (h : ∀ j < n, f j ∈ existing) : n ≤ existing.dedup.length := by
  have hnodup : ((List.range n).map f).Nodup := List.Nodup.map hf List.nodup_range
  have hsubset : (List.range n).map f ⊆ existing.dedup := by
    intro a ha
    obtain ⟨j, hj, rfl⟩ := List.mem_map.mp ha
    exact List.mem_dedup.mpr (h j (List.mem_range.mp hj))
  have hlength := (hnodup.subperm hsubset).length_le
  rwa [List.length_map, List.length_range] at hlength

/-- So many numbered aliases are not all in use. -/
theorem exists_numbered_not_mem (base : String) (existing : List String) (k : Nat) :
    ∃ i, k ≤ i ∧ i ≤ k + existing.length ∧ numbered base i ∉ existing := by
  by_contra h
  push Not at h
  have hinjective : Function.Injective fun j ↦ numbered base (k + j) :=
    (numbered_injective base).comp fun _ _ h ↦ Nat.add_left_cancel h
  have hle : existing.length + 1 ≤ existing.dedup.length :=
    le_length_dedup hinjective fun j hj ↦ h (k + j) (by omega) (by omega)
  have hdedup := (List.dedup_sublist existing).length_le
  omega

theorem firstFree_not_mem (base : String) (existing : List String) (k : Nat) :
    firstFree base existing existing.length k ∉ existing := by
  obtain ⟨j, hj, heq, hused, hlast⟩ := firstFree_eq_numbered base existing existing.length k
  obtain ⟨i, hki, hi, hfree⟩ := exists_numbered_not_mem base existing k
  rw [heq]
  intro hmem
  have hjk := hlast hmem
  rcases Nat.eq_or_lt_of_le (show i ≤ j by omega) with rfl | hij
  · exact hfree hmem
  · exact hfree (hused i hki hij)

/-- The alias that a table gets is not in use. -/
theorem allocate_not_mem (name : String) (existing : List String) :
    allocate name existing ∉ existing := by
  rw [allocate]
  split
  next => exact firstFree_not_mem _ _ _
  next h => exact h

/-! ## Candidates -/

/-- The aliases that come into question for a table, one after the other. -/
def candidate (name : String) : Nat → String
  | 0 => Text.lower name
  | k + 1 => numbered (Text.lower name) (k + 1)

theorem candidate_of_pos (name : String) {k : Nat} (hk : 0 < k) :
    candidate name k = numbered (Text.lower name) k := by
  cases k with
  | zero => exact absurd hk (Nat.lt_irrefl 0)
  | succ k => rfl

theorem numbered_ne (base : String) (k : Nat) : numbered base k ≠ base := by
  intro h
  have hlength := congrArg (fun s : String ↦ s.toList.length) h
  simp only [numbered, String.toList_append, List.length_append] at hlength
  have hmark : "_".toList.length = 1 := rfl
  omega

theorem candidate_injective (name : String) : Function.Injective (candidate name) := by
  rintro (_ | j) (_ | k) h
  · rfl
  · exact absurd h.symm (numbered_ne _ _)
  · exact absurd h (numbered_ne _ _)
  · exact numbered_injective _ h

/-- A search that tries one candidate after another, from the `k`-th on, until one is free: it finds
`a` at the `n`-th try. -/
inductive Finds (name : String) (existing : List String) : Nat → Nat → String → Prop where
  | free {k : Nat} (h : candidate name k ∉ existing) :
    Finds name existing k 1 (candidate name k)
  | taken {k n : Nat} {a : String} (h : candidate name k ∈ existing)
      (hrest : Finds name existing (k + 1) n a) : Finds name existing k (n + 1) a

variable {name : String} {existing : List String}

theorem finds_of_taken {k n : Nat} (htaken : ∀ j, k ≤ j → j < k + n → candidate name j ∈ existing)
    (hfree : candidate name (k + n) ∉ existing) :
    Finds name existing k (n + 1) (candidate name (k + n)) := by
  induction n generalizing k with
  | zero => exact .free hfree
  | succ n ih =>
    have hshift : k + (n + 1) = k + 1 + n := by omega
    rw [hshift] at hfree ⊢
    refine .taken (htaken k (Nat.le_refl k) (by omega)) (ih ?_ hfree)
    intro j hj hjn
    exact htaken j (by omega) (by omega)

/-- The alias of a table is the first candidate that is free. -/
theorem exists_candidate (name : String) (existing : List String) :
    ∃ k, allocate name existing = candidate name k ∧ ∀ j < k, candidate name j ∈ existing := by
  by_cases hbase : Text.lower name ∈ existing
  · obtain ⟨k, hk, heq, htaken, -⟩ :=
      firstFree_eq_numbered (Text.lower name) existing existing.length 1
    refine ⟨k, ?_, ?_⟩
    · rw [allocate, if_pos hbase, heq, candidate_of_pos name hk]
    · intro j hj
      rcases Nat.eq_zero_or_pos j with rfl | hpos
      · exact hbase
      · rw [candidate_of_pos name hpos]
        exact htaken j hpos hj
  · exact ⟨0, allocate_of_not_mem hbase, fun j hj ↦ absurd hj (Nat.not_lt_zero j)⟩

/-- The search ends with the alias of the table, after one try more at most than there are different
aliases in use. -/
theorem finds_allocate (name : String) (existing : List String) :
    ∃ k, k ≤ existing.dedup.length ∧ Finds name existing 0 (k + 1) (allocate name existing) ∧
      allocate name existing = candidate name k ∧ ∀ j < k, candidate name j ∈ existing := by
  obtain ⟨k, heq, htaken⟩ := exists_candidate name existing
  refine ⟨k, le_length_dedup (candidate_injective name) htaken, ?_, heq, htaken⟩
  have hfree := allocate_not_mem name existing
  rw [heq] at hfree ⊢
  have hfinds : Finds name existing 0 (k + 1) (candidate name (0 + k)) :=
    finds_of_taken (fun j _ hj ↦ htaken j (by omega)) (by rwa [Nat.zero_add])
  rwa [Nat.zero_add] at hfinds

end Alias

/-! ## Tables under new aliases -/

/-- The table `t'` is `t` as it is added to tables with some aliases. -/
structure Table.AddedAs (existing : List String) (t t' : Table) : Prop where
  table : t' = { t with aliasName := t'.aliasName }
  new : t'.aliasName ∉ existing
  kept : t.aliasName ≠ "" → t.aliasName ∉ existing → t'.aliasName = t.aliasName
  found : t.aliasName = "" ∨ t.aliasName ∈ existing →
    t'.aliasName = Alias.allocate t.name existing

/-- A table that is added comes last, under an alias that is not in use. -/
theorem Query.exists_addTable (q : Query) (t : Table) :
    ∃ t', q.addTable t = { q with tables := q.tables ++ [t'] } ∧ t.AddedAs q.aliases t' := by
  by_cases h : t.aliasName = "" ∨ t.aliasName ∈ q.aliases
  · refine ⟨{ t with aliasName := Alias.allocate t.name q.aliases }, ?_, ?_⟩
    · rw [addTable, if_pos (by simpa using h)]
    · refine ⟨rfl, Alias.allocate_not_mem _ _, ?_, fun _ ↦ rfl⟩
      intro hne hnew
      exact absurd h (not_or.mpr ⟨hne, hnew⟩)
  · refine ⟨t, ?_, rfl, (not_or.mp h).2, fun _ _ ↦ rfl, fun htaken ↦ absurd htaken h⟩
    rw [addTable, if_neg (by simpa using h)]

end SelectBuilder
