import Mathlib.Data.List.Basic
import SelectBuilder.Query.FromPlan

/-!
# How FROM grows

The plan of the FROM clause is worked out in rounds over the joins that are still waiting, and
within a round the aliases in FROM grow from join to join.  This file is about the steps that come
out, whichever round they come from, and for any look-up of tables by alias:

* `FromStep.Follows` : a step brings in one side of its join while just the other side is in FROM;
* `Grows` : the steps form a chain, each of them following what the ones before it have brought in.

Chains can be put one behind the other (`Grows.append`), which is how those of the rounds become the
one of the plan, and no alias comes in twice along a chain (`Grows.nodup`).
-/

namespace SelectBuilder

open FromPlan

/-! ## One step -/

/-- A step brings in one side of its join while just the other one is in FROM. -/
structure FromStep.Follows (s : FromStep) (reached : List String) : Prop where
  sides : s.join.left.table ∈ reached ∧ s.join.right.table ∉ reached ∧
        s.target = s.join.right.table ∨
      s.join.right.table ∈ reached ∧ s.join.left.table ∉ reached ∧
        s.target = s.join.left.table
  reversed_iff : s.reversed ↔ s.target = s.join.left.table

/-- Whether a join has no side among some aliases. -/
def Join.isApart (j : Join) (reached : List String) : Bool :=
  j.left.table ∉ reached && j.right.table ∉ reached

@[simp] theorem Join.isApart_iff {j : Join} {reached : List String} :
    j.isApart reached ↔ j.left.table ∉ reached ∧ j.right.table ∉ reached := by
  simp [Join.isApart]

theorem Join.isApart_congr {j : Join} {R S : List String} (h : ∀ a, a ∈ R ↔ a ∈ S) :
    j.isApart R = j.isApart S := by
  simp [Join.isApart, h]

/-- A join with a side in FROM stays one with a side in FROM. -/
theorem Join.not_isApart_mono {j : Join} {R S : List String} (h : j.isApart R = false)
    (hRS : ∀ a ∈ R, a ∈ S) : j.isApart S = false := by
  rw [Bool.eq_false_iff, ne_eq, Join.isApart_iff, not_and_or, not_not, not_not] at h ⊢
  exact h.imp (hRS _) (hRS _)

namespace FromPlan

theorem standing_eq_waiting_iff {R : List String} {j : Join} :
    standing R j = .waiting ↔ j.isApart R := by
  by_cases hl : j.left.table ∈ R <;> by_cases hr : j.right.table ∈ R <;> simp [standing, hl, hr]

theorem standing_eq_settled_iff {R : List String} {j : Join} :
    standing R j = .settled ↔ j.left.table ∈ R ∧ j.right.table ∈ R := by
  by_cases hl : j.left.table ∈ R <;> by_cases hr : j.right.table ∈ R <;> simp [standing, hl, hr]

/-- A join that brings in an alias has just the other side in FROM, and says which side it was. -/
theorem standing_eq_brings {R : List String} {j : Join} {a : String} {reversed : Bool}
    (h : standing R j = .brings a reversed) :
    j.left.table ∈ R ∧ j.right.table ∉ R ∧ a = j.right.table ∧ reversed = false ∨
      j.right.table ∈ R ∧ j.left.table ∉ R ∧ a = j.left.table ∧ reversed = true := by
  by_cases hl : j.left.table ∈ R <;> by_cases hr : j.right.table ∈ R <;>
    simp [standing, hl, hr] at h ⊢
  · exact ⟨h.1.symm, h.2⟩
  · exact ⟨h.1.symm, h.2⟩

/-- What the join of a step brings in is what the step follows FROM by. -/
theorem follows_of_brings {R : List String} {j : Join} {t : Table} {reversed : Bool}
    (h : standing R j = .brings t.aliasName reversed) :
    FromStep.Follows { join := j, table := t, reversed } R := by
  rcases standing_eq_brings h with ⟨hl, hr, ht, hrev⟩ | ⟨hr, hl, ht, hrev⟩
  · refine ⟨.inl ⟨hl, hr, ht⟩, ?_⟩
    have hne : t.aliasName ≠ j.left.table := fun hc ↦ hr (by rw [← ht, hc]; exact hl)
    simp [FromStep.target, hrev, hne]
  · exact ⟨.inr ⟨hr, hl, ht⟩, by simp [FromStep.target, hrev, ht]⟩

end FromPlan

namespace FromStep

theorem Follows.congr {s : FromStep} {R S : List String} (hRS : ∀ a, a ∈ R ↔ a ∈ S)
    (h : s.Follows R) : s.Follows S :=
  ⟨by simpa only [hRS] using h.sides, h.reversed_iff⟩

/-- What a step brings in was not in FROM before. -/
theorem Follows.target_notMem {s : FromStep} {R : List String} (h : s.Follows R) :
    s.target ∉ R := by
  rcases h.sides with ⟨-, hr, ht⟩ | ⟨-, hl, ht⟩
  · rwa [ht]
  · rwa [ht]

/-- Once a step is taken, both sides of its join are in FROM. -/
theorem Follows.sides_mem {s : FromStep} {R : List String} (h : s.Follows R) :
    s.join.left.table ∈ s.target :: R ∧ s.join.right.table ∈ s.target :: R := by
  rcases h.sides with ⟨hl, -, ht⟩ | ⟨hr, -, ht⟩
  · exact ⟨List.mem_cons_of_mem _ hl, by simp [ht]⟩
  · exact ⟨by simp [ht], List.mem_cons_of_mem _ hr⟩

theorem Follows.not_isApart {s : FromStep} {R : List String} (h : s.Follows R) :
    s.join.isApart (s.target :: R) = false := by
  simp [Join.isApart, h.sides_mem.1]

end FromStep

namespace FromPlan

/-! ## A chain of steps -/

/-- Steps that can be taken one after the other from some aliases in FROM, each by a join of a
list and each with the table that its alias is looked up as. -/
inductive Grows (table? : String → Option Table) (js : List Join) :
    List String → List FromStep → Prop where
  | nil {R : List String} : Grows table? js R []
  | cons {R : List String} {s : FromStep} {ss : List FromStep} :
      s.join ∈ js → table? s.target = some s.table → s.Follows R →
      Grows table? js (s.target :: R) ss → Grows table? js R (s :: ss)

/-- The aliases in FROM after some steps. -/
def reachedBy (R : List String) (ss : List FromStep) : List String :=
  ss.map FromStep.target ++ R

section Chain

variable {table? : String → Option Table} {js : List Join}

@[simp] theorem reachedBy_nil (R : List String) : reachedBy R [] = R := rfl

theorem mem_reachedBy {R : List String} {ss : List FromStep} {a : String} :
    a ∈ reachedBy R ss ↔ a ∈ ss.map FromStep.target ∨ a ∈ R := by
  simp [reachedBy]

theorem mem_reachedBy_cons {R : List String} {s : FromStep} {ss : List FromStep} {a : String} :
    a ∈ reachedBy R (s :: ss) ↔ a ∈ reachedBy (s.target :: R) ss := by
  simp only [mem_reachedBy, List.map_cons, List.mem_cons]
  tauto

theorem mem_reachedBy_append {R : List String} {ss ts : List FromStep} {a : String} :
    a ∈ reachedBy R (ss ++ ts) ↔ a ∈ reachedBy (reachedBy R ss) ts := by
  simp only [mem_reachedBy, List.map_append, List.mem_append]
  tauto

theorem subset_reachedBy {R : List String} {ss : List FromStep} {a : String} (h : a ∈ R) :
    a ∈ reachedBy R ss :=
  mem_reachedBy.mpr (.inr h)

/-- More joins to choose from do no harm. -/
theorem Grows.mono {js' : List Join} (hjs : ∀ j ∈ js, j ∈ js') {R : List String}
    {ss : List FromStep} (h : Grows table? js R ss) : Grows table? js' R ss := by
  induction h with
  | nil => exact .nil
  | cons hj ht hf _ ih => exact .cons (hjs _ hj) ht hf ih

/-- The order in which the aliases in FROM are listed does not matter. -/
theorem Grows.congr {R S : List String} {ss : List FromStep} (hRS : ∀ a, a ∈ R ↔ a ∈ S)
    (h : Grows table? js R ss) : Grows table? js S ss := by
  induction h generalizing S with
  | nil => exact .nil
  | cons hj ht hf _ ih =>
    refine .cons hj ht (hf.congr hRS) (ih fun a ↦ ?_)
    simp only [List.mem_cons, hRS]

/-- A chain goes on where another one ends. -/
theorem Grows.append {R : List String} {ss ts : List FromStep} (h : Grows table? js R ss)
    (h' : Grows table? js (reachedBy R ss) ts) : Grows table? js R (ss ++ ts) := by
  induction h with
  | nil => exact h'
  | cons hj ht hf _ ih => exact .cons hj ht hf (ih (h'.congr fun _ ↦ mem_reachedBy_cons))

/-- Each step of a chain follows what the steps before it have brought in. -/
theorem Grows.of_append_cons {R : List String} {s : FromStep} {before after : List FromStep}
    (h : Grows table? js R (before ++ s :: after)) :
    s.join ∈ js ∧ table? s.target = some s.table ∧ s.Follows (reachedBy R before) := by
  induction before generalizing R with
  | nil =>
    cases h with
    | cons hj ht hf _ => exact ⟨hj, ht, hf⟩
  | cons b before ih =>
    cases h with
    | cons _ _ _ h =>
      obtain ⟨hj, ht, hf⟩ := ih h
      exact ⟨hj, ht, hf.congr fun _ ↦ mem_reachedBy_cons.symm⟩

/-- No alias comes into FROM twice. -/
theorem Grows.nodup {R : List String} {ss : List FromStep} (h : Grows table? js R ss)
    (hR : R.Nodup) : (reachedBy R ss).Nodup := by
  induction h with
  | nil => exact hR
  | @cons R s ss _ _ hf _ ih =>
    have hcons : (s.target :: R).Nodup := List.nodup_cons.mpr ⟨hf.target_notMem, hR⟩
    have hperm : (reachedBy (s.target :: R) ss).Perm (reachedBy R (s :: ss)) :=
      List.perm_middle
    exact hperm.nodup_iff.mp (ih hcons)

end Chain

end FromPlan

end SelectBuilder
