import SelectBuilder.Proofs.FromPlan.Growth

/-!
# What the rounds leave

`round` tries every join once and `rounds` tries them until nothing changes.  Two things are said
of one round, both relative to any aliases `F` that FROM may still grow to: the joins that it takes
off the list all have a side in `F`, and each of them is exhausted in `F`.  The rounds put these
together: what is left waiting is exactly what has no side in FROM, and nothing more can come in.
It is the last round, which takes nothing off the list, that closes the argument (`round_stuck`).
-/

namespace SelectBuilder.FromPlan

/-- A join has brought in what it can: with one side in FROM the other one is there as well, unless
it is no table. -/
structure Exhausted (table? : String → Option Table) (reached : List String) (j : Join) : Prop where
  right : j.left.table ∈ reached → (table? j.right.table).isSome → j.right.table ∈ reached
  left : j.right.table ∈ reached → (table? j.left.table).isSome → j.left.table ∈ reached

/-- What trying the joins of a list from some aliases in FROM comes to in the end. -/
structure Settled (table? : String → Option Table) (reached : List String) (js : List Join)
    (p : Placement) : Prop where
  grows : Grows table? js reached p.steps
  waiting : p.waiting = js.filter (·.isApart (reachedBy reached p.steps))
  exhausted : ∀ j ∈ js, Exhausted table? (reachedBy reached p.steps) j

section Round

variable {table? : String → Option Table}

theorem Exhausted.of_mem {R : List String} {j : Join} (hl : j.left.table ∈ R)
    (hr : j.right.table ∈ R) : Exhausted table? R j :=
  ⟨fun _ _ ↦ hr, fun _ _ ↦ hl⟩

theorem Exhausted.of_isApart {R : List String} {j : Join} (h : j.isApart R) :
    Exhausted table? R j := by
  obtain ⟨hl, hr⟩ := Join.isApart_iff.mp h
  exact ⟨fun h ↦ absurd h hl, fun h ↦ absurd h hr⟩

/-- A join whose other side is no table brings in nothing, however FROM grows. -/
theorem Exhausted.of_brings_none {R F : List String} {j : Join} {a : String} {reversed : Bool}
    (h : standing R j = .brings a reversed) (ha : table? a = none) (hRF : ∀ a ∈ R, a ∈ F) :
    Exhausted table? F j := by
  rcases standing_eq_brings h with ⟨hl, -, rfl, -⟩ | ⟨hr, -, rfl, -⟩
  · exact ⟨fun _ hs ↦ by simp [ha] at hs, fun _ _ ↦ hRF _ hl⟩
  · exact ⟨fun _ _ ↦ hRF _ hr, fun _ hs ↦ by simp [ha] at hs⟩

theorem Exhausted.congr {R S : List String} {j : Join} (hRS : ∀ a, a ∈ R ↔ a ∈ S)
    (h : Exhausted table? R j) : Exhausted table? S j :=
  ⟨by simpa only [hRS] using h.right, by simpa only [hRS] using h.left⟩

/-- What a round does with its first join: leave it waiting, drop it because it can never bring
anything in, or place it. -/
theorem round_cons (hname : ∀ a t, table? a = some t → t.aliasName = a) (R : List String) (j : Join)
    (js : List Join) :
    j.isApart R ∧ round table? R (j :: js) = (round table? R js).wait j ∨
      j.isApart R = false ∧ (∀ F : List String, (∀ a ∈ R, a ∈ F) → Exhausted table? F j) ∧
        round table? R (j :: js) = round table? R js ∨
      ∃ s : FromStep, s.join = j ∧ table? s.target = some s.table ∧ s.Follows R ∧
        round table? R (j :: js) = (round table? (s.target :: R) js).place s := by
  cases hst : standing R j with
  | waiting => exact .inl ⟨standing_eq_waiting_iff.mp hst, by simp only [round, hst]⟩
  | settled =>
    obtain ⟨hl, hr⟩ := standing_eq_settled_iff.mp hst
    refine .inr (.inl ⟨by simp [Join.isApart, hl], fun F hF ↦ ?_, by simp only [round, hst]⟩)
    exact .of_mem (hF _ hl) (hF _ hr)
  | brings a reversed =>
    cases ha : table? a with
    | none =>
      refine .inr (.inl ⟨?_, fun F hF ↦ .of_brings_none hst ha hF, by simp only [round, hst, ha]⟩)
      rcases standing_eq_brings hst with ⟨hl, -⟩ | ⟨hr, -⟩
      · simp [Join.isApart, hl]
      · simp [Join.isApart, hr]
    | some t =>
      obtain rfl := hname a t ha
      exact .inr (.inr ⟨⟨j, t, reversed⟩, rfl, ha, follows_of_brings hst,
        by simp only [round, hst, ha, FromStep.target]⟩)

section Named

variable (hname : ∀ a t, table? a = some t → t.aliasName = a)
include hname

theorem round_waiting_subset (R : List String) (js : List Join) :
    ∀ j ∈ (round table? R js).waiting, j ∈ js := by
  induction js generalizing R with
  | nil => simp [round]
  | cons j js ih =>
    intro k hk
    rcases round_cons hname R j js with ⟨-, heq⟩ | ⟨-, -, heq⟩ | ⟨s, -, -, -, heq⟩
    · rw [heq] at hk
      rcases List.mem_cons.mp hk with rfl | hk
      · exact List.mem_cons_self
      · exact List.mem_cons_of_mem _ (ih R k hk)
    · rw [heq] at hk
      exact List.mem_cons_of_mem _ (ih R k hk)
    · rw [heq] at hk
      exact List.mem_cons_of_mem _ (ih _ k hk)

/-- The steps of a round form a chain. -/
theorem round_grows (R : List String) (js : List Join) :
    Grows table? js R (round table? R js).steps := by
  induction js generalizing R with
  | nil => exact .nil
  | cons j js ih =>
    have htail : ∀ R, Grows table? (j :: js) R (round table? R js).steps := fun R ↦
      (ih R).mono fun _ ↦ List.mem_cons_of_mem _
    rcases round_cons hname R j js with ⟨-, heq⟩ | ⟨-, -, heq⟩ | ⟨s, hj, ht, hf, heq⟩
    · rw [heq]
      exact htail R
    · rw [heq]
      exact htail R
    · rw [heq]
      exact .cons (hj ▸ List.mem_cons_self) ht hf (htail _)

/-- A round takes off the list only joins with a side in FROM, and keeps the others in order. -/
theorem round_filter_waiting {R F : List String} {js : List Join}
    (hF : ∀ a ∈ reachedBy R (round table? R js).steps, a ∈ F) :
    (round table? R js).waiting.filter (·.isApart F) = js.filter (·.isApart F) := by
  induction js generalizing R with
  | nil => rfl
  | cons j js ih =>
    rcases round_cons hname R j js with ⟨-, heq⟩ | ⟨hj, -, heq⟩ | ⟨s, rfl, -, hf, heq⟩
    · rw [heq] at hF ⊢
      simp only [Placement.wait, List.filter_cons, ih hF]
    · rw [heq] at hF ⊢
      have hj' := Join.not_isApart_mono hj fun a ha ↦ hF a (subset_reachedBy ha)
      simp only [List.filter_cons, hj', Bool.false_eq_true, if_false, ih hF]
    · rw [heq] at hF ⊢
      have hF' : ∀ a ∈ reachedBy (s.target :: R) (round table? (s.target :: R) js).steps, a ∈ F :=
        fun a ha ↦ hF a (mem_reachedBy_cons.mpr ha)
      have hj' : s.join.isApart F = false :=
        Join.not_isApart_mono hf.not_isApart fun a ha ↦ hF' a (subset_reachedBy ha)
      simp only [Placement.place, List.filter_cons, hj', Bool.false_eq_true, if_false, ih hF']

/-- A join that a round takes off the list has brought in what it can. -/
theorem round_exhausted {R F : List String} {js : List Join}
    (hF : ∀ a ∈ reachedBy R (round table? R js).steps, a ∈ F) :
    ∀ j ∈ js, j ∈ (round table? R js).waiting ∨ Exhausted table? F j := by
  induction js generalizing R with
  | nil => simp
  | cons j js ih =>
    intro k hk
    rcases round_cons hname R j js with ⟨-, heq⟩ | ⟨-, hex, heq⟩ | ⟨s, rfl, -, hf, heq⟩
    · rw [heq] at hF ⊢
      rcases List.mem_cons.mp hk with rfl | hk
      · exact .inl List.mem_cons_self
      · exact (ih hF k hk).imp_left (List.mem_cons_of_mem _)
    · rw [heq] at hF ⊢
      rcases List.mem_cons.mp hk with rfl | hk
      · exact .inr (hex F fun a ha ↦ hF a (subset_reachedBy ha))
      · exact ih hF k hk
    · rw [heq] at hF ⊢
      have hF' : ∀ a ∈ reachedBy (s.target :: R) (round table? (s.target :: R) js).steps, a ∈ F :=
        fun a ha ↦ hF a (mem_reachedBy_cons.mpr ha)
      rcases List.mem_cons.mp hk with rfl | hk
      · exact .inr (.of_mem (hF' _ (subset_reachedBy hf.sides_mem.1))
          (hF' _ (subset_reachedBy hf.sides_mem.2)))
      · exact ih hF' k hk

/-- A round that takes nothing off the list has placed nothing and found no join with a side in
FROM. -/
theorem round_stuck {R : List String} {js : List Join}
    (h : ¬ (round table? R js).waiting.length < js.length) :
    (round table? R js).steps = [] ∧ (round table? R js).waiting = js ∧ ∀ j ∈ js, j.isApart R := by
  induction js with
  | nil => simp [round]
  | cons j js ih =>
    have hle : ∀ R, ¬ js.length + 1 ≤ (round table? R js).waiting.length := fun R ↦
      Nat.not_le.mpr (Nat.lt_succ_of_le (length_waiting_le table? R js))
    rcases round_cons hname R j js with ⟨hj, heq⟩ | ⟨-, -, heq⟩ | ⟨s, -, -, -, heq⟩
    · rw [heq] at h ⊢
      obtain ⟨hs, hw, hjs⟩ := ih (by simpa [Placement.wait] using h)
      refine ⟨hs, by simp only [Placement.wait, hw], ?_⟩
      exact List.forall_mem_cons.mpr ⟨hj, hjs⟩
    · rw [heq] at h
      exact absurd (Nat.not_lt.mp h) (hle R)
    · rw [heq] at h
      exact absurd (Nat.not_lt.mp h) (hle _)

/-- A round that takes nothing off the list settles the joins. -/
theorem settled_of_stuck {R : List String} {js : List Join}
    (h : ¬ (round table? R js).waiting.length < js.length) :
    Settled table? R js (round table? R js) := by
  obtain ⟨hs, hw, hjs⟩ := round_stuck hname h
  refine ⟨round_grows hname R js, ?_, fun j hj ↦ ?_⟩
  · rw [hs, hw, reachedBy_nil, List.filter_eq_self.mpr hjs]
  · rw [hs, reachedBy_nil]
    exact .of_isApart (hjs j hj)

/-- A round, and what settles the joins that it leaves waiting, settle the joins together. -/
theorem Settled.of_round {R : List String} {js : List Join} {p : Placement}
    (h : Settled table? (reachedBy R (round table? R js).steps) (round table? R js).waiting p) :
    Settled table? R js ⟨(round table? R js).steps ++ p.steps, p.waiting⟩ := by
  set first := round table? R js with hfirst
  have hmem : ∀ a, a ∈ reachedBy R (first.steps ++ p.steps) ↔
      a ∈ reachedBy (reachedBy R first.steps) p.steps := fun _ ↦ mem_reachedBy_append
  have hF : ∀ a ∈ reachedBy R first.steps, a ∈ reachedBy R (first.steps ++ p.steps) :=
    fun a ha ↦ (hmem a).mpr (subset_reachedBy ha)
  refine ⟨?_, ?_, fun j hj ↦ ?_⟩
  · exact (round_grows hname R js).append (h.grows.mono (round_waiting_subset hname R js))
  · rw [← round_filter_waiting hname hF, h.waiting]
    exact List.filter_congr fun j _ ↦ (Join.isApart_congr hmem).symm
  · rcases round_exhausted hname hF j hj with hj | hj
    · exact (h.exhausted j hj).congr fun a ↦ (hmem a).symm
    · exact hj

/-- The rounds settle the joins. -/
theorem rounds_settled (R : List String) (js : List Join) :
    Settled table? R js (rounds table? R js) := by
  induction R, js using rounds.induct table? with
  | case1 R js first hlt ih =>
    rw [rounds, if_pos hlt]
    exact .of_round hname ih
  | case2 R js first hlt =>
    rw [rounds, if_neg hlt]
    exact settled_of_stuck hname hlt

end Named

end Round

end SelectBuilder.FromPlan
