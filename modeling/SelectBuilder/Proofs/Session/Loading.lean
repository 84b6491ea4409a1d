import SelectBuilder.Proofs.Session.Evolution

/-!
# Loading a query

A session that takes up a query as a whole goes on drawing from its own source, and the source knows
nothing of the ids that the query came with.  Ids stay distinct just when none of these is still to
be drawn (`distinctIds_after_load_iff`).  That this is needed is seen from calls that fail: they use
up ids until the one to be drawn next is in the query already.
-/

namespace SelectBuilder

/-- Whether the call adds a part that has an id. -/
def Call.AddsPart : Call → Prop
  | .addColumn .. | .addJoin .. | .addCondition .. | .addGroup .. => True
  | .addHaving .. | .addSorting .. => True
  | _ => False

theorem Call.AddsPart.keepsStructure {c : Call} (h : c.AddsPart) : c.KeepsStructure := by
  cases c <;> trivial

namespace Session

variable {w : Writer} {s : Session} {q : Query}

theorem query_load (w : Writer) (s : Session) (q : Query) : (s.step (.load q) w).1.query = q :=
  takeUp_query s q w .nothing

theorem ids_load (w : Writer) (s : Session) (q : Query) : (s.step (.load q) w).1.ids = s.ids :=
  takeUp_ids s q w .nothing

/-! ## Calls that repeat an id -/

/-- A call that fails, but not before an id has been drawn for it. -/
def waste : Call := .addColumn .null .null .null .null .null

theorem run_waste (w : Writer) (s : Session) (n : Nat) :
    s.run (List.replicate n waste) w = s.after n := by
  induction n generalizing s with
  | zero => rfl
  | succ n ih => exact ih (s.after 1)

/-- A call that adds a part of a kind. -/
def addition : IdKind → Call
  | .column => .addColumn (.text "t") (.text "c") .null .null (.bool false)
  | .join => .addJoin (.text "t") (.text "c") (.text "t") (.text "c") (.text "INNER") (.text "=")
  | .filter => .addCondition (.text "t") (.text "c") (.text "=") .null .null (.list []) .null
  | .having => .addHaving (.text "t") (.text "c") (.text "COUNT") (.text "=") .null
  | .sorting => .addSorting (.text "t") (.text "c") (.text "ASC")

theorem addsPart_waste : waste.AddsPart := trivial

theorem addsPart_addition (kind : IdKind) : (addition kind).AddsPart := by
  cases kind <;> trivial

theorem addConditionTo_id (g : ConditionGroup) (c : Condition) :
    g.addConditionTo g.id c = some (g.addCondition c) := by
  obtain ⟨own, connective, conditions, groups⟩ := g
  rw [ConditionGroup.addConditionTo, ConditionGroup.changeAt, if_pos rfl]

/-- A condition is added to the root of the filter. -/
theorem query_addition_filter {g : ConditionGroup} (hg : s.query.filter = some g) :
    (s.step (addition .filter) w).1.query =
      s.query.setFilter (g.addCondition { id := s.ids.id, subject := ⟨"t", "c"⟩ }) := by
  have hstep : (s.step (addition .filter) w).1 =
      (s.addCondition (.ok { id := s.ids.id, subject := ⟨"t", "c"⟩ }) .null w).1 := rfl
  have hadd (c : Condition) (rootId : String) :
      s.query.addCondition c .null rootId = some (s.query.setFilter (g.addCondition c)) := by
    rw [Query.addCondition, hg]
    exact congrArg (·.map s.query.setFilter) (addConditionTo_id g c)
  rw [hstep, Session.addCondition]
  simp only [hg, hadd, refusable, takeUp_query]

theorem query_added (w : Writer) (s : Session) {α : Type} {part : Checked α} {a : α}
    (h : part = .ok a) (add : Query → α → Query) (reply : α → Reply) :
    (s.added part add reply w).1.query = add s.query a := by
  subst h
  exact takeUp_query s.drawn _ _ _

/-- The part that is added gets the next id. -/
theorem ids_addition (w : Writer) (s : Session) {kind : IdKind} (h : s.query.ids kind ≠ []) :
    ((s.step (addition kind) w).1.query.ids kind).Perm (s.ids.id :: s.query.ids kind) := by
  have happend {α : Type} (f : α → String) (as : List α) (a : α) :
      ((as ++ [a]).map f).Perm (f a :: as.map f) := by
    rw [List.map_append]
    exact List.perm_append_comm
  cases kind with
  | column =>
    have hquery : (s.step (addition .column) w).1.query =
        s.query.addColumn { id := s.ids.id, source := ⟨"t", "c"⟩ } := query_added w s rfl _ _
    rw [hquery]
    exact happend _ _ _
  | join =>
    have hquery : (s.step (addition .join) w).1.query =
        s.query.addJoin { id := s.ids.id, left := ⟨"t", "c"⟩, right := ⟨"t", "c"⟩ } :=
      query_added w s rfl _ _
    rw [hquery]
    exact happend _ _ _
  | filter =>
    cases hg : s.query.filter with
    | none => exact absurd (by rw [Query.ids, hg]; rfl) h
    | some g =>
      rw [query_addition_filter hg, Query.ids, Query.ids, hg]
      exact g.ids_addCondition _
  | having =>
    have hquery : (s.step (addition .having) w).1.query =
        s.query.addHaving
          { id := s.ids.id, subject := ⟨"t", "c"⟩, aggregate := .count, comparison := .equal } :=
      query_added w s rfl _ _
    rw [hquery]
    exact happend _ _ _
  | sorting =>
    have hquery : (s.step (addition .sorting) w).1.query =
        s.query.addSorting { id := s.ids.id, source := ⟨"t", "c"⟩ } := query_added w s rfl _ _
    rw [hquery]
    exact happend _ _ _

/-! ## Loading -/

theorem fresh_of_load (hids : s.ids.Distinct) (hq : q.DistinctIds)
    (hnew : ∀ kind, ∀ i ∈ q.ids kind, ¬ s.ids.Pending i) : (s.step (.load q) w).1.Fresh where
  source := by rwa [ids_load]
  ids := by rwa [query_load]
  held := by rwa [query_load, ids_load]

/-- After loading, the parts that are added keep ids distinct, whatever they are, just when no id in
the query that was loaded is one of the numbered ids still to be drawn. -/
theorem distinctIds_after_load_iff (w : Writer) {stem : String} {next : Nat}
    (hs : s.ids = .numbered stem next) (hq : q.DistinctIds) :
    (∀ calls : List Call, (∀ c ∈ calls, c.AddsPart) →
      ∀ kind, (((s.step (.load q) w).1.run calls w).query.ids kind).Nodup) ↔
    ∀ kind m, next ≤ m → stem ++ toString m ∉ q.ids kind := by
  constructor
  · intro hdistinct kind m hm hmem
    -- Ids are used up until the one to be drawn next is in the query already.
    have hcalls := hdistinct (List.replicate (m - next) waste ++ [addition kind]) (by
      intro c hc
      rcases List.mem_append.mp hc with hc | hc
      · rw [List.eq_of_mem_replicate hc]
        exact addsPart_waste
      · rw [List.mem_singleton.mp hc]
        exact addsPart_addition kind) kind
    rw [run_append, run_waste] at hcalls
    -- The query is the one that was loaded, and the id is the one in question.
    have hquery : ((s.step (.load q) w).1.after (m - next)).query = q := query_load w s q
    have hid : ((s.step (.load q) w).1.after (m - next)).ids.id = stem ++ toString m := by
      rw [after, ids_load, hs, IdSource.skip_numbered, Nat.add_sub_cancel' hm]
      rfl
    have hheld : ((s.step (.load q) w).1.after (m - next)).query.ids kind ≠ [] := by
      rw [hquery]
      exact List.ne_nil_of_mem hmem
    have hperm := ids_addition w _ hheld
    rw [hid, hquery] at hperm
    exact (List.nodup_cons.mp (hperm.nodup_iff.mp hcalls)).1 hmem
  · intro hnew calls hcalls
    have hpending : ∀ kind, ∀ i ∈ q.ids kind, ¬ s.ids.Pending i := by
      intro kind i hi
      rw [hs, IdSource.pending_numbered_iff]
      rintro ⟨m, hm, rfl⟩
      exact hnew kind m hm hi
    have hfresh := fresh_of_load (w := w) (hs ▸ IdSource.distinct_numbered stem next) hq hpending
    exact (run_fresh (fun c hc ↦ (hcalls c hc).keepsStructure) hfresh).ids

/-- A query that was saved, with ids that a new session draws first. -/
def savedQuery : Query where
  tables := [{ aliasName := "users", schema := "public", name := "users" }]
  columns := [{ id := "n1", source := ⟨"users", "id"⟩ }]
  sorting := [{ id := "n1", source := ⟨"users", "name"⟩ }]

def addName : Call := .addColumn (.text "users") (.text "name") .null .null (.bool false)

theorem distinctIds_savedQuery (kind : IdKind) : (savedQuery.ids kind).Nodup := by
  cases kind <;> decide

/-- Once the session has drawn an id, it can take up the query and go on. -/
theorem distinctIds_after_load_of_savedQuery :
    ∃ fresh : Session, start .default .null none none = .ok fresh ∧
      fresh.drawn.ids = .numbered "n" 2 ∧ savedQuery.DistinctIds ∧
      ∀ calls : List Call, (∀ c ∈ calls, c.AddsPart) →
        ∀ kind, (((fresh.drawn.step (.load savedQuery) .standard).1.run calls
          .standard).query.ids kind).Nodup := by
  refine ⟨_, rfl, rfl, distinctIds_savedQuery, ?_⟩
  refine (distinctIds_after_load_iff .standard (s := drawn _) (q := savedQuery) rfl
    distinctIds_savedQuery).mpr fun kind m hm hmem ↦ ?_
  have hid : "n" ++ toString m = "n" ++ toString 1 := by
    have hsubset : savedQuery.ids kind ⊆ ["n1"] := by cases kind <;> decide
    exact List.mem_singleton.mp (hsubset hmem)
  have := append_toString_injective "n" hid
  omega

/-- A new session gives the column that is added the id of the one that was loaded, and with one of
them the other is removed. -/
theorem load_repeats_id :
    ∃ fresh : Session, start .default .null none none = .ok fresh ∧ fresh.ids = .ofStem "n" ∧
      savedQuery.DistinctIds ∧ addName.AddsPart ∧
      ((fresh.step (.load savedQuery)).1.run [addName]).query.ids .column = ["n1", "n1"] ∧
      ((fresh.step (.load savedQuery)).1.run
        [addName, .removeColumn (.text "n1")]).query.columns = [] :=
  ⟨_, rfl, rfl, distinctIds_savedQuery, trivial, by decide +kernel, by decide +kernel⟩

end Session

end SelectBuilder
