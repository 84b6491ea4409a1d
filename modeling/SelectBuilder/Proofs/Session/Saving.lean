import SelectBuilder.Proofs.Query.Evolution
import SelectBuilder.Proofs.Query.Rereading
import SelectBuilder.Proofs.Session.Evolution

/-!
# Saving and restoring

The query that a session holds can be written down at any time and read back as it was.  The parts
that calls bring in have been checked, and most edits put them together without checking the query
as a whole.  What they could break is only the value for distinct rows, and nearly all of them leave
it alone (`Query.distinct_of_map` and the lemmas after it).  Setting the page checks it again, and
setting it, or loading a query, puts in what the caller hands over (`Call.IsTyped`).
-/

namespace SelectBuilder

/-- Whether a query that the call hands over is one that can be read, and a truth value one. -/
def Call.IsTyped : Call → Prop
  | .load q => q.Constructed
  | .setDistinct v => ∃ b, v = .bool b
  | _ => True

namespace Query

/-! ## Edits -/

theorem constructed_empty : Query.empty.Constructed := constructed_iff.mpr ⟨false, rfl⟩

theorem Constructed.of_distinct {q r : Query} (hq : q.Constructed)
    (h : r.distinct = q.distinct) : r.Constructed := by
  rw [constructed_iff] at hq ⊢
  rwa [h]

section Edits

variable {q r : Query} {α : Type}

/-- Edits that put something else in the place of a clause. -/
theorem distinct_of_map {set : α → Query} {edited : Option α} (h : edited.map set = some r)
    (hset : ∀ a, (set a).distinct = q.distinct) : r.distinct = q.distinct := by
  obtain ⟨a, -, rfl⟩ := Option.map_eq_some_iff.mp h
  exact hset a

/-- The same of edits by data that are checked. -/
theorem distinct_of_checked {set : α → Query} {edited : Checked (Option α)}
    (h : Option.map set <$> edited = .ok (some r)) (hset : ∀ a, (set a).distinct = q.distinct) :
    r.distinct = q.distinct := by
  obtain ⟨o, -, ho⟩ := Checked.of_map_eq_ok h
  exact distinct_of_map ho hset

theorem distinct_setFilter (q : Query) (g : ConditionGroup) :
    (q.setFilter g).distinct = q.distinct := rfl

variable {i : String} {fs : Fields}

theorem distinct_removeTable (h : q.removeTable i = some r) : r.distinct = q.distinct := by
  rw [removeTable] at h
  split at h
  · cases h
    rfl
  · cases h

theorem distinct_addCondition {c : Condition} {group : Value} {rootId : String}
    (h : q.addCondition c group rootId = some r) : r.distinct = q.distinct := by
  rw [addCondition] at h
  split at h
  · cases h
    rfl
  · obtain ⟨target, -, h⟩ := Option.bind_eq_some_iff.mp h
    exact distinct_of_map h q.distinct_setFilter

theorem distinct_removeCondition (h : q.removeCondition i = some r) : r.distinct = q.distinct := by
  obtain ⟨g, -, h⟩ := Option.bind_eq_some_iff.mp h
  rw [eq_of_pruned h g]

theorem distinct_updateCondition (h : q.updateCondition i fs = .ok (some r)) :
    r.distinct = q.distinct := by
  rw [updateCondition] at h
  split at h
  · cases h
  · exact distinct_of_checked h q.distinct_setFilter

theorem distinct_addGroup {new : ConditionGroup} {parent : Value} {limit : DepthLimit}
    (h : q.addGroup new parent limit = some r) : r.distinct = q.distinct := by
  rw [addGroup] at h
  split at h
  · split at h
    · cases h
    · cases h
      rfl
  · obtain ⟨target, -, h⟩ := Option.bind_eq_some_iff.mp h
    exact distinct_of_map h q.distinct_setFilter

theorem distinct_removeGroup (h : q.removeGroup i = some r) : r.distinct = q.distinct := by
  obtain ⟨g, -, h⟩ := Option.bind_eq_some_iff.mp h
  split at h
  · cases h
    rfl
  · exact distinct_of_map h q.distinct_setFilter

theorem distinct_updateGroup (h : q.updateGroup i fs = .ok (some r)) :
    r.distinct = q.distinct := by
  rw [updateGroup] at h
  split at h
  · cases h
  · exact distinct_of_checked h q.distinct_setFilter

theorem distinct_addGrouping {c : ColumnRef} (h : q.addGrouping c = some r) :
    r.distinct = q.distinct := by
  rw [addGrouping] at h
  split at h
  · cases h
  · cases h
    rfl

theorem distinct_removeGrouping {c : ColumnRef} (h : q.removeGrouping c = some r) :
    r.distinct = q.distinct := by
  rw [removeGrouping] at h
  split at h
  · cases h
    rfl
  · cases h

/-- Setting a side of the page reads the value for distinct rows anew. -/
theorem constructed_of_setLimit {v : Value} (h : q.setLimit v = .ok r) : r.Constructed := by
  obtain ⟨set, b, hset, -, rfl⟩ := Checked.of_seq_eq_ok h
  obtain ⟨l, -, rfl⟩ := Checked.of_map_eq_ok hset
  exact constructed_iff.mpr ⟨b, rfl⟩

theorem constructed_of_setOffset {v : Value} (h : q.setOffset v = .ok r) : r.Constructed := by
  obtain ⟨set, b, hset, -, rfl⟩ := Checked.of_seq_eq_ok h
  obtain ⟨o, -, rfl⟩ := Checked.of_map_eq_ok hset
  exact constructed_iff.mpr ⟨b, rfl⟩

end Edits

end Query

namespace Session

/-- Whether the query of a session can be read from something. -/
def Restorable (s : Session) : Prop := s.query.Constructed

/-! ## Kinds of calls -/

section Kinds

variable {w : Writer} {s : Session}

theorem restorable_takeUp {q : Query} (h : q.Constructed) (reply : Reply) :
    (s.takeUp q reply w).1.Restorable := by
  rwa [Restorable, takeUp_query]

variable (hs : s.Restorable)

include hs

theorem Restorable.edited {q : Option Query} (h : ∀ r, q = some r → r.Constructed) :
    (s.edited q w).1.Restorable := by
  cases q with
  | none => exact restorable_takeUp hs _
  | some r => exact restorable_takeUp (h r rfl) _

theorem Restorable.attempted {q : Except Fault (Option Query)}
    (h : ∀ r, q = .ok (some r) → r.Constructed) : (s.attempted q w).1.Restorable := by
  cases q with
  | ok q => exact hs.edited fun r hr ↦ h r (hr ▸ rfl)
  | error fault => exact hs

theorem Restorable.checked {q : Checked (Option Query)}
    (h : ∀ r, q = .ok (some r) → r.Constructed) : (s.checked q w).1.Restorable :=
  hs.attempted fun r hr ↦ h r (Checked.of_orFault_eq_ok hr)

theorem Restorable.removed {remove : String → Option Query}
    (h : ∀ {i r}, remove i = some r → r.distinct = s.query.distinct) (id : Value) :
    (s.removed id remove w).1.Restorable := by
  apply hs.edited
  intro r hr
  obtain ⟨i, -, hr⟩ := Option.bind_eq_some_iff.mp hr
  exact hs.of_distinct (h hr)

theorem Restorable.patched {update : String → Checked (Option Query)}
    (h : ∀ {i r}, update i = .ok (some r) → r.distinct = s.query.distinct) (id : Value) :
    (s.patched id update w).1.Restorable := by
  unfold Session.patched
  split
  · exact hs.checked fun r hr ↦ hs.of_distinct (h hr)
  · exact hs.edited fun r hr ↦ nomatch hr

theorem Restorable.moved {α : Type} [Identified α] {move : String → Int → Option Query}
    (h : ∀ {i index r}, move i index = some r → r.distinct = s.query.distinct)
    (items : List α) (id index : Value) : (s.moved items id index move w).1.Restorable := by
  unfold Session.moved
  split
  next i _ =>
    apply hs.attempted
    intro r hr
    cases hindex : Identified.indexFor items i index with
    | error m => rw [hindex] at hr; cases hr
    | ok k =>
      rw [hindex] at hr
      exact hs.of_distinct (h (Except.ok.inj hr))
  · exact hs.edited fun r hr ↦ nomatch hr

theorem Restorable.added {α : Type} (part : Checked α) {add : Query → α → Query}
    (h : ∀ a, (add s.query a).distinct = s.query.distinct) (reply : α → Reply) :
    (s.added part add reply w).1.Restorable := by
  unfold Session.added
  split
  · exact restorable_takeUp (hs.of_distinct (h _)) _
  · exact hs

theorem Restorable.refusable {q : Option Query}
    (h : ∀ r, q = some r → r.distinct = s.query.distinct) (reply : Reply) :
    (s.refusable q reply w).1.Restorable := by
  cases q with
  | none => exact hs
  | some r => exact restorable_takeUp (hs.of_distinct (h r rfl)) _

theorem Restorable.addTable (schema name : Value) : (s.addTable schema name w).1.Restorable := by
  unfold Session.addTable
  split
  · exact restorable_takeUp (hs.of_distinct (r := s.query.addTable _) rfl) _
  · exact hs

theorem Restorable.addCondition (condition : Except Fault Condition) (group : Value) :
    (s.addCondition condition group w).1.Restorable := by
  unfold Session.addCondition
  split
  · exact hs
  · split
    · exact Restorable.refusable (s := s.drawn.drawn) hs
        (fun _ ↦ Query.distinct_addCondition) _
    · exact Restorable.refusable (s := s.drawn) hs (fun _ ↦ Query.distinct_addCondition) _

theorem Restorable.addGroup (operator parent : Value) :
    (s.addGroup operator parent w).1.Restorable := by
  unfold Session.addGroup
  split
  · exact hs
  · exact Restorable.refusable (s := s.drawn) hs (fun _ ↦ Query.distinct_addGroup) _

theorem Restorable.switchDialect (dialect : Value) : (s.switchDialect dialect w).1.Restorable := by
  unfold Session.switchDialect
  split
  · exact restorable_takeUp Query.constructed_empty _
  · exact hs

/-- What one call leaves to be read. -/
theorem Restorable.step {c : Call} (hc : c.IsTyped) : (s.step c w).1.Restorable := by
  cases c with
  | load q => exact restorable_takeUp hc _
  | reset => exact restorable_takeUp (w := w) Query.constructed_empty _
  | setDistinct distinct =>
    obtain ⟨b, rfl⟩ := hc
    exact restorable_takeUp (Query.constructed_iff.mpr ⟨b, rfl⟩) _
  | references | canAddGroup => exact hs
  | switchDialect dialect => exact hs.switchDialect dialect
  | addTable schema name => exact hs.addTable schema name
  | removeTable aliasName => exact hs.removed Query.distinct_removeTable aliasName
  -- What is done to the parts of one clause leaves the others alone.
  | addColumn | addJoin | addHaving | addSorting =>
    refine hs.added _ ?_ _
    exact fun _ ↦ rfl
  | removeColumn id | removeJoin id | removeHaving id | removeSorting id =>
    refine hs.removed ?_ id
    exact fun h ↦ Query.distinct_of_map h fun _ ↦ rfl
  | updateColumn id | updateJoin id | updateHaving id | updateSorting id =>
    refine hs.patched ?_ id
    exact fun h ↦ Query.distinct_of_checked h fun _ ↦ rfl
  | moveColumn id index | moveSorting id index =>
    refine hs.moved ?_ _ id index
    exact fun h ↦ Query.distinct_of_map h fun _ ↦ rfl
  | addCondition => exact hs.addCondition _ _
  | removeCondition id => exact hs.removed Query.distinct_removeCondition id
  | updateCondition id patch => exact hs.patched Query.distinct_updateCondition id
  | addGroup operator parent => exact hs.addGroup operator parent
  | removeGroup id => exact hs.removed Query.distinct_removeGroup id
  | updateGroup id patch => exact hs.patched Query.distinct_updateGroup id
  | clearFilter =>
    exact hs.edited fun r hr ↦ hs.of_distinct (Query.distinct_of_map hr fun _ ↦ rfl)
  | addGrouping =>
    apply hs.checked
    intro r hr
    obtain ⟨c, -, hr⟩ := Checked.of_map_eq_ok hr
    exact hs.of_distinct (Query.distinct_addGrouping hr)
  | removeGrouping =>
    apply hs.checked
    intro r hr
    obtain ⟨c, -, hr⟩ := Checked.of_map_eq_ok hr
    exact hs.of_distinct (Query.distinct_removeGrouping hr)
  | setLimit limit =>
    apply hs.checked
    intro r hr
    obtain ⟨q, hq, hr⟩ := Checked.of_map_eq_ok hr
    cases hr
    exact Query.constructed_of_setLimit hq
  | setOffset offset =>
    apply hs.checked
    intro r hr
    obtain ⟨q, hq, hr⟩ := Checked.of_map_eq_ok hr
    cases hr
    exact Query.constructed_of_setOffset hq

theorem Restorable.run {calls : List Call} (hcalls : ∀ c ∈ calls, c.IsTyped) :
    (s.run calls w).Restorable := by
  induction calls generalizing s with
  | nil => exact hs
  | cons c calls ih =>
    obtain ⟨hc, hcalls⟩ := List.forall_mem_cons.mp hcalls
    exact ih (hs.step hc) hcalls

end Kinds

/-! ## The main statement -/

/-- After any calls on a new session, failing ones among them, every part of its query passes the
check of parts of its kind, and the query as a whole is read back from its written form as it was.
A query that is loaded has to be one that can be read, and what stands for distinct rows a truth
value; all other arguments are of any kind. -/
theorem run_restores (w : Writer) {settings : Settings} {dialect : Value}
    {ids : Option IdSource} {provider : Option Schema.Provider} {fresh : Session}
    (hfresh : start settings dialect ids provider = .ok fresh) (calls : List Call)
    (hcalls : ∀ c ∈ calls, c.IsTyped) :
    (fresh.run calls w).query.PartsPass ∧
      Query.ofValue (fresh.run calls w).query.written = .ok (fresh.run calls w).query := by
  have hempty : fresh.Restorable := by
    rw [Restorable, query_of_start hfresh]
    exact Query.constructed_empty
  exact ⟨Query.partsPass _, (hempty.run hcalls).ofValue_written⟩

/-- A query with a filter, which is loaded. -/
def cellarQuery : Query :=
  { tables := [
      { aliasName := "w", name := "wines", columns := [{ name := "year", type := "int" }] }]
    filter := some { id := "f", conditions := [{ id := "c", subject := ⟨"w", "year"⟩ }] }
    distinct := .bool true }

/-- Among the calls are joins and pages that are refused, and a group is given groups of its own. -/
def cellarCalls : List Call :=
  [.load cellarQuery, .addTable (.text "cellar") (.text "Racks"),
    .addJoin (.text "w") (.text "rack") (.text "racks") (.text "id") (.text "LEFT") (.text "LIKE"),
    .addJoin (.text "w") (.text "rack") (.text "racks") (.text "id") (.text "LEFT") (.text "!="),
    .updateJoin (.text "n2") [("operator", .text "IN")],
    .updateGroup (.text "f")
      [("groups", .list [.record [("id", .text "g"), ("operator", .text "OR")]])],
    .setLimit (.int 0), .setLimit (.text " 5 "), .setOffset (.int (-1)),
    .setDistinct (.bool false)]

theorem run_restores_cellarCalls :
    ∃ fresh : Session, start {} .null none none = .ok fresh ∧
      (∀ c ∈ cellarCalls, c.IsTyped) ∧
      (fresh.run cellarCalls .standard).query.joins.map Join.comparison = [.notEqual] ∧
      (fresh.run cellarCalls .standard).query.filter.map ConditionGroup.ids = some ["f", "c", "g"] ∧
      (fresh.run cellarCalls .standard).query.limit.map (·.val) = some 5 ∧
      Query.ofValue (fresh.run cellarCalls .standard).query.written =
        .ok (fresh.run cellarCalls .standard).query := by
  have hcalls : ∀ c ∈ cellarCalls, c.IsTyped := by
    simp [cellarCalls, Call.IsTyped, Query.constructed_iff, cellarQuery]
  refine ⟨_, rfl, hcalls, by decide +kernel, by decide +kernel, by decide +kernel, ?_⟩
  exact (@run_restores .standard {} .null none none _ rfl cellarCalls hcalls).2

end Session

end SelectBuilder
