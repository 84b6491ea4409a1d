import SelectBuilder.Proofs.Query.Alias
import SelectBuilder.Proofs.Session.Coherence

/-!
# Tables under aliases of their own

A table that is added to a query keeps the alias that it has, unless it has none or the alias is in
use; then it gets the first candidate that is free.  `Table.AddedAs` says so of one table, and
`Table.AddedAll` of one table after another, each of them added to those before it.  Whatever the
tables are, their aliases stay distinct, and what was in the query stays as it was.

A session finds the alias of a new table itself, before the table is added.  It is free by then, and
where it is empty it is found once more; so the table that the session answers with is the one that
is added (`addTable_of_allocate`).
-/

namespace SelectBuilder

/-! ## Tables of a query -/

/-- The tables `ts'` are `ts` as they are added one after the other. -/
inductive Table.AddedAll : List String → List Table → List Table → Prop where
  | nil (existing : List String) : AddedAll existing [] []
  | cons {existing : List String} {t t' : Table} {ts ts' : List Table}
      (h : t.AddedAs existing t') (hs : AddedAll (existing ++ [t'.aliasName]) ts ts') :
    AddedAll existing (t :: ts) (t' :: ts')

theorem Table.AddedAll.nodup {existing : List String} {ts ts' : List Table}
    (h : AddedAll existing ts ts') (hexisting : existing.Nodup) :
    (existing ++ ts'.map Table.aliasName).Nodup := by
  induction h with
  | nil existing => rwa [List.map_nil, List.append_nil]
  | @cons existing t t' ts ts' h _ ih =>
    rw [List.map_cons, List.append_cons]
    refine ih ?_
    rw [List.nodup_append_comm]
    exact List.nodup_cons.mpr ⟨h.new, hexisting⟩

namespace Query

variable {q : Query}

/-- Adding tables keeps the query as it was, and appends them one after the other. -/
theorem exists_foldl_addTable (q : Query) (ts : List Table) :
    ∃ added, ts.foldl addTable q = { q with tables := q.tables ++ added } ∧
      Table.AddedAll q.aliases ts added := by
  induction ts generalizing q with
  | nil => exact ⟨[], by simp, .nil _⟩
  | cons t ts ih =>
    obtain ⟨t', hadd, ht'⟩ := q.exists_addTable t
    obtain ⟨added, hfold, hadded⟩ := ih { q with tables := q.tables ++ [t'] }
    have haliases : aliases { q with tables := q.tables ++ [t'] } = q.aliases ++ [t'.aliasName] := by
      simp [aliases]
    refine ⟨t' :: added, ?_, .cons ht' (haliases ▸ hadded)⟩
    simp only [List.foldl_cons, hadd, hfold, List.append_assoc, List.cons_append, List.nil_append]

/-- A table that has the alias found for it is added as it is. -/
theorem addTable_of_allocate {t : Table} (h : t.aliasName = Alias.allocate t.name q.aliases) :
    q.addTable t = { q with tables := q.tables ++ [t] } := by
  obtain ⟨t', hadd, ht'⟩ := q.exists_addTable t
  have hnew : t.aliasName ∉ q.aliases := h ▸ Alias.allocate_not_mem _ _
  have hname : t'.aliasName = t.aliasName := by
    by_cases hempty : t.aliasName = ""
    · exact (ht'.found (.inl hempty)).trans h.symm
    · exact ht'.kept hempty hnew
  have hsame : t' = t := ht'.table.trans (by rw [hname])
  rw [hadd, hsame]

end Query

/-! ## Tables of a session -/

namespace Session

theorem aliasName_of_readTable {s : Session} {schema name : Value} {t : Table}
    (h : s.readTable schema name = .ok t) :
    t.aliasName = Alias.allocate t.name s.query.aliases := by
  rw [readTable] at h
  cases hcolumns : s.describedColumns schema name with
  | error fault => rw [hcolumns] at h; cases h
  | ok columns =>
    rw [hcolumns] at h
    cases name with
    | text name =>
      cases hschema : ((Check.text schema).under "schema_name").orFault with
      | error fault => simp only [hschema] at h; cases h
      | ok schema => simp only [hschema] at h; cases h; rfl
    | _ => cases h

theorem step_addTable (s : Session) (schema name : Value) :
    (∃ fault, s.readTable schema name = .error fault ∧
        s.step (.addTable schema name) = (s, .error fault)) ∨
      ∃ t, s.readTable schema name = .ok t ∧ s.step (.addTable schema name) =
        (s.install { s.query with tables := s.query.tables ++ [t] }, .ok (.table t)) := by
  change (∃ fault, _ ∧ s.addTable schema name = _) ∨ ∃ t, _ ∧ s.addTable schema name = _
  rw [addTable]
  cases h : s.readTable schema name with
  | error fault => exact .inl ⟨fault, rfl, rfl⟩
  | ok t =>
    refine .inr ⟨t, rfl, ?_⟩
    simp only [takeUp_eq, Query.addTable_of_allocate (aliasName_of_readTable h)]

end Session

/-! ## The main statement -/

/-- The search for an alias ends, after one try more at most than there are different aliases in
use, with the first candidate that is free.  So tables can be added to a query in whatever number
and under whatever aliases: its aliases stay distinct, and its tables keep theirs.  A session
answers with the very table that it has added, unless the table cannot be read. -/
theorem tables_get_first_free_alias :
    (∀ (name : String) (existing : List String), ∃ k, k ≤ existing.dedup.length ∧
        Alias.Finds name existing 0 (k + 1) (Alias.allocate name existing) ∧
        Alias.allocate name existing = Alias.candidate name k ∧
        Alias.allocate name existing ∉ existing ∧ ∀ j < k, Alias.candidate name j ∈ existing) ∧
      (∀ (q : Query) (ts : List Table), q.aliases.Nodup →
        ∃ added, ts.foldl Query.addTable q = { q with tables := q.tables ++ added } ∧
          Table.AddedAll q.aliases ts added ∧ (ts.foldl Query.addTable q).aliases.Nodup) ∧
      ∀ (s : Session) (schema name : Value),
        (∃ fault, s.readTable schema name = .error fault ∧
            s.step (.addTable schema name) = (s, .error fault)) ∨
          ∃ t, s.readTable schema name = .ok t ∧
            t.aliasName = Alias.allocate t.name s.query.aliases ∧
            s.step (.addTable schema name) =
              (s.install { s.query with tables := s.query.tables ++ [t] }, .ok (.table t)) := by
  refine ⟨?_, ?_, ?_⟩
  · intro name existing
    obtain ⟨k, hk, hfinds, heq, htaken⟩ := Alias.finds_allocate name existing
    exact ⟨k, hk, hfinds, heq, Alias.allocate_not_mem name existing, htaken⟩
  · intro q ts hq
    obtain ⟨added, hfold, hadded⟩ := q.exists_foldl_addTable ts
    refine ⟨added, hfold, hadded, ?_⟩
    have haliases : (ts.foldl Query.addTable q).aliases =
        q.aliases ++ added.map Table.aliasName := by
      rw [hfold, Query.aliases, List.map_append]
      rfl
    rw [haliases]
    exact hadded.nodup hq
  · intro s schema name
    rcases s.step_addTable schema name with hfault | ⟨t, ht, hstep⟩
    · exact .inl hfault
    · exact .inr ⟨t, ht, Session.aliasName_of_readTable ht, hstep⟩

/-- A query in which a number is in use that the search would come to. -/
def deskQuery : Query where
  tables := [{ aliasName := "desks", name := "Desks" }, { aliasName := "desks_1", name := "rooms" }]

/-- One table has no alias, one has an alias in use, and one has the alias that the first was
given. -/
def deskTables : List Table :=
  [{ aliasName := "", name := "Desks" }, { aliasName := "desks_1", name := "lamps" },
    { aliasName := "desks_2", name := "desks" }]

theorem tables_added_to_deskQuery :
    deskQuery.aliases.Nodup ∧ (deskTables.foldl Query.addTable deskQuery).aliases.Nodup ∧
      (deskTables.foldl Query.addTable deskQuery).aliases =
        ["desks", "desks_1", "desks_2", "lamps", "desks_3"] ∧
      (∃ n, Alias.Finds "Desks" deskQuery.aliases 0 n "desks_2") ∧
      ∃ s t, Session.start .default .null none none = .ok s ∧ t.aliasName = "desks" ∧
        s.step (.addTable (.text "office") (.text "Desks")) =
          (s.install { s.query with tables := s.query.tables ++ [t] }, .ok (.table t)) := by
  obtain ⟨hfind, hadd, hsession⟩ := tables_get_first_free_alias
  have hnodup : deskQuery.aliases.Nodup := by decide
  obtain ⟨added, -, -, hadded⟩ := hadd deskQuery deskTables hnodup
  have hfound : Alias.allocate "Desks" deskQuery.aliases = "desks_2" := by decide +kernel
  obtain ⟨k, -, hfinds, -, -, -⟩ := hfind "Desks" deskQuery.aliases
  have hstep {s : Session} {t : Table}
      (ht : s.readTable (.text "office") (.text "Desks") = .ok t) :
      s.step (.addTable (.text "office") (.text "Desks")) =
        (s.install { s.query with tables := s.query.tables ++ [t] }, .ok (.table t)) := by
    rcases hsession s (.text "office") (.text "Desks") with ⟨fault, hfault, -⟩ | ⟨t', ht', -, hstep⟩
    · rw [ht] at hfault
      cases hfault
    · rw [ht] at ht'
      cases ht'
      exact hstep
  exact ⟨hnodup, hadded, by decide +kernel, ⟨k + 1, hfound ▸ hfinds⟩, _, _, rfl,
    by decide +kernel, hstep rfl⟩

end SelectBuilder
