import SelectBuilder.Proofs.Statement.Failure
import SelectBuilder.Session

/-!
# Sessions stay coherent

A session holds a query together with the problems and the statement that were worked out from it.
They are put in place one after the other, the query first, so a failure on the way leaves a session
whose parts do not belong together, and a call that fails has changed something.

The problems of a query do not fail, and its statement fails with the writer alone
(`Query.exists_render_iff`).  So all that a call can do is listed by `Outcomes`: it changes nothing
but the source of ids, or it takes up a query and answers, or it is left with a query that has no
statement.  Each kind of call is looked at once, and what is said of sessions is read off the list.
-/

namespace SelectBuilder

@[simp] theorem Query.render_empty (w : Writer) (d : Dialect) :
    Query.empty.render w d = .ok noTables := rfl

namespace Session

/-! ## Taking up a query -/

section TakeUp

variable {s : Session} {q : Query} {w : Writer}

theorem takeUp_of_ok {sql : String} (h : q.render w s.dialect = .ok sql) (reply : Reply) :
    s.takeUp q reply w =
      ({ s with query := q, problems := q.problems s.depthLimit, sql }, .ok reply) := by
  simp only [takeUp, h]
  rfl

theorem takeUp_of_error {m : Misfit} (h : q.render w s.dialect = .error m) (reply : Reply) :
    s.takeUp q reply w =
      ({ s with query := q, problems := q.problems s.depthLimit }, .error (.misfit m)) := by
  simp only [takeUp, h]
  rfl

variable (s q w)

theorem takeUp_eq (reply : Reply) : s.takeUp q reply = (s.install q, .ok reply) :=
  takeUp_of_ok (q.render_unbounded s.dialect) reply

/-- The query is held, whether there is a statement for it or not. -/
@[simp] theorem takeUp_query (reply : Reply) : (s.takeUp q reply w).1.query = q := by
  cases h : q.render w s.dialect with
  | ok sql => rw [takeUp_of_ok h]
  | error m => rw [takeUp_of_error h]

@[simp] theorem takeUp_ids (reply : Reply) : (s.takeUp q reply w).1.ids = s.ids := by
  cases h : q.render w s.dialect with
  | ok sql => rw [takeUp_of_ok h]
  | error m => rw [takeUp_of_error h]

end TakeUp

/-! ## What a call can do -/

/-- What may come of a call: nothing has changed but the source of ids; or a query has been taken
up, perhaps for another dialect, and the call has not failed; or it has failed because a query that
is held by now has no statement. -/
inductive Outcomes (w : Writer) (s : Session) : Outcome → Prop where
  | unchanged (ids : IdSource) (answer : Except Fault Reply) :
    Outcomes w s ({ s with ids }, answer)
  | takenUp (ids : IdSource) (dialect : Dialect) {query : Query} {sql : String} (reply : Reply)
      (h : query.render w dialect = .ok sql) :
    Outcomes w s
      ({ s with ids, dialect, query, problems := query.problems s.depthLimit, sql }, .ok reply)
  | unwritten (ids : IdSource) {query : Query} {m : Misfit}
      (h : query.render w s.dialect = .error m) :
    Outcomes w s
      ({ s with ids, query, problems := query.problems s.depthLimit }, .error (.misfit m))

section Kinds

variable (w : Writer) (s : Session)

theorem Outcomes.answer (a : Except Fault Reply) : Outcomes w s (s, a) := .unchanged s.ids a

theorem Outcomes.takeUp (q : Query) (reply : Reply) : Outcomes w s (s.takeUp q reply w) := by
  cases h : q.render w s.dialect with
  | ok sql =>
    rw [takeUp_of_ok h]
    exact .takenUp s.ids s.dialect reply h
  | error m =>
    rw [takeUp_of_error h]
    exact .unwritten s.ids h

theorem Outcomes.done (q : Query) : Outcomes w s (s.done q w) := Outcomes.takeUp w s q .nothing

/-- Drawing an id first makes no difference. -/
theorem Outcomes.of_drawn {o : Outcome} (h : Outcomes w s.drawn o) : Outcomes w s o := by
  cases h with
  | unchanged ids a => exact .unchanged ids a
  | takenUp ids dialect reply h => exact .takenUp ids dialect reply h
  | unwritten ids h => exact .unwritten ids h

theorem Outcomes.edited (q : Option Query) : Outcomes w s (s.edited q w) :=
  Outcomes.done w s _

theorem Outcomes.attempted (q : Except Fault (Option Query)) : Outcomes w s (s.attempted q w) := by
  cases q with
  | ok q => exact Outcomes.edited w s q
  | error fault => exact Outcomes.answer w s _

theorem Outcomes.checked (q : Checked (Option Query)) : Outcomes w s (s.checked q w) :=
  Outcomes.attempted w s _

theorem Outcomes.removed (id : Value) (remove : String → Option Query) :
    Outcomes w s (s.removed id remove w) :=
  Outcomes.edited w s _

theorem Outcomes.patched (id : Value) (update : String → Checked (Option Query)) :
    Outcomes w s (s.patched id update w) := by
  unfold Session.patched
  split
  · exact Outcomes.checked w s _
  · exact Outcomes.edited w s none

theorem Outcomes.moved {α : Type} [Identified α] (items : List α) (id index : Value)
    (move : String → Int → Option Query) : Outcomes w s (s.moved items id index move w) := by
  unfold Session.moved
  split
  · exact Outcomes.attempted w s _
  · exact Outcomes.edited w s none

theorem Outcomes.added {α : Type} (part : Checked α) (add : Query → α → Query)
    (reply : α → Reply) : Outcomes w s (s.added part add reply w) := by
  refine .of_drawn w s ?_
  unfold Session.added
  split
  · exact Outcomes.takeUp w _ _ _
  · exact Outcomes.answer w _ _

theorem Outcomes.refusable (q : Option Query) (reply : Reply) :
    Outcomes w s (s.refusable q reply w) := by
  cases q with
  | none => exact Outcomes.answer w s _
  | some q => exact Outcomes.takeUp w s q reply

theorem Outcomes.addTable (schema name : Value) : Outcomes w s (s.addTable schema name w) := by
  unfold Session.addTable
  split
  · exact Outcomes.takeUp w s _ _
  · exact Outcomes.answer w s _

theorem Outcomes.addCondition (condition : Except Fault Condition) (group : Value) :
    Outcomes w s (s.addCondition condition group w) := by
  refine .of_drawn w s ?_
  unfold Session.addCondition
  split
  · exact Outcomes.answer w _ _
  split
  · exact .of_drawn w _ (Outcomes.refusable w _ _ _)
  · exact Outcomes.refusable w _ _ _

theorem Outcomes.addGroup (operator parent : Value) :
    Outcomes w s (s.addGroup operator parent w) := by
  refine .of_drawn w s ?_
  unfold Session.addGroup
  split
  · exact Outcomes.answer w _ _
  · exact Outcomes.refusable w _ _ _

/-- The dialect is only changed for one that is known, and the empty query has a statement in all of
them. -/
theorem Outcomes.switchDialect (dialect : Value) : Outcomes w s (s.switchDialect dialect w) := by
  unfold Session.switchDialect
  split
  next d _ => exact .takenUp s.ids d .nothing (Query.render_empty w d)
  · exact Outcomes.answer w s _

end Kinds

/-- What one call can do. -/
theorem step_outcomes (w : Writer) (s : Session) (c : Call) : Outcomes w s (s.step c w) := by
  cases c with
  | load q => exact Outcomes.done w s q
  | reset => exact Outcomes.done w s .empty
  | switchDialect dialect => exact Outcomes.switchDialect w s dialect
  | addTable schema name => exact Outcomes.addTable w s schema name
  | references aliasName => exact Outcomes.answer w s _
  | canAddGroup parent => exact Outcomes.answer w s _
  | addCondition table column operator value upper values group =>
    exact Outcomes.addCondition w s _ group
  | addGroup operator parent => exact Outcomes.addGroup w s operator parent
  | clearFilter => exact Outcomes.edited w s _
  | setDistinct distinct => exact Outcomes.done w s _
  | removeTable | removeColumn | removeJoin | removeCondition | removeGroup | removeHaving
  | removeSorting => exact Outcomes.removed w s _ _
  | addColumn | addJoin | addHaving | addSorting => exact Outcomes.added w s _ _ _
  | updateColumn | updateJoin | updateCondition | updateGroup | updateHaving | updateSorting =>
    exact Outcomes.patched w s _ _
  | moveColumn | moveSorting => exact Outcomes.moved w s _ _ _ _
  | addGrouping | removeGrouping | setLimit | setOffset => exact Outcomes.checked w s _

/-! ## Coherence and atomicity -/

/-- The problems of a session belong to its query, and so does the statement, if there is one. -/
structure Coherent (w : Writer) (s : Session) : Prop where
  problems : s.problems = s.query.problems s.depthLimit
  sql : ∀ text, s.query.render w s.dialect = .ok text → s.sql = text

section Outcomes

variable {w : Writer} {s : Session} {o : Outcome}

theorem Outcomes.coherent (h : Outcomes w s o) (hs : s.Coherent w) : o.1.Coherent w := by
  cases h with
  | unchanged ids a => exact ⟨hs.problems, hs.sql⟩
  | takenUp ids dialect reply h => exact ⟨rfl, fun text htext ↦ Except.ok.inj (h.symm.trans htext)⟩
  | unwritten ids h => exact ⟨rfl, fun text htext ↦ nomatch h.symm.trans htext⟩

theorem Outcomes.settings_eq (h : Outcomes w s o) : o.1.settings = s.settings := by
  cases h <;> rfl

/-- A call that fails leaves the statement and the dialect alone.  The query and its problems it
changes only if the query has no statement. -/
theorem Outcomes.of_error {after : Session} {fault : Fault}
    (h : Outcomes w s (after, .error fault)) :
    after.sql = s.sql ∧ after.dialect = s.dialect ∧
      (after.query = s.query ∧ after.problems = s.problems ∨
        ∃ m, fault = .misfit m ∧ after.query.render w after.dialect = .error m) := by
  cases h with
  | unchanged ids => exact ⟨rfl, rfl, .inl ⟨rfl, rfl⟩⟩
  | unwritten ids h => exact ⟨rfl, rfl, .inr ⟨_, rfl, h⟩⟩

end Outcomes

section Runs

variable {w : Writer} {s : Session}

/-- The statement of a coherent session is that of its query, if the query has one. -/
theorem Coherent.render_iff (h : s.Coherent w) :
    s.query.render w s.dialect = .ok s.sql ↔ s.query.Writable w s.dialect := by
  rw [← Query.exists_render_iff]
  constructor
  · exact fun hsql ↦ ⟨s.sql, hsql⟩
  · rintro ⟨text, htext⟩
    rw [h.sql text htext, htext]

/-- A run keeps what each of its calls keeps. -/
theorem run_coherent (h : s.Coherent w) (calls : List Call) : (s.run calls w).Coherent w := by
  induction calls generalizing s with
  | nil => exact h
  | cons c cs ih => exact ih ((step_outcomes w s c).coherent h)

theorem run_settings (w : Writer) (s : Session) (calls : List Call) :
    (s.run calls w).settings = s.settings := by
  induction calls generalizing s with
  | nil => rfl
  | cons c cs ih => exact (ih _).trans (step_outcomes w s c).settings_eq

end Runs

section Start

variable {settings : Settings} {dialect : Value} {ids : Option IdSource}
  {provider : Option Schema.Provider} {s : Session}

/-- A new session holds the empty query and what belongs to it. -/
theorem eq_install_of_start (h : start settings dialect ids provider = .ok s) :
    ∃ bare : Session, bare.settings = settings ∧ s = bare.install .empty := by
  rw [start] at h
  cases hd : startDialect settings dialect with
  | error fault => rw [hd] at h; cases h
  | ok d =>
    rw [hd] at h
    cases h
    exact ⟨_, rfl, rfl⟩

theorem coherent_of_start (w : Writer) (h : start settings dialect ids provider = .ok s) :
    s.settings = settings ∧ s.Coherent w := by
  obtain ⟨bare, rfl, rfl⟩ := eq_install_of_start h
  exact ⟨rfl, rfl, fun text htext ↦ Except.ok.inj htext⟩

theorem query_of_start (h : start settings dialect ids provider = .ok s) : s.query = .empty := by
  obtain ⟨bare, -, rfl⟩ := eq_install_of_start h
  rfl

end Start

/-- After any calls, the problems of a session are those of its query at the depth of its settings,
and its statement is the one for its query and dialect just where the writer gets one for them.  A
further call that fails, for whatever reason, leaves the statement and the dialect as they were, and
so it does the query and the problems, unless it has failed because the query that it leaves has no
statement. -/
theorem coherent_and_atomic (w : Writer) {settings : Settings} {dialect : Value}
    {ids : Option IdSource} {provider : Option Schema.Provider} {fresh : Session}
    (hfresh : start settings dialect ids provider = .ok fresh) (calls : List Call) :
    (fresh.run calls w).problems =
        (fresh.run calls w).query.problems (.depth settings.maxDepth.val) ∧
      ((fresh.run calls w).query.render w (fresh.run calls w).dialect =
          .ok (fresh.run calls w).sql ↔
        (fresh.run calls w).query.Writable w (fresh.run calls w).dialect) ∧
      ∀ call after fault, (fresh.run calls w).step call w = (after, .error fault) →
        after.sql = (fresh.run calls w).sql ∧ after.dialect = (fresh.run calls w).dialect ∧
          (after.query = (fresh.run calls w).query ∧
              after.problems = (fresh.run calls w).problems ∨
            ∃ m, fault = .misfit m ∧ after.query.render w after.dialect = .error m) := by
  obtain ⟨hsettings, hcoherent⟩ := coherent_of_start w hfresh
  have h := run_coherent hcoherent calls
  refine ⟨?_, h.render_iff, fun call after fault hcall ↦ ?_⟩
  · rw [h.problems, depthLimit, maxDepth, run_settings, hsettings]
  · exact Outcomes.of_error (hcall ▸ step_outcomes w _ call)

/-- Two tables and a join of them, and some calls in between that fail. -/
def orderCalls : List Call :=
  [.addTable (.text "shop") (.text "orders"), .setLimit (.text "many"),
    .addTable (.text "shop") (.text "users"), .switchDialect (.text "oracle"),
    .addJoin (.text "users") (.text "id") (.text "orders") (.text "owner") (.text "LEFT")
      (.text "=")]

theorem coherent_and_atomic_of_orderCalls :
    ∃ fresh : Session, start .default .null none none = .ok fresh ∧
      (fresh.run orderCalls .standard).sql =
        "SELECT * FROM shop.orders AS orders RIGHT JOIN shop.users AS users " ++
          "ON users.id = orders.owner" ∧
      (fresh.run orderCalls .standard).problems =
        (fresh.run orderCalls .standard).query.problems (.depth 3) ∧
      ((fresh.run orderCalls .standard).step (.switchDialect (.text "oracle")) .standard).1.query =
        (fresh.run orderCalls .standard).query := by
  refine ⟨_, rfl, by decide +kernel, ?_⟩
  obtain ⟨hproblems, -, hkept⟩ :=
    @coherent_and_atomic .standard .default .null none none _ rfl orderCalls
  refine ⟨hproblems, ?_⟩
  obtain ⟨-, -, ⟨hquery, -⟩ | ⟨m, hfault, -⟩⟩ := hkept (.switchDialect (.text "oracle")) _ _ rfl
  · exact hquery
  · cases hfault

/-! ## A limit that is too long -/

section Long

variable {w : Writer} {most : Nat} (hw : w.longest = some most)

include hw

theorem not_writable_of_limit {q : Query} (htables : q.tables ≠ [])
    {limit : { n : Nat // 0 < n }} (hlimit : q.limit = some limit)
    (hlong : 10 ^ most ≤ limit.val) (d : Dialect) : ¬ q.Writable w d := by
  intro h
  obtain ⟨plan, hplan, -⟩ := q.exists_fromPlan htables
  have hmark : .value (.int limit.val) ∈ q.marks := by
    simp [Query.marks, hplan, hlimit, Query.writtenCount]
  have hdigits : (Value.int limit.val).digitsWithin most = false :=
    decide_eq_false (not_lt.mpr hlong)
  have hcheck := h _ hmark
  rw [Writer.spell, Writer.check, hw] at hcheck
  simp only [hdigits] at hcheck
  cases hcheck

/-- With a table, a limit of more digits than can be written is held all the same; the call fails,
and the statement stays behind. -/
theorem step_setLimit_of_long {s : Session} (htables : s.query.tables ≠ []) {b : Bool}
    (hdistinct : s.query.distinct = .bool b) {n : Nat} (hlong : 10 ^ most ≤ n) :
    ∃ after fault, s.step (.setLimit (.int n)) w = (after, .error fault) ∧
      after.query.limit.map (·.val) = some n ∧ after.sql = s.sql ∧
      ∀ text, after.query.render w after.dialect ≠ .ok text := by
  have hpos : 0 < n := lt_of_lt_of_le (Nat.pow_pos (by decide)) hlong
  obtain ⟨q, hset, hqtables, hqlimit⟩ : ∃ q, s.query.setLimit (.int n) = .ok q ∧
      q.tables = s.query.tables ∧ q.limit = some ⟨n, hpos⟩ := by
    refine ⟨{ s.query with limit := some ⟨n, hpos⟩, distinct := .bool b }, ?_, rfl, rfl⟩
    simp [Query.setLimit, Check.nullable, Check.positive, Check.integer, hdistinct, hpos,
      Check.boolean]
  have hstep : s.step (.setLimit (.int n)) w = s.takeUp q .nothing w := by
    rw [step, hset]
    rfl
  have hnot := not_writable_of_limit hw (hqtables ▸ htables) hqlimit hlong s.dialect
  cases h : q.render w s.dialect with
  | ok text => exact absurd (Query.exists_render_iff.mp ⟨text, h⟩) hnot
  | error m =>
    rw [hstep, takeUp_of_error h]
    exact ⟨_, _, rfl, by rw [hqlimit]; rfl, rfl, fun text htext ↦ nomatch h.symm.trans htext⟩

end Long

def addUsers : Call := .addTable (.text "public") (.text "users")

/-- A new session is given a table, and then a limit that is too long.  The call fails, and has
changed the query and not the statement, which is no longer that of the query. -/
theorem limit_without_statement :
    ∃ fresh after fault, start .default .null none none = .ok fresh ∧
      (fresh.run [addUsers] .standard).step (.setLimit (.int (10 ^ 4300 : Nat))) .standard =
        (after, .error fault) ∧
      (fresh.run [addUsers] .standard).query.limit = none ∧
      after.query.limit.map (·.val) = some (10 ^ 4300) ∧
      after.sql = (fresh.run [addUsers] .standard).sql ∧
      ∀ text, after.query.render .standard after.dialect ≠ .ok text := by
  obtain ⟨fresh, hfresh⟩ : ∃ fresh, start .default .null none none = .ok fresh := ⟨_, rfl⟩
  have hempty := query_of_start hfresh
  obtain ⟨t, ht⟩ : ∃ t, fresh.readTable (.text "public") (.text "users") = .ok t := by
    cases hfresh
    exact ⟨_, rfl⟩
  have hquery : (fresh.run [addUsers] .standard).query = fresh.query.addTable t := by
    change (fresh.addTable _ _ _).1.query = _
    rw [addTable, ht]
    exact takeUp_query _ _ _ _
  obtain ⟨after, fault, hstep, hlimit, hsql, hrender⟩ :=
    step_setLimit_of_long (w := .standard) rfl (s := fresh.run [addUsers] .standard)
      (by simp [hquery, Query.addTable]) (b := false) (by rw [hquery, hempty]; rfl) le_rfl
  exact ⟨fresh, after, fault, hfresh, hstep, by rw [hquery, hempty]; rfl, hlimit, hsql, hrender⟩

end Session

end SelectBuilder
