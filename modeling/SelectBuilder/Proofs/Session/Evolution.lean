import SelectBuilder.Proofs.Query.Evolution
import SelectBuilder.Proofs.Session.Coherence
import SelectBuilder.Proofs.Session.Ids

/-!
# What a session keeps

A session edits its query with ids from its source, and only with those.  So what is known of a
single edit of a query (`Query.Evolves`) comes together with what is known of the source: an id that
has been drawn is not drawn again, whether the call that drew it failed or not, and therefore the
ids in the query stay distinct.  `step_evolves` says so much of every kind of call, and the rest are
two invariants that go along with any such step.

Two calls bring in ids and groups from elsewhere.  A query that is loaded has its own, and so have
the members that a patch gives to a group.
-/

namespace SelectBuilder

/-- Whether all ids and groups that the call brings into a query are new ones. -/
def Call.KeepsStructure : Call → Prop
  | .load _ => False
  | .updateGroup _ patch => patch.lookup "conditions" = none ∧ patch.lookup "groups" = none
  | _ => True

theorem Checked.of_orFault_eq_ok {α : Type} {x : Checked α} {a : α} (h : x.orFault = .ok a) :
    x = .ok a := by
  cases x <;> cases h
  rfl

namespace Query

variable {q : Query} {limit : Nat}

theorem nestingProblems_eq_nil (h : q.WithinDepth limit) :
    q.nestingProblems (.depth limit) = [] := by
  rw [nestingProblems]
  split
  next => rfl
  next g hg =>
    have hle := h g hg
    rw [if_neg]
    rw [DepthLimit.excludes_depth]
    omega

theorem problem?_ne_tooDeep (c : Condition) (height : Nat) (l : DepthLimit) :
    c.problem? ≠ some (.tooDeep height l) := by
  rw [Condition.problem?]
  split <;> (try split) <;> simp

theorem tooDeep_not_mem_problems (h : q.WithinDepth limit)
    (height : Nat) (l : DepthLimit) : .tooDeep height l ∉ q.problems (.depth limit) := by
  simp only [problems, nestingProblems_eq_nil h, List.mem_append, tableProblems, groupingProblems,
    columnAliasProblems, referenceProblems, valueProblems, joinProblems, tableAliasProblems]
  -- What is left are the other rules, of which each has problems of its own.
  intro hmem
  split at hmem <;> split at hmem <;> split at hmem <;> simp [problem?_ne_tooDeep] at hmem

end Query

namespace Session

/-- The session `s'` comes from `s` by drawing some ids, and perhaps an edit with these. -/
def Evolves (s s' : Session) : Prop :=
  ∃ n, s'.ids = s.ids.skip n ∧ s.query.Evolves s.settings.maxDepth (s.ids.take n) s'.query

/-! ## Kinds of calls -/

theorem id_of_readCondition {i : String} {table column operator value upper values : Value}
    {c : Condition} (h : readCondition i table column operator value upper values = .ok c) :
    c.id = i := by
  rw [readCondition] at h
  split at h
  case h_1 => cases h
  case h_2 => exact Condition.ofFields_gives_id _ _ c (Checked.of_orFault_eq_ok h)

section Kinds

variable (s : Session) {w : Writer}

/-- The session after some ids have been drawn from it. -/
def after (n : Nat) : Session := { s with ids := s.ids.skip n }

theorem Evolves.after (n : Nat) : s.Evolves (s.after n) := ⟨n, rfl, .refl _ _ _⟩

theorem Evolves.refl : s.Evolves s := .after s 0

theorem Evolves.takeUp (n : Nat) {q : Query}
    (h : s.query.Evolves s.settings.maxDepth (s.ids.take n) q) (reply : Reply) :
    s.Evolves ((s.after n).takeUp q reply w).1 := by
  refine ⟨n, takeUp_ids _ _ _ _, ?_⟩
  rwa [takeUp_query]

theorem Evolves.refusable (n : Nat) {q : Option Query}
    (h : ∀ r, q = some r → s.query.Evolves s.settings.maxDepth (s.ids.take n) r) (reply : Reply) :
    s.Evolves ((s.after n).refusable q reply w).1 := by
  cases q with
  | none => exact .after s n
  | some r => exact .takeUp s n (h r rfl) reply

theorem Evolves.edited {q : Option Query}
    (h : ∀ r, q = some r → s.query.Evolves s.settings.maxDepth [] r) :
    s.Evolves (s.edited q w).1 := by
  cases q with
  | none => exact .takeUp s 0 (.refl _ _ _) _
  | some r => exact .takeUp s 0 (h r rfl) _

theorem Evolves.attempted {q : Except Fault (Option Query)}
    (h : ∀ r, q = .ok (some r) → s.query.Evolves s.settings.maxDepth [] r) :
    s.Evolves (s.attempted q w).1 := by
  cases q with
  | ok q => exact .edited s fun r hr ↦ h r (hr ▸ rfl)
  | error fault => exact .refl s

theorem Evolves.checked {q : Checked (Option Query)}
    (h : ∀ r, q = .ok (some r) → s.query.Evolves s.settings.maxDepth [] r) :
    s.Evolves (s.checked q w).1 :=
  .attempted s fun r hr ↦ h r (Checked.of_orFault_eq_ok hr)

theorem Evolves.removed {remove : String → Option Query}
    (h : ∀ {i r}, remove i = some r → s.query.Evolves s.settings.maxDepth [] r) (id : Value) :
    s.Evolves (s.removed id remove w).1 := by
  refine .edited s fun r hr ↦ ?_
  obtain ⟨i, -, hr⟩ := Option.bind_eq_some_iff.mp hr
  exact h hr

theorem Evolves.patched {update : String → Checked (Option Query)}
    (h : ∀ {i r}, update i = .ok (some r) → s.query.Evolves s.settings.maxDepth [] r)
    (id : Value) : s.Evolves (s.patched id update w).1 := by
  unfold Session.patched
  split
  · exact .checked s fun r hr ↦ h hr
  · exact .edited s fun r hr ↦ nomatch hr

theorem Evolves.moved {α : Type} [Identified α] {move : String → Int → Option Query}
    (h : ∀ {i index r}, move i index = some r → s.query.Evolves s.settings.maxDepth [] r)
    (items : List α) (id index : Value) : s.Evolves (s.moved items id index move w).1 := by
  unfold Session.moved
  split
  next i _ =>
    refine .attempted s fun r hr ↦ ?_
    cases hindex : Identified.indexFor items i index with
    | error m => rw [hindex] at hr; cases hr
    | ok k =>
      rw [hindex] at hr
      exact h (Except.ok.inj hr)
  · exact .edited s fun r hr ↦ nomatch hr

theorem Evolves.added {α : Type} {part : Checked α} {add : Query → α → Query}
    (h : part.Gives fun a ↦ s.query.Evolves s.settings.maxDepth [s.ids.id] (add s.query a))
    (reply : α → Reply) : s.Evolves (s.added part add reply w).1 := by
  unfold Session.added
  cases hpart : part with
  | ok a => exact .takeUp s 1 (h a hpart) _
  | bad defects => exact .after s 1

theorem Evolves.addTable (schema name : Value) : s.Evolves (s.addTable schema name w).1 := by
  unfold Session.addTable
  split
  · exact .takeUp s 0 (Query.evolves_addTable _ _) _
  · exact .refl s

theorem Evolves.addCondition {condition : Except Fault Condition}
    (h : ∀ c, condition = .ok c → c.id = s.ids.id) (group : Value) :
    s.Evolves (s.addCondition condition group w).1 := by
  unfold Session.addCondition
  split
  next => exact .after s 1
  next c =>
    have hid := h c rfl
    split
    next hfilter =>
      refine .refusable s 2 (fun r hr ↦ ?_) _
      rw [IdSource.take, ← hid]
      exact Query.evolves_addCondition_of_none hfilter hr
    next g hg =>
      refine .refusable s 1 (fun r hr ↦ ?_) _
      rw [IdSource.take, ← hid]
      exact Query.evolves_addCondition hg hr

theorem Evolves.addGroup (operator parent : Value) :
    s.Evolves (s.addGroup operator parent w).1 := by
  unfold Session.addGroup
  split
  · exact .after s 1
  · exact .refusable s 1 (fun r hr ↦ Query.evolves_addGroup hr) _

theorem Evolves.switchDialect (dialect : Value) : s.Evolves (s.switchDialect dialect w).1 := by
  unfold Session.switchDialect
  split
  next d _ =>
    refine ⟨0, takeUp_ids { s with dialect := d } _ _ _, ?_⟩
    rw [Session.done, takeUp_query]
    exact Query.evolves_empty _
  · exact .refl s

end Kinds

/-- What one call can do. -/
theorem step_evolves (w : Writer) (s : Session) {c : Call} (hc : c.KeepsStructure) :
    s.Evolves (s.step c w).1 := by
  cases c with
  | load q => exact hc.elim
  | reset => exact .takeUp (w := w) s 0 (Query.evolves_empty _) _
  | switchDialect dialect => exact .switchDialect s dialect
  | addTable schema name => exact .addTable s schema name
  | removeTable aliasName => exact .removed s Query.evolves_removeTable aliasName
  | references aliasName => exact .refl s
  | addColumn =>
    exact .added s (fun c hc ↦ Selection.ofFields_gives_id _ _ c hc ▸ Query.evolves_addColumn _ c) _
  | removeColumn id => exact .removed s Query.evolves_removeColumn id
  | updateColumn id patch => exact .patched s Query.evolves_updateColumn id
  | moveColumn id index => exact .moved s Query.evolves_moveColumn _ id index
  | addJoin =>
    exact .added s (fun j hj ↦ Join.ofFields_gives_id _ _ j hj ▸ Query.evolves_addJoin _ j) _
  | removeJoin id => exact .removed s Query.evolves_removeJoin id
  | updateJoin id patch => exact .patched s Query.evolves_updateJoin id
  | addCondition => exact .addCondition s (fun c hc ↦ id_of_readCondition hc) _
  | removeCondition id => exact .removed s Query.evolves_removeCondition id
  | updateCondition id patch => exact .patched s Query.evolves_updateCondition id
  | addGroup operator parent => exact .addGroup s operator parent
  | canAddGroup parent => exact .refl s
  | removeGroup id => exact .removed s Query.evolves_removeGroup id
  | updateGroup id patch => exact .patched s (Query.evolves_updateGroup hc.1 hc.2) id
  | clearFilter => exact .edited s fun r hr ↦ Query.evolves_clearFilter hr
  | addGrouping =>
    refine .checked s fun r hr ↦ ?_
    obtain ⟨c, -, hr⟩ := Checked.of_map_eq_ok hr
    exact Query.evolves_addGrouping hr
  | removeGrouping =>
    refine .checked s fun r hr ↦ ?_
    obtain ⟨c, -, hr⟩ := Checked.of_map_eq_ok hr
    exact Query.evolves_removeGrouping hr
  | addHaving =>
    exact .added s
      (fun a ha ↦ GroupFilter.ofFields_gives_id _ _ a ha ▸ Query.evolves_addHaving _ a) _
  | removeHaving id => exact .removed s Query.evolves_removeHaving id
  | updateHaving id patch => exact .patched s Query.evolves_updateHaving id
  | addSorting =>
    exact .added s (fun k hk ↦ SortKey.ofFields_gives_id _ _ k hk ▸ Query.evolves_addSorting _ k) _
  | removeSorting id => exact .removed s Query.evolves_removeSorting id
  | updateSorting id direction => exact .patched s Query.evolves_updateSorting id
  | moveSorting id index => exact .moved s Query.evolves_moveSorting _ id index
  | setLimit limit =>
    refine .checked s fun r hr ↦ ?_
    obtain ⟨q, hq, hr⟩ := Checked.of_map_eq_ok hr
    cases hr
    exact Query.evolves_setLimit hq
  | setOffset offset =>
    refine .checked s fun r hr ↦ ?_
    obtain ⟨q, hq, hr⟩ := Checked.of_map_eq_ok hr
    cases hr
    exact Query.evolves_setOffset hq
  | setDistinct distinct => exact .takeUp s 0 (Query.evolves_setDistinct _ distinct) _

/-! ## Invariants -/

/-- The ids of a query are distinct, and none of them is still to be drawn. -/
structure Fresh (s : Session) : Prop where
  source : s.ids.Distinct
  ids : s.query.DistinctIds
  held : ∀ kind, ∀ i ∈ s.query.ids kind, ¬ s.ids.Pending i

theorem Evolves.fresh {s s' : Session} (h : s.Evolves s') (hs : s.Fresh) : s'.Fresh := by
  obtain ⟨n, hids, hquery⟩ := h
  refine ⟨hids ▸ hs.source.skip n, ?_, ?_⟩
  · exact hs.ids.of_evolves hquery (hs.source n) fun kind i hi hheld ↦ hs.held kind i hheld ⟨n, hi⟩
  · intro kind i hi
    rw [hids]
    rcases List.mem_append.mp ((hquery.ids hs.ids kind).subset hi) with hdrawn | hheld
    · exact hs.source.not_pending hdrawn
    · exact fun hpending ↦ hs.held kind i hheld hpending.of_skip

/-- What edits keep of a query beside its ids. -/
structure Tidy (s : Session) : Prop where
  aliases : s.query.aliases.Nodup
  grouping : s.query.grouping.Nodup
  height : s.query.WithinDepth s.settings.maxDepth

theorem Evolves.tidy {s s' : Session} (h : s.Evolves s') (hsettings : s'.settings = s.settings)
    (hs : s.Tidy) : s'.Tidy := by
  obtain ⟨n, -, hquery⟩ := h
  exact ⟨hquery.aliases hs.aliases, hquery.grouping hs.grouping,
    hsettings ▸ hquery.height hs.height⟩

section Runs

variable {w : Writer} {s : Session} {calls : List Call} (hcalls : ∀ c ∈ calls, c.KeepsStructure)

include hcalls

theorem run_fresh (hs : s.Fresh) : (s.run calls w).Fresh := by
  induction calls generalizing s with
  | nil => exact hs
  | cons c calls ih =>
    obtain ⟨hc, hcalls⟩ := List.forall_mem_cons.mp hcalls
    exact ih hcalls ((step_evolves w s hc).fresh hs)

theorem run_tidy (hs : s.Tidy) : (s.run calls w).Tidy := by
  induction calls generalizing s with
  | nil => exact hs
  | cons c calls ih =>
    obtain ⟨hc, hcalls⟩ := List.forall_mem_cons.mp hcalls
    exact ih hcalls ((step_evolves w s hc).tidy (step_outcomes w s c).settings_eq hs)

/-- Whatever a run does, its ids come from the source one after the other. -/
theorem exists_run_ids_eq : ∃ n, (s.run calls w).ids = s.ids.skip n := by
  induction calls generalizing s with
  | nil => exact ⟨0, rfl⟩
  | cons c calls ih =>
    obtain ⟨hc, hcalls⟩ := List.forall_mem_cons.mp hcalls
    obtain ⟨m, hm, -⟩ := step_evolves w s hc
    obtain ⟨n, hn⟩ := ih hcalls (s := (s.step c w).1)
    exact ⟨m + n, by rw [← IdSource.skip_skip, ← hm, ← hn]; rfl⟩

end Runs

theorem run_append (w : Writer) (s : Session) (earlier later : List Call) :
    s.run (earlier ++ later) w = (s.run earlier w).run later w :=
  List.foldl_append

/-! ## Runs of a new session -/

theorem fresh_of_empty {s : Session} (hquery : s.query = .empty) (hids : s.ids.Distinct) :
    s.Fresh where
  source := hids
  ids kind := by
    rw [hquery]
    cases kind <;> exact List.nodup_nil
  held kind i hi := by
    rw [hquery] at hi
    cases kind <;> cases hi

theorem tidy_of_empty {s : Session} (hquery : s.query = .empty) : s.Tidy where
  aliases := hquery ▸ List.nodup_nil
  grouping := hquery ▸ List.nodup_nil
  height g hg := by
    rw [hquery] at hg
    cases hg

/-- A new session that numbers its ids goes through any calls, apart from those that bring in parts
with ids of their own.  Then the aliases of its tables are distinct, and so are its grouping columns
and its ids of each kind.  No id that was in the query at any time is still to be drawn.  The filter
is nested within the limit of the session, so that its depth is never a problem. -/
theorem run_keeps_structure (w : Writer) {settings : Settings} {dialect : Value}
    {ids : Option IdSource} {provider : Option Schema.Provider} {fresh : Session} {stem : String}
    (hfresh : start settings dialect ids provider = .ok fresh) (hids : fresh.ids = .ofStem stem)
    (calls : List Call) (hcalls : ∀ c ∈ calls, c.KeepsStructure) :
    (fresh.run calls w).query.aliases.Nodup ∧
      (fresh.run calls w).query.grouping.Nodup ∧
      (∀ kind, ((fresh.run calls w).query.ids kind).Nodup) ∧
      (∀ earlier later, calls = earlier ++ later → ∀ kind,
        ∀ i ∈ (fresh.run earlier w).query.ids kind, ¬ (fresh.run calls w).ids.Pending i) ∧
      (∀ g, (fresh.run calls w).query.filter = some g → g.height ≤ settings.maxDepth) ∧
      ∀ height limit, .tooDeep height limit ∉ (fresh.run calls w).problems := by
  obtain ⟨hsettings, hcoherent⟩ := coherent_of_start w hfresh
  have hempty := query_of_start hfresh
  have hdistinct : fresh.ids.Distinct := hids ▸ IdSource.distinct_numbered stem 1
  have htidy := run_tidy (w := w) hcalls (tidy_of_empty hempty)
  have hnested : (fresh.run calls w).query.WithinDepth settings.maxDepth := by
    rw [← hsettings, ← run_settings w fresh calls]
    exact htidy.height
  refine ⟨htidy.aliases, htidy.grouping, (run_fresh hcalls (fresh_of_empty hempty hdistinct)).ids,
    ?_, hnested, ?_⟩
  · rintro earlier later rfl kind i hi
    obtain ⟨hearlier, hlater⟩ := List.forall_mem_append.mp hcalls
    obtain ⟨n, hn⟩ := exists_run_ids_eq (s := fresh.run earlier w) hlater
    rw [run_append, hn]
    intro hpending
    exact (run_fresh hearlier (fresh_of_empty hempty hdistinct)).held kind i hi hpending.of_skip
  · intro height limit
    rw [(run_coherent hcoherent calls).problems, depthLimit, maxDepth, run_settings, hsettings]
    exact Query.tooDeep_not_mem_problems hnested height limit

/-- Two tables of one name, a filter with a group that is nested as deep as it may be, and among
them calls that fail, one that is refused, and one that removes what was there. -/
def stockCalls : List Call :=
  [.addTable (.text "shop") (.text "Stock"), .addTable (.text "shop") (.text "stock"),
    .addCondition (.text "stock") (.text "item") (.text "=") (.int 3) .null (.list []) .null,
    .addCondition (.text "stock") (.text "item") (.text "near") .null .null (.list []) .null,
    .addGroup (.text "OR") .null, .addGroup (.text "AND") (.text "n4"),
    .addCondition (.text "stock_1") (.text "place") (.text "IS NULL") .null .null (.list [])
      (.text "n4"),
    .addColumn (.text "stock") (.text "item") .null .null (.bool false),
    .addGrouping (.text "stock") (.text "item"), .addGrouping (.text "stock") (.text "item"),
    .removeCondition (.text "n1"), .updateGroup (.text "n4") [("operator", .text "AND")]]

theorem run_keeps_structure_of_stockCalls :
    ∃ fresh : Session, start { maxDepth := ⟨1, by decide⟩ } .null none none = .ok fresh ∧
      fresh.ids = .ofStem "n" ∧ (∀ c ∈ stockCalls, c.KeepsStructure) ∧
      (fresh.run stockCalls .standard).query.aliases = ["stock", "stock_1"] ∧
      (fresh.run stockCalls .standard).query.ids .filter = ["n2", "n4", "n6"] ∧
      (fresh.run stockCalls .standard).query.grouping.Nodup ∧
      ∀ height limit, .tooDeep height limit ∉ (fresh.run stockCalls .standard).problems := by
  have hcalls : ∀ c ∈ stockCalls, c.KeepsStructure := by
    simp [stockCalls, Call.KeepsStructure]
  refine ⟨_, rfl, rfl, hcalls, by decide +kernel, by decide +kernel, ?_⟩
  obtain ⟨-, hgrouping, -, -, -, hproblems⟩ :=
    @run_keeps_structure .standard { maxDepth := ⟨1, by decide⟩ } .null none none _ "n" rfl rfl
      stockCalls hcalls
  exact ⟨hgrouping, hproblems⟩

end Session

end SelectBuilder
