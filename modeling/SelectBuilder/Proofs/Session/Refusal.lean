import SelectBuilder.Proofs.Filter.Locality
import SelectBuilder.Proofs.Session.Coherence

/-!
# Refused additions

A condition or a group can be meant for a group that is not there.  The filter tells so by handing
back nothing, and a session that gets nothing from an edit answers with nothing and stays as it was
(`refuses_iff_of_refusable`).  A query without a filter never gets that far: what is added becomes
the filter, whatever group it was meant for.  So an unknown group is refused, and asking beforehand
agrees with what is done, just where there is a filter (`unknown_group_refused_iff`).
-/

namespace SelectBuilder

/-- Where no two groups share an id, it is asked beforehand whether a group gets nested. -/
theorem ConditionGroup.canNest_iff_nest_ne_none {g leaf : ConditionGroup} {i : String} {n : Int}
    (hids : (g.allGroups.map id).Nodup) (hleaf : leaf.groups = []) :
    g.canNest i (.depth n) ↔ g.nest i leaf (.depth n) ≠ none := by
  rw [canNest_iff hids hleaf]
  cases hnest : g.nest i leaf (.depth n) with
  | none => simp
  | some g' =>
    obtain ⟨h, d, -, -, -, hr, -⟩ := (nest_eq_some_iff hids).mp hnest
    have hne : { h with groups := h.groups ++ [leaf] } ≠ h :=
      fun heq ↦ by simpa using congrArg groups heq
    exact iff_of_true (hr.ne hne) (Option.some_ne_none g')

namespace Query

variable {q : Query} {i : String}

theorem target_text (root : ConditionGroup) (hi : i ≠ "") : target root (.text i) = some i :=
  if_pos (decide_eq_true hi)

/-- A condition is refused only by a filter, and by that if no group of it has the id. -/
theorem addCondition_eq_none_iff {c : Condition} {rootId : String} (hi : i ≠ "") :
    q.addCondition c (.text i) rootId = none ↔
      ∃ g, q.filter = some g ∧ ∀ h ∈ g.allGroups, h.id ≠ i := by
  rw [addCondition]
  cases q.filter with
  | none => simp
  | some g =>
    simp only [target_text g hi, Option.bind_some, Option.map_eq_none_iff, Option.some.injEq,
      exists_eq_left', ConditionGroup.addConditionTo]
    exact ConditionGroup.changeAt_eq_none_iff

/-- A group without nested groups is refused only by a filter, and by that if it cannot be nested
there. -/
theorem addGroup_eq_none_iff {new : ConditionGroup} (hi : i ≠ "") (hnew : new.groups = []) {n : Int}
    (hn : 0 ≤ n) :
    q.addGroup new (.text i) (.depth n) = none ↔
      ∃ g, q.filter = some g ∧ g.nest i new (.depth n) = none := by
  rw [addGroup]
  cases q.filter with
  | none =>
    have hheight : new.height = 0 := by
      rw [ConditionGroup.height_eq, hnew]
      rfl
    simp [hheight, hn]
  | some g =>
    simp only [target_text g hi, Option.bind_some, Option.map_eq_none_iff, Option.some.injEq,
      exists_eq_left']

end Query

namespace Session

variable {s : Session} {i : String}

/-- Whether a call is answered with nothing and leaves the session as it was.  Ids may have been
drawn for it. -/
def Refuses (s : Session) (c : Call) : Prop := ∃ ids, s.step c = ({ s with ids }, .ok .nothing)

/-- Whether a session says that a group can be added to a parent. -/
def Permits (s : Session) (parent : Value) : Prop :=
  (s.step (.canAddGroup parent)).2 = .ok (.permission true)

/-- Whether a call is answered with a group. -/
def Grants (s : Session) (c : Call) : Prop := ∃ g, (s.step c).2 = .ok (.group g)

/-- An edit is refused if nothing comes of it, and only then. -/
theorem refusable_eq_nothing_iff {ids : IdSource} {q : Option Query} {reply : Reply}
    (hreply : reply ≠ .nothing) :
    (∃ ids', ({ s with ids } : Session).refusable q reply =
      ({ s with ids := ids' }, .ok .nothing)) ↔ q = none := by
  cases q with
  | none => exact iff_of_true ⟨ids, rfl⟩ rfl
  | some q =>
    refine iff_of_false ?_ (Option.some_ne_none q)
    rintro ⟨ids', heq⟩
    rw [refusable, takeUp_eq] at heq
    exact hreply (by simpa using congrArg Prod.snd heq)

theorem refuses_addCondition_iff {table column operator value upper values : Value} {c : Condition}
    (hi : i ≠ "") (hc : readCondition s.ids.id table column operator value upper values = .ok c) :
    s.Refuses (.addCondition table column operator value upper values (.text i)) ↔
      ∃ g, s.query.filter = some g ∧ ∀ h ∈ g.allGroups, h.id ≠ i := by
  have hreply : Reply.condition c ≠ .nothing := nofun
  have hrefused (ids : IdSource) (rootId : String) :
      (∃ ids', ({ s with ids } : Session).refusable (s.query.addCondition c (.text i) rootId)
        (.condition c) = ({ s with ids := ids' }, .ok .nothing)) ↔
        ∃ g, s.query.filter = some g ∧ ∀ h ∈ g.allGroups, h.id ≠ i :=
    (refusable_eq_nothing_iff hreply).trans (Query.addCondition_eq_none_iff hi)
  rw [Refuses, step, hc, addCondition]
  split
  next => exact hrefused s.ids.advance.advance _
  next => exact hrefused s.ids.advance _

section Group

variable {operator : Value} {k : Connective}

theorem step_addGroup (hk : Check.word Connective operator = .ok k) :
    s.step (.addGroup operator (.text i)) =
      s.drawn.refusable
        (s.query.addGroup { id := s.ids.id, connective := k } (.text i) s.depthLimit)
        (.group { id := s.ids.id, connective := k }) := by
  rw [step, addGroup, hk]
  rfl

theorem refuses_addGroup_iff (hi : i ≠ "") (hk : Check.word Connective operator = .ok k) :
    s.Refuses (.addGroup operator (.text i)) ↔
      ∃ g, s.query.filter = some g ∧
        g.nest i { id := s.ids.id, connective := k } s.depthLimit = none := by
  have hreply : Reply.group { id := s.ids.id, connective := k } ≠ .nothing := nofun
  rw [Refuses, step_addGroup hk]
  exact (refusable_eq_nothing_iff hreply).trans
    (Query.addGroup_eq_none_iff hi rfl (Int.natCast_nonneg _))

/-- A group that is not refused is added. -/
theorem grants_addGroup_iff (hk : Check.word Connective operator = .ok k) :
    s.Grants (.addGroup operator (.text i)) ↔ ¬ s.Refuses (.addGroup operator (.text i)) := by
  rw [Grants, Refuses, step_addGroup hk]
  cases s.query.addGroup { id := s.ids.id, connective := k } (.text i) s.depthLimit with
  | none => exact iff_of_false (by simp [refusable]) (not_not_intro ⟨_, rfl⟩)
  | some q =>
    rw [refusable, takeUp_eq]
    exact iff_of_true ⟨_, rfl⟩ (by simp)

end Group

theorem permits_iff :
    s.Permits (.text i) ↔ ∃ g, s.query.filter = some g ∧ g.canNest i s.depthLimit := by
  rw [Permits, step, canAddGroup]
  cases s.query.filter <;> simp [Value.text?]

/-! ## The main statement -/

/-- With ids that are not empty, an addition to a group that is not in the filter is refused just
where there is a filter, and where there is none it is not.  If no two groups of the filter share an
id, it is there again that asking whether a group can be added agrees with adding it. -/
theorem unknown_group_refused_iff (s : Session) {i : String} (hi : i ≠ "") :
    ((∀ g, s.query.filter = some g → ∀ h ∈ g.allGroups, h.id ≠ i) →
      (∀ table column operator value upper values c,
        readCondition s.ids.id table column operator value upper values = .ok c →
          (s.Refuses (.addCondition table column operator value upper values (.text i)) ↔
            s.query.filter.isSome)) ∧
      ∀ operator k, Check.word Connective operator = .ok k →
        (s.Refuses (.addGroup operator (.text i)) ↔ s.query.filter.isSome)) ∧
    ((∀ g, s.query.filter = some g → (g.allGroups.map ConditionGroup.id).Nodup) →
      ∀ operator k, Check.word Connective operator = .ok k →
        ((s.Permits (.text i) ↔ s.Grants (.addGroup operator (.text i))) ↔
          s.query.filter.isSome)) := by
  constructor
  · intro habsent
    constructor
    · intro table column operator value upper values c hc
      rw [refuses_addCondition_iff hi hc, Option.isSome_iff_exists]
      exact exists_congr fun g ↦ and_iff_left_of_imp (habsent g)
    · intro operator k hk
      rw [refuses_addGroup_iff hi hk, Option.isSome_iff_exists]
      refine exists_congr fun g ↦ and_iff_left_of_imp fun hg ↦ ?_
      exact ConditionGroup.nest_eq_none fun h d hmem hid ↦
        absurd hid (habsent g hg h (ConditionGroup.mem_allGroups_of_mem_groupsAt hmem))
  · intro hids operator k hk
    rw [grants_addGroup_iff hk, refuses_addGroup_iff hi hk, permits_iff]
    cases hfilter : s.query.filter with
    | none => simp
    | some g =>
      have hcan : g.canNest i s.depthLimit ↔
          g.nest i { id := s.ids.id, connective := k } s.depthLimit ≠ none :=
        ConditionGroup.canNest_iff_nest_ne_none (hids g hfilter) rfl
      simpa using hcan

def shelfQuery : Query := { filter := some ConditionGroup.shelfFilter }

/-- A new condition, which is meant for a group. -/
def addRow (group : String) : Call :=
  .addCondition (.text "s") (.text "row") (.text "=") (.int 1) .null (.list []) (.text group)

/-- A new group, which is meant for a parent. -/
def addAll (parent : String) : Call := .addGroup (.text "AND") (.text parent)

/-- A session with a filter refuses what is meant for a group that the filter does not have, and
knows beforehand that a group can be nested two levels down. -/
theorem unknown_group_refused_of_shelfQuery :
    ∃ fresh : Session, start .default .null none none = .ok fresh ∧
      (fresh.install shelfQuery).Refuses (addRow "9") ∧
      (fresh.install shelfQuery).Refuses (addAll "9") ∧
      ((fresh.install shelfQuery).Permits (.text "3") ↔
        (fresh.install shelfQuery).Grants (addAll "3")) := by
  refine ⟨_, rfl, ?_⟩
  obtain ⟨hunknown, -⟩ := unknown_group_refused_iff (install _ shelfQuery) (i := "9") (by decide)
  obtain ⟨-, hknown⟩ := unknown_group_refused_iff (install _ shelfQuery) (i := "3") (by decide)
  have hword : Check.word Connective (.text "AND") = .ok .and := rfl
  obtain ⟨hcondition, hgroup⟩ := hunknown (by
    rintro g ⟨⟩
    decide)
  refine ⟨(hcondition _ _ _ _ _ _ _ rfl).mpr rfl, (hgroup _ _ hword).mpr rfl, ?_⟩
  refine (hknown ?_ _ _ hword).mpr rfl
  rintro g ⟨⟩
  decide

/-- A new session takes a condition for a group that there is not, and makes a filter of it; and it
adds a group of which it has said that it cannot be added. -/
theorem unknown_group_accepted :
    ∃ fresh : Session, start .default .null none none = .ok fresh ∧
      (fresh.step (addRow "9")).1.query.filter =
        some { id := "n2"
               conditions := [{ id := "n1", subject := ⟨"s", "row"⟩, value := .int 1 }] } ∧
      (fresh.step (addRow "9")).2 =
        .ok (.condition { id := "n1", subject := ⟨"s", "row"⟩, value := .int 1 }) ∧
      ¬ fresh.Permits (.text "9") ∧ fresh.Grants (addAll "9") := by
  refine ⟨_, rfl, rfl, rfl, ?_, ⟨_, rfl⟩⟩
  rw [permits_iff]
  rintro ⟨g, hg, -⟩
  cases hg

end Session

end SelectBuilder
