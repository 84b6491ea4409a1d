import SelectBuilder.Proofs.Query.Commuting
import SelectBuilder.Proofs.Query.Patch

/-!
# Updates of the parts of a query

Selected columns, joins, conditions, filters of groups and sort keys are updated by patches in the
same way: the parts with an id are changed, wherever they are, and nothing else is.  What is needed
of one kind of parts for this is how a patch of them is read and how all of them can be changed
(`Patched`).  Everything about updates is then said once for all kinds (`updates_compose`): two of
them come to one, a second time changes nothing, all ids stay, and the query is otherwise as it was.
-/

namespace SelectBuilder

instance : Identified Condition := ⟨Condition.id⟩

/-! ## Kinds of parts -/

namespace Identified

variable {α : Type} [Identified α]

/-- A change of the parts with an id, and of no others. -/
def only (i : String) (f : α → α) (a : α) : α := if id a = i then f a else a

theorem id_only {f : α → α} (hf : ∀ a, id (f a) = id a) (i : String) (a : α) :
    id (only i f a) = id a := by
  rw [only]
  split
  next => exact hf a
  next => rfl

theorem only_comp {f : α → α} (hf : ∀ a, id (f a) = id a) (i : String) (f' : α → α) :
    only i f' ∘ only i f = only i (f' ∘ f) := by
  funext a
  by_cases ha : id a = i
  · simp [only, ha, hf]
  · simp [only, ha]

/-- The change that a patch asks for, which is read only if there is a part with the id. -/
def changeFor (patch : Fields → Checked (α → α)) (items : List α) (i : String) (fs : Fields) :
    Checked (α → α) :=
  if items.any (id · = i) then patch fs else .ok fun a ↦ a

theorem map_id_map {f : α → α} (hf : ∀ a, id (f a) = id a) (items : List α) :
    (items.map f).map id = items.map id := by
  rw [List.map_map]
  exact List.map_congr_left fun a _ ↦ hf a

/-- A part with the id is there after a change if it was there before. -/
theorem changeFor_map {f : α → α} (hf : ∀ a, id (f a) = id a)
    (patch : Fields → Checked (α → α)) (items : List α) (i : String) (fs : Fields) :
    changeFor patch (items.map f) i fs = changeFor patch items i fs := by
  simp only [changeFor, List.any_map, Function.comp_def, hf]

theorem changeFor_keeps_id {patch : Fields → Checked (α → α)} {fs : Fields}
    (hpatch : (patch fs).Keeps id) (items : List α) (i : String) :
    (changeFor patch items i fs).Keeps id := by
  rw [changeFor]
  split
  next => exact hpatch
  next =>
    rintro f ⟨⟩ a
    rfl

theorem composes_changeFor {patch : Fields → Checked (α → α)} (hpatch : Fields.Composes patch)
    (items : List α) (i : String) : Fields.Composes (changeFor patch items i) := by
  intro p p' f f' hf hf'
  rw [changeFor] at hf hf' ⊢
  split at hf
  next hany =>
    rw [if_pos hany] at hf' ⊢
    exact hpatch p p' f f' hf hf'
  next hany =>
    rw [if_neg hany] at hf' ⊢
    cases hf
    cases hf'
    rfl

end Identified

open Identified (only changeFor map_id_map)

/-- A kind of parts of a query that are updated by patches. -/
class Patched (α : Type) extends Identified α where
  /-- The fields of a part, in its written form. -/
  fields : α → Fields
  ofFields (α) : Fields → Checked α
  patch : Fields → Checked (α → α)
  /-- All parts of this kind. -/
  parts (α) : Query → List α
  /-- Change all parts of this kind, and nothing else. -/
  mapParts : (α → α) → Query → Query
  update (α) : Query → String → Fields → Checked (Option Query)
  composes_patch : Fields.Composes patch
  ofFields_onto (fs : Fields) (a : α) :
    ofFields (fs.changeable.onto (fields a)) = (· a) <$> patch fs
  patch_keeps_id (fs : Fields) : (patch fs).Keeps id
  patch_keeps_fields {fs : Fields} {name : String} :
    fs.changeable.lookup name = none → (patch fs).Keeps fun a ↦ (fields a).lookup name
  parts_mapParts (f : α → α) (q : Query) : parts (mapParts f q) = (parts q).map f
  mapParts_mapParts (f f' : α → α) (q : Query) :
    mapParts f' (mapParts f q) = mapParts (f' ∘ f) q
  ids_mapParts {f : α → α} (q : Query) :
    (∀ a, id (f a) = id a) → ∀ kind, (mapParts f q).ids kind = q.ids kind
  attempted_update (q : Query) (i : String) (fs : Fields) :
    q.attempted (update · i fs) = (fun f ↦ mapParts (only i f) q) <$> changeFor patch (parts q) i fs

/-- An update of a clause, of which `set` is known to replace the parts of the clause. -/
theorem Query.attempted_patched? {α : Type} [Identified α] {q : Query} {items : List α}
    {set : List α → Query} (hset : set items = q) (patch : Fields → Checked (α → α)) (i : String)
    (fs : Fields) :
    (·.getD q) <$> Option.map set <$> Identified.patched? patch items i fs =
      (fun f ↦ set (items.map (only i f))) <$> changeFor patch items i fs := by
  rw [Identified.patched?, changeFor]
  split
  next =>
    rw [Functor.map_map, Functor.map_map]
    rfl
  next =>
    have hsame : items.map (only i fun a ↦ a) = items := by
      refine (List.map_congr_left fun a _ ↦ ?_).trans (List.map_id' items)
      exact ite_self a
    simp only [Checked.map_ok, hsame, hset]
    rfl

instance : Patched Selection where
  fields := Selection.fields
  ofFields := Selection.ofFields
  patch := Selection.patch
  parts := Query.columns
  mapParts f q := { q with columns := q.columns.map f }
  update := Query.updateColumn
  composes_patch := Selection.composes_patch
  ofFields_onto := Selection.ofFields_onto
  patch_keeps_id := Selection.patch_keeps_id
  patch_keeps_fields := Selection.patch_keeps_fields
  parts_mapParts _ _ := rfl
  mapParts_mapParts _ _ _ := by rw [List.map_map]
  ids_mapParts q hf kind := by
    cases kind
    case column => exact map_id_map hf q.columns
    all_goals rfl
  attempted_update _ i fs := Query.attempted_patched? rfl Selection.patch i fs

instance : Patched Join where
  fields := Join.fields
  ofFields := Join.ofFields
  patch := Join.patch
  parts := Query.joins
  mapParts f q := { q with joins := q.joins.map f }
  update := Query.updateJoin
  composes_patch := Join.composes_patch
  ofFields_onto := Join.ofFields_onto
  patch_keeps_id := Join.patch_keeps_id
  patch_keeps_fields := Join.patch_keeps_fields
  parts_mapParts _ _ := rfl
  mapParts_mapParts _ _ _ := by rw [List.map_map]
  ids_mapParts q hf kind := by
    cases kind
    case join => exact map_id_map hf q.joins
    all_goals rfl
  attempted_update _ i fs := Query.attempted_patched? rfl Join.patch i fs

instance : Patched GroupFilter where
  fields := GroupFilter.fields
  ofFields := GroupFilter.ofFields
  patch := GroupFilter.patch
  parts := Query.having
  mapParts f q := { q with having := q.having.map f }
  update := Query.updateHaving
  composes_patch := GroupFilter.composes_patch
  ofFields_onto := GroupFilter.ofFields_onto
  patch_keeps_id := GroupFilter.patch_keeps_id
  patch_keeps_fields := GroupFilter.patch_keeps_fields
  parts_mapParts _ _ := rfl
  mapParts_mapParts _ _ _ := by rw [List.map_map]
  ids_mapParts q hf kind := by
    cases kind
    case having => exact map_id_map hf q.having
    all_goals rfl
  attempted_update _ i fs := Query.attempted_patched? rfl GroupFilter.patch i fs

instance : Patched SortKey where
  fields := SortKey.fields
  ofFields := SortKey.ofFields
  patch := SortKey.patch
  parts := Query.sorting
  mapParts f q := { q with sorting := q.sorting.map f }
  update := Query.updateSorting
  composes_patch := SortKey.composes_patch
  ofFields_onto := SortKey.ofFields_onto
  patch_keeps_id := SortKey.patch_keeps_id
  patch_keeps_fields := SortKey.patch_keeps_fields
  parts_mapParts _ _ := rfl
  mapParts_mapParts _ _ _ := by rw [List.map_map]
  ids_mapParts q hf kind := by
    cases kind
    case sorting => exact map_id_map hf q.sorting
    all_goals rfl
  attempted_update _ i fs := Query.attempted_patched? rfl SortKey.patch i fs

instance : Patched Condition where
  fields := Condition.fields
  ofFields := Condition.ofFields
  patch := Condition.patch
  parts := Query.conditions
  mapParts f q := { q with filter := q.filter.map (ConditionGroup.mapConditions f) }
  update := Query.updateCondition
  composes_patch := Condition.composes_patch
  ofFields_onto := Condition.ofFields_onto
  patch_keeps_id := Condition.patch_keeps_id
  patch_keeps_fields := Condition.patch_keeps_fields
  parts_mapParts f q := by
    cases hg : q.filter <;> simp [Query.conditions, hg, ConditionGroup.allConditions_mapConditions]
  mapParts_mapParts f f' q := by
    simp only [Option.map_map, Function.comp_def, ConditionGroup.mapConditions_mapConditions]
  ids_mapParts q hf kind := by
    cases kind
    case filter => cases hg : q.filter <;> simp [Query.ids, hg, ConditionGroup.ids_mapConditions hf]
    all_goals rfl
  attempted_update q i fs := by
    rw [Query.attempted_updateCondition]
    have hchanging : q.changing i = fun f ↦
        { q with filter := q.filter.map (ConditionGroup.mapConditions (only i f)) } := by
      funext f
      rw [Query.changing, funext (ConditionGroup.changed_eq i f)]
      rfl
    rw [hchanging]
    rfl

/-! ## Updates -/

/-- The query after an update by a patch, which may be refused. -/
def Query.updated (α : Type) [Patched α] (q : Query) (i : String) (p : Fields) : Checked Query :=
  q.attempted (Patched.update α · i p)

namespace Patched

variable {α : Type} [Patched α] {q r r' : Query} {i : String} {p p' : Fields}

/-- An update, if it is not refused, changes the parts with the id, and only these. -/
theorem exists_of_updated (h : q.updated α i p = .ok r) :
    ∃ f : α → α, changeFor patch (parts α q) i p = .ok f ∧ mapParts (only i f) q = r ∧
      ∀ a, Identified.id (f a) = Identified.id a := by
  rw [Query.updated, attempted_update] at h
  obtain ⟨f, hf, hr⟩ := Checked.of_map_eq_ok h
  exact ⟨f, hf, hr, Identified.changeFor_keeps_id (patch_keeps_id p) (parts α q) i f hf⟩

theorem updated_of_changeFor {f : α → α} (hf : changeFor patch (parts α q) i p = .ok f) :
    q.updated α i p = .ok (mapParts (only i f) q) := by
  rw [Query.updated, attempted_update, hf]
  rfl

/-- Whether there is a part with the id, and what is read then, does not depend on what the parts
hold. -/
theorem changeFor_mapParts {f : α → α} (hf : ∀ a, Identified.id (f a) = Identified.id a)
    (p : Fields) (q : Query) :
    changeFor patch (parts α (mapParts (only i f) q)) i p = changeFor patch (parts α q) i p := by
  rw [parts_mapParts, Identified.changeFor_map (Identified.id_only hf i)]

theorem updated_onto (h : q.updated α i p = .ok r) (h' : r.updated α i p' = .ok r') :
    q.updated α i (p'.onto p) = .ok r' := by
  obtain ⟨f, hf, rfl, hid⟩ := exists_of_updated h
  obtain ⟨f', hf', rfl, -⟩ := exists_of_updated h'
  rw [changeFor_mapParts hid] at hf'
  have hboth := Identified.composes_changeFor composes_patch (parts α q) i p p' f f' hf hf'
  rw [updated_of_changeFor hboth, mapParts_mapParts, Identified.only_comp hid]

/-- A second time, an update is not refused either, and changes nothing. -/
theorem updated_again (h : q.updated α i p = .ok r) : r.updated α i p = .ok r := by
  obtain ⟨f, hf, rfl, hid⟩ := exists_of_updated h
  have hagain : (mapParts (only i f) q).updated α i p =
      .ok (mapParts (only i f) (mapParts (only i f) q)) :=
    updated_of_changeFor ((changeFor_mapParts hid p q).trans hf)
  have honto := updated_onto h hagain
  rw [Fields.onto_self, h] at honto
  rw [hagain, ← honto]

theorem ids_updated (h : q.updated α i p = .ok r) (kind : IdKind) : r.ids kind = q.ids kind := by
  obtain ⟨f, -, rfl, hid⟩ := exists_of_updated h
  exact ids_mapParts q (Identified.id_only hid i) kind

/-- A part with the id is read anew, with the fields of the patch in place of its own. -/
theorem exists_changed (h : q.updated α i p = .ok r) :
    ∃ f : α → α, r = mapParts (only i f) q ∧
      ∀ a ∈ parts α q, Identified.id a = i →
        ofFields α (p.changeable.onto (fields a)) = .ok (f a) ∧
        ∀ name, p.changeable.lookup name = none →
          (fields (f a)).lookup name = (fields a).lookup name := by
  obtain ⟨f, hf, hr, -⟩ := exists_of_updated h
  refine ⟨f, hr.symm, fun a ha hid ↦ ?_⟩
  rw [changeFor, if_pos (List.any_eq_true.mpr ⟨a, ha, decide_eq_true hid⟩)] at hf
  constructor
  · rw [ofFields_onto, hf]
    rfl
  · intro name hname
    exact patch_keeps_fields hname f hf a

/-- What is wrong with a patch is what is wrong with a part that has the id, once the fields of the
patch have taken the place of its own. -/
theorem update_eq_bad_iff {ds : List Defect} :
    update α q i p = .bad ds ↔
      ∃ a ∈ parts α q, Identified.id a = i ∧
        ofFields α (p.changeable.onto (fields a)) = .bad ds := by
  have hrefused : update α q i p = .bad ds ↔ changeFor patch (parts α q) i p = .bad ds := by
    have hupdated := @attempted_update α _ q i p
    rw [← Checked.map_eq_bad_iff (f := (·.getD q)),
      ← Checked.map_eq_bad_iff (f := fun f : α → α ↦ mapParts (only i f) q), ← hupdated]
    rfl
  simp only [hrefused, ofFields_onto, Checked.map_eq_bad_iff, changeFor]
  split
  next hany =>
    obtain ⟨a, ha, hid⟩ := List.any_eq_true.mp hany
    constructor
    · intro hbad
      exact ⟨a, ha, of_decide_eq_true hid, hbad⟩
    · rintro ⟨-, -, -, hbad⟩
      exact hbad
  next hany =>
    refine iff_of_false nofun ?_
    rintro ⟨a, ha, hid, -⟩
    exact hany (List.any_eq_true.mpr ⟨a, ha, decide_eq_true hid⟩)

end Patched

/-- How updates of one kind of parts, all of them meant for one id, go. -/
structure UpdatesCompose (α : Type) [Patched α] (q : Query) (i : String) : Prop where
  /-- Two updates come to one by the later patch put onto the earlier one. -/
  merged : ∀ p p' r r', q.updated α i p = .ok r → r.updated α i p' = .ok r' →
    q.updated α i (p'.onto p) = .ok r'
  twice : ∀ p r, q.updated α i p = .ok r → r.updated α i p = .ok r
  ids : ∀ p r, q.updated α i p = .ok r → ∀ kind, r.ids kind = q.ids kind
  /-- Only parts with the id change, and of these only the fields that the patch names. -/
  confined : ∀ p r, q.updated α i p = .ok r →
    ∃ f : α → α, r = Patched.mapParts (fun a ↦ if Identified.id a = i then f a else a) q ∧
      ∀ a ∈ Patched.parts α q, Identified.id a = i →
        Patched.ofFields α (p.changeable.onto (Patched.fields a)) = .ok (f a) ∧
        ∀ name, p.changeable.lookup name = none →
          (Patched.fields (f a)).lookup name = (Patched.fields a).lookup name
  /-- Nothing comes of a patch if a part cannot be read with the fields of the patch. -/
  refused : ∀ p ds, q.updated α i p = .bad ds ↔
    ∃ a ∈ Patched.parts α q, Identified.id a = i ∧
      Patched.ofFields α (p.changeable.onto (Patched.fields a)) = .bad ds

theorem Patched.updatesCompose (α : Type) [Patched α] (q : Query) (i : String) :
    UpdatesCompose α q i where
  merged _ _ _ _ := updated_onto
  twice _ _ := updated_again
  ids _ _ := ids_updated
  confined _ _ := exists_changed
  refused _ _ := Checked.map_eq_bad_iff.trans update_eq_bad_iff

/-- Two updates by patches come to one, a second time changes nothing, all ids stay, and the query
is otherwise as it was.  This goes for all five kinds of parts, and for conditions at any depth. -/
theorem updates_compose (q : Query) (i : String) :
    UpdatesCompose Selection q i ∧ UpdatesCompose Join q i ∧ UpdatesCompose GroupFilter q i ∧
      UpdatesCompose SortKey q i ∧ UpdatesCompose Condition q i :=
  ⟨Patched.updatesCompose _ q i, Patched.updatesCompose _ q i, Patched.updatesCompose _ q i,
    Patched.updatesCompose _ q i, Patched.updatesCompose _ q i⟩

namespace Query

/-- A patch of the field that `roomsPatch` is about, and of another one. The id in it does not
count. -/
def floorPatch : Fields :=
  [("id", .text "0"), ("column_name", .text "floor"), ("operator", .text "IS NULL")]

theorem updates_compose_for_staffQuery :
    ∃ r r', staffQuery.updated Condition "11" roomsPatch = .ok r ∧
      r.updated Condition "11" floorPatch = .ok r' ∧
      staffQuery.updated Condition "11" (floorPatch.onto roomsPatch) = .ok r' ∧
      r'.updated Condition "11" floorPatch = .ok r' ∧
      r'.ids .filter = ["6", "7", "8", "9", "10", "11", "12", "13"] ∧
      r'.conditions.map (·.subject.column) = ["post", "day", "floor", "name"] := by
  obtain ⟨r, hr⟩ : ∃ r, staffQuery.updated Condition "11" roomsPatch = .ok r := ⟨_, rfl⟩
  obtain ⟨r', hr', hcolumns⟩ : ∃ r', r.updated Condition "11" floorPatch = .ok r' ∧
      r'.conditions.map (·.subject.column) = ["post", "day", "floor", "name"] := by
    cases hr
    exact ⟨_, rfl, rfl⟩
  obtain ⟨-, -, -, -, hfirst⟩ := updates_compose staffQuery "11"
  obtain ⟨-, -, -, -, hsecond⟩ := updates_compose r "11"
  have hmerged := hfirst.merged _ _ _ _ hr hr'
  exact ⟨r, r', hr, hr', hmerged, hsecond.twice _ _ hr', hfirst.ids _ _ hmerged .filter, hcolumns⟩

end Query

end SelectBuilder
