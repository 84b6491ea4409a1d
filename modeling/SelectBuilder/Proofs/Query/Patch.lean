import Mathlib.Control.Basic
import Mathlib.Logic.Function.Conjugate
import SelectBuilder.Proofs.Query.Rereading

/-!
# What a patch makes of a part

A patch is read field by field, and what has been read is a change of the part.  The fields have
nothing to do with one another, so changes of different fields can be made in either order, and of
two changes of the same field the later one counts.  Two patches one after the other therefore come
to one patch, the later of them put onto the earlier (`Composes`).

A part that is patched is read anew from its own fields and those of the patch, which take their
place; the id and the tag are left out of the patch.  This is what a patch amounts to
(`Selection.ofFields_onto` and so on): its own fields are in order already, so that whatever is
wrong is wrong with the patch.
-/

namespace SelectBuilder

/-! ## Checks side by side -/

instance : LawfulApplicative Checked where
  map_const := rfl
  id_map x := by cases x <;> rfl
  seqLeft_eq x y := rfl
  seqRight_eq x y := rfl
  pure_seq f x := by cases x <;> rfl
  map_pure f a := rfl
  seq_pure f a := by cases f <;> rfl
  seq_assoc x f g := by
    cases g <;> cases f <;> cases x
    all_goals first | rfl | exact congrArg Checked.bad (List.append_assoc ..).symm

namespace Checked

variable {α β : Type}

@[simp] theorem ok_seq (f : α → β) (x : Checked α) : .ok f <*> x = f <$> x := pure_seq f x

@[simp] theorem seq_ok (f : Checked (α → β)) (a : α) : f <*> .ok a = (· a) <$> f :=
  seq_pure f a

theorem map_eq_bad_iff {f : α → β} {x : Checked α} {ds : List Defect} :
    f <$> x = .bad ds ↔ x = .bad ds := by
  cases x with
  | ok a => exact iff_of_false nofun nofun
  | bad es => rw [map_bad, bad.injEq, bad.injEq]

theorem map_under (f : α → β) (c : Checked α) (step : String) :
    (f <$> c).under step = f <$> c.under step := by
  cases c <;> rfl

/-- What a check finds, or what stands in its place. -/
def orHeld (c : Checked (Option β)) (held : Checked β) : Checked β :=
  c.andThen fun o ↦ match o with
    | some b => .ok b
    | none => held

@[simp] theorem orHeld_ok (c : Checked (Option β)) (b : β) :
    c.orHeld (.ok b) = (·.getD b) <$> c := by
  cases c with
  | ok o => cases o <;> rfl
  | bad ds => rfl

/-- The changes, if there are any, can be made in either order. -/
def Commute (c c' : Checked (α → α)) : Prop :=
  c.Gives fun f ↦ c'.Gives fun f' ↦ Function.Commute f f'

theorem Commute.changes {c : Checked (α → α)} {cs : List (Checked (α → α))}
    (h : ∀ c' ∈ cs, c.Commute c') : c.Commute (Checked.changes cs) := by
  induction cs with
  | nil =>
    rintro f - g ⟨⟩
    exact .id_right
  | cons c' cs ih =>
    obtain ⟨hc', hcs⟩ := List.forall_mem_cons.mp h
    intro f hf g hg
    obtain ⟨before, rest, hbefore, hrest, rfl⟩ := of_seq_eq_ok hg
    obtain ⟨first, hfirst, rfl⟩ := of_map_eq_ok hbefore
    exact (ih hcs f hf rest hrest).comp_right (hc' f hf first hfirst)

end Checked

namespace Fields

variable {α β γ : Type}

/-! ## Patches put onto fields -/

/-- The fields of a patch, and those of what is patched that the patch does not name. -/
def onto (new old : Fields) : Fields := new ++ old.filter fun f ↦ (new.lookup f.1).isNone

/-- The fields without the id and the tag, which cannot be changed. -/
def changeable (fs : Fields) : Fields := fs.filter fun f ↦ f.1 ≠ "id" && f.1 ≠ "kind"

theorem lookup_filter (p : String → Bool) (fs : Fields) (name : String) :
    List.lookup name (fs.filter fun f ↦ p f.1) = if p name then fs.lookup name else none := by
  induction fs with
  | nil => simp
  | cons f fs ih =>
    obtain ⟨key, v⟩ := f
    rw [List.filter_cons]
    split
    next hkey =>
      rw [lookup_cons, lookup_cons, ih]
      by_cases hname : name = key
      · simp [hname, hkey]
      · simp [hname]
    next hkey =>
      rw [lookup_cons, ih]
      by_cases hname : name = key
      · simp [hname, hkey]
      · simp [hname]

@[simp] theorem lookup_onto (new old : Fields) (name : String) :
    List.lookup name (new.onto old) = (new.lookup name).or (old.lookup name) := by
  rw [onto, List.lookup_append, lookup_filter fun key ↦ (new.lookup key).isNone]
  cases new.lookup name <;> simp

theorem lookup_changeable (fs : Fields) (name : String) :
    fs.changeable.lookup name = if name ≠ "id" ∧ name ≠ "kind" then fs.lookup name else none := by
  rw [changeable, lookup_filter fun key ↦ key ≠ "id" && key ≠ "kind"]
  simp

/-- A patch put onto itself is the patch. -/
theorem onto_self (fs : Fields) : fs.onto fs = fs := by
  have hnone : (fs.filter fun f ↦ (fs.lookup f.1).isNone) = [] := by
    rw [List.filter_eq_nil_iff]
    intro f hf
    rw [Option.isNone_iff_eq_none, List.lookup_eq_none_iff]
    exact fun h ↦ absurd (h f hf) (by simp)
  rw [onto, hnone, List.append_nil]

/-! ## Changes of one field -/

/-- What a patch gives for a field, if it names the field.  This is what a change of the part and
the part that is read anew have in common. -/
def given (fs : Fields) (name : String) (check : Value → Checked β) : Checked (Option β) :=
  fs.optional name none fun v ↦ some <$> check v

theorem change_eq_given {fs : Fields} (name : String) {check : Value → Checked β}
    {set : β → α → α} (get : α → β) (h : ∀ a, set (get a) a = a) :
    fs.change name check set = (fun o a ↦ set (o.getD (get a)) a) <$> fs.given name check := by
  rw [change, given, optional]
  cases fs.lookup name with
  | none => exact congrArg Checked.ok (funext fun a ↦ (h a).symm)
  | some v =>
    simp only [Checked.map_under, Functor.map_map, Option.getD_some]

theorem given_orHeld (fs : Fields) (name : String) (check : Value → Checked β)
    (held : Checked β) :
    (fs.given name check).orHeld held =
      match fs.lookup name with
      | some v => (check v).under name
      | none => held := by
  rw [given, optional]
  cases fs.lookup name with
  | none => rfl
  | some v =>
    simp only [Checked.map_under]
    cases (check v).under name <;> rfl

@[simp] theorem required_onto (new old : Fields) (name : String) (check : Value → Checked β) :
    (new.onto old).required name check =
      (new.given name check).orHeld (old.required name check) := by
  rw [given_orHeld, required, lookup_onto]
  cases new.lookup name <;> rfl

@[simp] theorem optional_onto (new old : Fields) (name : String) (default : β)
    (check : Value → Checked β) :
    (new.onto old).optional name default check =
      (new.given name check).orHeld (old.optional name default check) := by
  rw [given_orHeld, optional, lookup_onto]
  cases new.lookup name <;> rfl

@[simp] theorem given_changeable (fs : Fields) (name : String) (check : Value → Checked β) :
    fs.changeable.given name check =
      if name ≠ "id" ∧ name ≠ "kind" then fs.given name check else .ok none := by
  unfold given optional
  rw [lookup_changeable]
  by_cases h : name ≠ "id" ∧ name ≠ "kind"
  · rw [if_pos h, if_pos h]
  · rw [if_neg h, if_neg h]

theorem change_congr {fs fs' : Fields} {name : String} {check : Value → Checked β}
    {set : β → α → α} (h : fs.lookup name = fs'.lookup name) :
    fs.change name check set = fs'.change name check set := by
  rw [change, change, h]

theorem commute_change {fs fs' : Fields} {name name' : String} {check : Value → Checked β}
    {check' : Value → Checked γ} {set : β → α → α} {set' : γ → α → α}
    (h : ∀ v w a, set v (set' w a) = set' w (set v a)) :
    (fs.change name check set).Commute (fs'.change name' check' set') := by
  intro f hf f' hf'
  rcases of_change_eq_ok hf with ⟨-, rfl⟩ | ⟨-, b, -, -, rfl⟩
  · exact .id_left
  · rcases of_change_eq_ok hf' with ⟨-, rfl⟩ | ⟨-, c, -, -, rfl⟩
    · exact .id_right
    · exact h b c

/-- What is held under a name that a patch does not change stays. -/
theorem keeps_lookup_change {fs : Fields} {name key : String} {check : Value → Checked β}
    {set : β → α → α} {held : α → Fields} (hname : fs.changeable.lookup name = none)
    (hid : key ≠ "id") (hkind : key ≠ "kind")
    (hset : name ≠ key → ∀ v a, (held (set v a)).lookup name = (held a).lookup name) :
    (fs.change key check set).Keeps fun a ↦ (held a).lookup name := by
  by_cases hkey : name = key
  · subst hkey
    rw [lookup_changeable, if_pos ⟨hid, hkind⟩] at hname
    exact keeps_change_of_lookup hname
  · exact keeps_change (hset hkey)

/-! ## Changes of several fields -/

/-- Two patches one after the other come to the later one put onto the earlier one. -/
def Composes (read : Fields → Checked (α → α)) : Prop :=
  ∀ p p' f f', read p = .ok f → read p' = .ok f' → read (p'.onto p) = .ok (f' ∘ f)

theorem Composes.change {name : String} {check : Value → Checked β} {set : β → α → α}
    (h : ∀ v w a, set v (set w a) = set v a) : Composes fun fs ↦ fs.change name check set := by
  intro p p' f f' hf hf'
  rcases of_change_eq_ok hf' with ⟨hnone, rfl⟩ | ⟨v, b, hv, -, rfl⟩
  · have hlookup : (p'.onto p).lookup name = p.lookup name := by simp [hnone]
    exact (change_congr hlookup).trans hf
  · have hlookup : (p'.onto p).lookup name = p'.lookup name := by simp [hv]
    have hset : set b ∘ f = set b := by
      rcases of_change_eq_ok hf with ⟨-, rfl⟩ | ⟨-, c, -, -, rfl⟩
      · rfl
      · exact funext (h b c)
    rw [hset]
    exact (change_congr hlookup).trans hf'

theorem Composes.nil : Composes fun _ ↦ Checked.changes ([] : List (Checked (α → α))) := by
  rintro p p' f f' ⟨⟩ ⟨⟩
  rfl

/-- One more field, whose changes have nothing to do with those of the others. -/
theorem Composes.cons {name : String} {check : Value → Checked β} {set : β → α → α}
    {rest : Fields → List (Checked (α → α))} (hset : ∀ v w a, set v (set w a) = set v a)
    (hcommute : ∀ p p' : Fields, ∀ c ∈ rest p', (p.change name check set).Commute c)
    (hrest : Composes fun fs ↦ Checked.changes (rest fs)) :
    Composes fun fs ↦ Checked.changes (fs.change name check set :: rest fs) := by
  intro p p' f f' hf hf'
  obtain ⟨before, after, hbefore, hafter, rfl⟩ := Checked.of_seq_eq_ok hf
  obtain ⟨first, hfirst, rfl⟩ := Checked.of_map_eq_ok hbefore
  obtain ⟨before', after', hbefore', hafter', rfl⟩ := Checked.of_seq_eq_ok hf'
  obtain ⟨first', hfirst', rfl⟩ := Checked.of_map_eq_ok hbefore'
  have hhead := Composes.change hset p p' first first' hfirst hfirst'
  have htail := hrest p p' after after' hafter hafter'
  -- The field is changed by both patches before the rest is changed by either.
  have hswap := Checked.Commute.changes (hcommute p' p) first' hfirst' after hafter
  simp only [Checked.changes] at hhead htail ⊢
  rw [hhead, htail]
  refine congrArg Checked.ok (funext fun a ↦ ?_)
  exact congrArg after' (hswap.eq (first a)).symm

end Fields

/-!
## The parts of a query

Of each part: two patches of it come to one, it is read anew from its fields and those of a patch
as the patch says, and a field that the patch does not change stays.
-/

open Fields (Composes commute_change change_eq_given keeps_lookup_change lookup_cons)

namespace Selection

theorem composes_patch : Composes patch := by
  unfold patch
  iterate 5 refine .cons (fun _ _ _ ↦ rfl) (by simp [commute_change]) ?_
  exact .nil

theorem ofFields_onto (fs : Fields) (s : Selection) :
    ofFields (fs.changeable.onto s.fields) = (· s) <$> patch fs := by
  rw [patch, change_eq_given "table_alias" fun s : Selection ↦ s.source.table,
    change_eq_given "column_name" fun s : Selection ↦ s.source.column,
    change_eq_given "alias" aliasName,
    change_eq_given "aggregate" aggregate,
    change_eq_given "distinct" distinct]
  · simp [ofFields, ColumnRef.ofFields, fields, ColumnRef.fields, Checked.changes, functor_norm,
      Function.comp_def]
  all_goals exact fun _ ↦ rfl

theorem patch_keeps_fields {fs : Fields} {name : String}
    (hname : fs.changeable.lookup name = none) : (patch fs).Keeps fun s ↦ s.fields.lookup name := by
  refine .changes ?_
  simp only [List.forall_mem_cons]
  refine ⟨?_, ?_, ?_, ?_, ?_, List.forall_mem_nil _⟩
  all_goals
    refine keeps_lookup_change hname (by decide) (by decide) fun hne v s ↦ ?_
    simp [fields, ColumnRef.fields, lookup_cons, hne]

end Selection

namespace Join

theorem composes_patch : Composes patch := by
  unfold patch
  iterate 6 refine .cons (fun _ _ _ ↦ rfl) (by simp [commute_change]) ?_
  exact .nil

theorem ofFields_onto (fs : Fields) (j : Join) :
    ofFields (fs.changeable.onto j.fields) = (· j) <$> patch fs := by
  rw [patch, change_eq_given "join_type" kind,
    change_eq_given "left_alias" fun j : Join ↦ j.left.table,
    change_eq_given "left_column" fun j : Join ↦ j.left.column,
    change_eq_given "right_alias" fun j : Join ↦ j.right.table,
    change_eq_given "right_column" fun j : Join ↦ j.right.column,
    change_eq_given "operator" comparison]
  · simp [ofFields, fields, Checked.changes, functor_norm, Function.comp_def]
  all_goals exact fun _ ↦ rfl

theorem patch_keeps_fields {fs : Fields} {name : String}
    (hname : fs.changeable.lookup name = none) : (patch fs).Keeps fun j ↦ j.fields.lookup name := by
  refine .changes ?_
  simp only [List.forall_mem_cons]
  refine ⟨?_, ?_, ?_, ?_, ?_, ?_, List.forall_mem_nil _⟩
  all_goals
    refine keeps_lookup_change hname (by decide) (by decide) fun hne v j ↦ ?_
    simp [fields, lookup_cons, hne]

end Join

namespace Condition

theorem composes_patch : Composes patch := by
  unfold patch
  iterate 6 refine .cons (fun _ _ _ ↦ rfl) (by simp [commute_change]) ?_
  exact .nil

theorem ofFields_onto (fs : Fields) (c : Condition) :
    ofFields (fs.changeable.onto c.fields) = (· c) <$> patch fs := by
  rw [patch, change_eq_given "table_alias" fun c : Condition ↦ c.subject.table,
    change_eq_given "column_name" fun c : Condition ↦ c.subject.column,
    change_eq_given "operator" operator,
    change_eq_given "value" value,
    change_eq_given "value2" upper,
    change_eq_given "values" values]
  · simp [ofFields, ColumnRef.ofFields, fields, ColumnRef.fields, Checked.changes, functor_norm,
      Function.comp_def]
  all_goals exact fun _ ↦ rfl

theorem patch_keeps_fields {fs : Fields} {name : String}
    (hname : fs.changeable.lookup name = none) : (patch fs).Keeps fun c ↦ c.fields.lookup name := by
  refine .changes ?_
  simp only [List.forall_mem_cons]
  refine ⟨?_, ?_, ?_, ?_, ?_, ?_, List.forall_mem_nil _⟩
  all_goals
    refine keeps_lookup_change hname (by decide) (by decide) fun hne v c ↦ ?_
    simp [fields, ColumnRef.fields, lookup_cons, hne]

end Condition

namespace GroupFilter

theorem composes_patch : Composes patch := by
  unfold patch
  iterate 5 refine .cons (fun _ _ _ ↦ rfl) (by simp [commute_change]) ?_
  exact .nil

theorem ofFields_onto (fs : Fields) (h : GroupFilter) :
    ofFields (fs.changeable.onto h.fields) = (· h) <$> patch fs := by
  rw [patch, change_eq_given "table_alias" fun h : GroupFilter ↦ h.subject.table,
    change_eq_given "column_name" fun h : GroupFilter ↦ h.subject.column,
    change_eq_given "aggregate" aggregate,
    change_eq_given "operator" comparison,
    change_eq_given "value" value]
  · simp [ofFields, ColumnRef.ofFields, fields, ColumnRef.fields, Checked.changes, functor_norm,
      Function.comp_def]
  all_goals exact fun _ ↦ rfl

theorem patch_keeps_fields {fs : Fields} {name : String}
    (hname : fs.changeable.lookup name = none) : (patch fs).Keeps fun h ↦ h.fields.lookup name := by
  refine .changes ?_
  simp only [List.forall_mem_cons]
  refine ⟨?_, ?_, ?_, ?_, ?_, List.forall_mem_nil _⟩
  all_goals
    refine keeps_lookup_change hname (by decide) (by decide) fun hne v h ↦ ?_
    simp [fields, ColumnRef.fields, lookup_cons, hne]

end GroupFilter

namespace SortKey

theorem composes_patch : Composes patch := by
  unfold patch
  iterate 3 refine .cons (fun _ _ _ ↦ rfl) (by simp [commute_change]) ?_
  exact .nil

theorem ofFields_onto (fs : Fields) (k : SortKey) :
    ofFields (fs.changeable.onto k.fields) = (· k) <$> patch fs := by
  rw [patch, change_eq_given "table_alias" fun k : SortKey ↦ k.source.table,
    change_eq_given "column_name" fun k : SortKey ↦ k.source.column,
    change_eq_given "direction" direction]
  · simp [ofFields, ColumnRef.ofFields, fields, ColumnRef.fields, Checked.changes, functor_norm,
      Function.comp_def]
  all_goals exact fun _ ↦ rfl

theorem patch_keeps_fields {fs : Fields} {name : String}
    (hname : fs.changeable.lookup name = none) : (patch fs).Keeps fun k ↦ k.fields.lookup name := by
  refine .changes ?_
  simp only [List.forall_mem_cons]
  refine ⟨?_, ?_, ?_, List.forall_mem_nil _⟩
  all_goals
    refine keeps_lookup_change hname (by decide) (by decide) fun hne v k ↦ ?_
    simp [fields, ColumnRef.fields, lookup_cons, hne]

end SortKey

end SelectBuilder
