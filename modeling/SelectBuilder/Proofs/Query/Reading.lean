import SelectBuilder.Query.Reading

/-!
# Ids in what is read

A new part of a query is read from its fields, and has the id that stands among them.  A patch is
read into a change of the part that it is meant for, one field after the other.  What none of the
fields sets, the change keeps: `Keeps` says so of a change that may not have been read at all, and
is found field by field.  Ids are no fields of a patch, so all changes keep them.
-/

namespace SelectBuilder

namespace Checked

variable {α β : Type}

theorem of_map_eq_ok {f : α → β} {x : Checked α} {b : β} (h : f <$> x = .ok b) :
    ∃ a, x = .ok a ∧ f a = b := by
  cases x with
  | ok a =>
    cases h
    exact ⟨a, rfl, rfl⟩
  | bad ds => cases h

theorem of_seq_eq_ok {f : Checked (α → β)} {x : Checked α} {b : β} (h : f <*> x = .ok b) :
    ∃ g a, f = .ok g ∧ x = .ok a ∧ g a = b := by
  cases f <;> cases x <;> cases h
  exact ⟨_, _, rfl, rfl, rfl⟩

/-- What has been read, if anything has, is as `p` says. -/
def Gives (p : α → Prop) (c : Checked α) : Prop := ∀ a, c = .ok a → p a

theorem Gives.seq {p : β → Prop} {f : Checked (α → β)} {x : Checked α}
    (h : f.Gives fun g ↦ ∀ a, p (g a)) : (f <*> x).Gives p := by
  intro b hb
  obtain ⟨g, a, hg, -, rfl⟩ := of_seq_eq_ok hb
  exact h g hg a

/-- The change, if there is one, keeps what `get` reads. -/
def Keeps (get : α → β) (c : Checked (α → α)) : Prop := c.Gives fun f ↦ ∀ a, get (f a) = get a

theorem Keeps.changes {get : α → β} {cs : List (Checked (α → α))} (h : ∀ c ∈ cs, c.Keeps get) :
    (Checked.changes cs).Keeps get := by
  induction cs with
  | nil =>
    rintro f ⟨⟩ a
    rfl
  | cons c cs ih =>
    obtain ⟨hc, hcs⟩ := List.forall_mem_cons.mp h
    intro f hf a
    obtain ⟨before, rest, hbefore, hrest, rfl⟩ := of_seq_eq_ok hf
    obtain ⟨first, hfirst, rfl⟩ := of_map_eq_ok hbefore
    exact (ih hcs rest hrest _).trans (hc first hfirst a)

end Checked

/-! ## New parts -/

section NewParts

variable (i : String) (fs : Fields)

theorem Selection.ofFields_gives_id :
    (Selection.ofFields (("id", .text i) :: fs)).Gives (·.id = i) := by
  refine .seq (.seq (.seq (.seq ?_)))
  rintro g ⟨⟩ source aliasName aggregate distinct
  rfl

theorem Join.ofFields_gives_id : (Join.ofFields (("id", .text i) :: fs)).Gives (·.id = i) := by
  refine .seq (.seq (.seq (.seq (.seq (.seq ?_)))))
  rintro g ⟨⟩ kind leftTable leftColumn rightTable rightColumn comparison
  rfl

theorem Condition.ofFields_gives_id :
    (Condition.ofFields (("id", .text i) :: fs)).Gives (·.id = i) := by
  refine .seq (.seq (.seq (.seq (.seq ?_))))
  -- The tag is read before the id.
  intro g hg subject operator value upper values
  obtain ⟨f, own, hf, hown, rfl⟩ := Checked.of_seq_eq_ok hg
  obtain ⟨tag, -, rfl⟩ := Checked.of_map_eq_ok hf
  cases hown
  rfl

theorem GroupFilter.ofFields_gives_id :
    (GroupFilter.ofFields (("id", .text i) :: fs)).Gives (·.id = i) := by
  refine .seq (.seq (.seq (.seq ?_)))
  rintro g ⟨⟩ subject aggregate comparison value
  rfl

theorem SortKey.ofFields_gives_id :
    (SortKey.ofFields (("id", .text i) :: fs)).Gives (·.id = i) := by
  refine .seq (.seq ?_)
  rintro g ⟨⟩ source direction
  rfl

end NewParts

/-! ## Patches -/

namespace Fields

variable {α β γ : Type} {get : α → γ} {fs : Fields} {name : String} {check : Value → Checked β}
  {set : β → α → α}

/-- The change that has been read for a field sets it, if the patch names the field. -/
theorem of_change_eq_ok {f : α → α} (h : fs.change name check set = .ok f) :
    (fs.lookup name = none ∧ f = id) ∨
      ∃ v b, fs.lookup name = some v ∧ (check v).under name = .ok b ∧ f = set b := by
  rw [change] at h
  split at h
  next v hv =>
    obtain ⟨b, hb, rfl⟩ := Checked.of_map_eq_ok h
    exact .inr ⟨v, b, hv, hb, rfl⟩
  next hnone =>
    cases h
    exact .inl ⟨hnone, rfl⟩

theorem keeps_change (h : ∀ v a, get (set v a) = get a) :
    (fs.change name check set).Keeps get := by
  intro f hf a
  rcases of_change_eq_ok hf with ⟨-, rfl⟩ | ⟨-, b, -, -, rfl⟩
  · rfl
  · exact h b a

theorem keeps_change_of_lookup (h : fs.lookup name = none) :
    (fs.change name check set).Keeps get := by
  intro f hf a
  rcases of_change_eq_ok hf with ⟨-, rfl⟩ | ⟨v, -, hv, -, -⟩
  · rfl
  · rw [h] at hv
    cases hv

end Fields

section Ids

variable (fs : Fields)

theorem Selection.patch_keeps_id : (Selection.patch fs).Keeps Selection.id :=
  .changes <| by simp [Fields.keeps_change]

theorem Join.patch_keeps_id : (Join.patch fs).Keeps Join.id :=
  .changes <| by simp [Fields.keeps_change]

theorem Condition.patch_keeps_id : (Condition.patch fs).Keeps Condition.id :=
  .changes <| by simp [Fields.keeps_change]

theorem GroupFilter.patch_keeps_id : (GroupFilter.patch fs).Keeps GroupFilter.id :=
  .changes <| by simp [Fields.keeps_change]

theorem SortKey.patch_keeps_id : (SortKey.patch fs).Keeps SortKey.id :=
  .changes <| by simp [Fields.keeps_change]

/-- A patch that gives a group neither conditions nor groups keeps its members. -/
theorem ConditionGroup.patch_keeps_members (hconditions : fs.lookup "conditions" = none)
    (hgroups : fs.lookup "groups" = none) :
    (ConditionGroup.patch fs).Keeps fun g ↦ (g.id, g.conditions, g.groups) :=
  .changes <| by
    simp [Fields.keeps_change, Fields.keeps_change_of_lookup, hconditions, hgroups]

end Ids

end SelectBuilder
