import SelectBuilder.Proofs.Query.Reading

/-!
# Reading what has been written

Each part of a query is read back from its written form as it was.  The fields of a record are
looked up by their names one by one, so for each part this comes down to its fields: a text is a
text, and a word is a word of its vocabulary.  The parts of a list are read one after the other
(`Check.list_map`), and the members of a group as deep as they are nested.

A query itself holds one thing that is not checked when it is put there: the value that says whether
its rows are distinct.  The queries that can be read from anything are those in which it is a truth
value (`Query.constructed_iff`), and they are read back as they were.
-/

namespace SelectBuilder

/-! ## Single fields -/

namespace Check

@[simp] theorem text_text (s : String) : text (.text s) = .ok s := rfl

@[simp] theorem any_eq (v : Value) : any v = .ok v := rfl

@[simp] theorem constant_text (s : String) : constant s (.text s) = .ok () := if_pos rfl

@[simp] theorem boolean_bool (b : Bool) : boolean (.bool b) = .ok b := rfl

@[simp] theorem aggregate_word (a : Aggregate) : word Aggregate (.text a.word) = .ok a := by
  simp [word]

@[simp] theorem operator_word (o : Operator) : word Operator (.text o.word) = .ok o := by
  simp [word]

@[simp] theorem joinKind_word (k : JoinKind) : word JoinKind (.text k.word) = .ok k := by
  simp [word]

@[simp] theorem connective_word (k : Connective) : word Connective (.text k.word) = .ok k := by
  simp [word]

@[simp] theorem direction_word (d : Direction) : word Direction (.text d.word) = .ok d := by
  simp [word]

/-- The word of a comparison is that of an operator which is a plain comparison. -/
@[simp] theorem comparison_word (place : ComparisonPlace) (c : Comparison) :
    comparison place (.text c.word) = .ok c := by
  have hword : word Operator (.text c.word) = .ok (.compare c) := operator_word (.compare c)
  rw [comparison, hword]
  rfl

@[simp] theorem nullable_optionalText (s : Option String) :
    nullable text (optionalText s) = .ok s := by
  cases s <;> rfl

@[simp] theorem nullable_aggregate (a : Option Aggregate) :
    nullable (word Aggregate) (optionalText (a.map Aggregate.word)) = .ok a := by
  cases a with
  | none => rfl
  | some a => simp [optionalText, nullable]

@[simp] theorem nullable_natural (n : Option Nat) :
    nullable natural (Query.writtenCount n) = .ok n := by
  cases n with
  | none => rfl
  | some n => simp [Query.writtenCount, nullable, natural, integer]

@[simp] theorem nullable_positive (n : Option { n : Nat // 0 < n }) :
    nullable positive (Query.writtenCount n.unattach) = .ok n := by
  cases n with
  | none => rfl
  | some n => simp [Query.writtenCount, nullable, positive, integer, n.property]

/-! ## Lists -/

section Lists

variable {α : Type} {check : Value → Checked α} {write : α → Value} {as : List α}

theorem itemsFrom_map (h : ∀ a ∈ as, check (write a) = .ok a) (position : Nat) :
    itemsFrom check position (as.map write) = .ok as := by
  induction as generalizing position with
  | nil => rfl
  | cons a as ih =>
    obtain ⟨ha, has⟩ := List.forall_mem_cons.mp h
    simp [itemsFrom, ha, ih has]

/-- A list is read back if each of its items is. -/
theorem list_map (h : ∀ a ∈ as, check (write a) = .ok a) :
    list check (.list (as.map write)) = .ok as :=
  itemsFrom_map h 0

@[simp] theorem list_any (vs : List Value) : list any (.list vs) = .ok vs := by
  have h : list any (.list (vs.map id)) = .ok vs := list_map fun _ _ ↦ rfl
  rwa [List.map_id] at h

end Lists

end Check

namespace Fields

variable {β : Type}

theorem lookup_cons (name key : String) (v : Value) (fs : Fields) :
    List.lookup name ((key, v) :: fs) = if name = key then some v else fs.lookup name := by
  by_cases h : name = key
  · simp [h]
  · simp [List.lookup_cons, beq_false_of_ne h, h]

@[simp] theorem required_cons (name key : String) (v : Value) (fs : Fields)
    (check : Value → Checked β) :
    required ((key, v) :: fs) name check =
      if name = key then (check v).under name else required fs name check := by
  rw [required, required, lookup_cons]
  by_cases h : name = key
  · simp only [if_pos h]
  · simp only [if_neg h]

@[simp] theorem optional_cons (name key : String) (v : Value) (fs : Fields) (default : β)
    (check : Value → Checked β) :
    optional ((key, v) :: fs) name default check =
      if name = key then (check v).under name else optional fs name default check := by
  rw [optional, optional, lookup_cons]
  by_cases h : name = key
  · simp only [if_pos h]
  · simp only [if_neg h]

end Fields

/-! ## Parts of a query -/

@[simp] theorem Column.ofValue_written (c : Column) : Column.ofValue c.written = .ok c := by
  simp [ofValue, written, Check.fields, ofFields, fields]

@[simp] theorem Table.ofValue_written (t : Table) : Table.ofValue t.written = .ok t := by
  have hcolumns : Check.list (Check.fields "ColumnInfo" Column.ofFields)
      (.list (t.columns.map Column.written)) = .ok t.columns :=
    Check.list_map fun c _ ↦ c.ofValue_written
  simp [ofValue, written, Check.fields, ofFields, fields, hcolumns]

@[simp] theorem ColumnRef.ofValue_written (r : ColumnRef) :
    ColumnRef.ofValue r.written = .ok r := by
  simp [ofValue, written, Check.fields, ofFields, fields]

@[simp] theorem Selection.ofValue_written (s : Selection) :
    Selection.ofValue s.written = .ok s := by
  simp [ofValue, written, Check.fields, ofFields, fields, ColumnRef.fields, ColumnRef.ofFields]

@[simp] theorem Join.ofValue_written (j : Join) : Join.ofValue j.written = .ok j := by
  simp [ofValue, written, Check.fields, ofFields, fields]

@[simp] theorem Condition.ofValue_written (c : Condition) :
    Condition.ofValue c.written = .ok c := by
  simp [ofValue, written, Check.fields, ofFields, fields, ColumnRef.fields, ColumnRef.ofFields]

@[simp] theorem GroupFilter.ofValue_written (h : GroupFilter) :
    GroupFilter.ofValue h.written = .ok h := by
  simp [ofValue, written, Check.fields, ofFields, fields, ColumnRef.fields, ColumnRef.ofFields]

@[simp] theorem SortKey.ofValue_written (k : SortKey) : SortKey.ofValue k.written = .ok k := by
  simp [ofValue, written, Check.fields, ofFields, fields, ColumnRef.fields, ColumnRef.ofFields]

/-! ## The filter -/

namespace ConditionGroup

mutual

/-- A group is read back with all that is in it. -/
theorem ofValue_fields : (g : ConditionGroup) → ofValue (.record g.fields) = .ok g
  | ⟨id, connective, conditions, groups⟩ => by
    have hconditions : Check.list Condition.ofValue (.list (conditions.map Condition.written)) =
        .ok conditions :=
      Check.list_map fun c _ ↦ c.ofValue_written
    have hgroups : itemsOf 0 (writtenAll groups) = .ok groups := itemsOf_writtenAll groups 0
    simp [fields, ofValue, nestedIn, listOf, hconditions, hgroups]

theorem itemsOf_writtenAll : (gs : List ConditionGroup) → (position : Nat) →
    itemsOf position (writtenAll gs) = .ok gs
  | [], _ => by rw [writtenAll, itemsOf]
  | g :: gs, position => by
    simp [writtenAll, itemsOf, ofValue_fields g, itemsOf_writtenAll gs]

end

@[simp] theorem ofValue_written (g : ConditionGroup) : ofValue g.written = .ok g :=
  g.ofValue_fields

end ConditionGroup

/-- A member of the filter tree is told by its tag. -/
@[simp] theorem ConditionNode.ofValue_written (n : ConditionNode) :
    ConditionNode.ofValue n.written = .ok n := by
  cases n with
  | condition c =>
    have hc : Condition.ofFields c.fields = .ok c := c.ofValue_written
    have htag : c.fields.lookup "kind" = some (.text "condition") := rfl
    simp [written, Condition.written, ofValue, htag, hc]
  | group g =>
    have htag : g.fields.lookup "kind" = some (.text "group") := by
      cases g
      rfl
    simp [written, ConditionGroup.written, ofValue, htag, g.ofValue_fields]

/-! ## Queries -/

namespace Query

@[simp] theorem nullable_writtenFilter (filter : Option ConditionGroup) :
    Check.nullable ConditionGroup.ofValue (writtenFilter filter) = .ok filter := by
  cases filter with
  | none => rfl
  | some g =>
    rw [writtenFilter, ConditionGroup.written, Check.nullable, g.ofValue_fields]
    · rfl
    · rintro ⟨⟩

/-- Of a query that is read back, only the value for distinct rows may be refused or changed. -/
theorem ofValue_written (q : Query) :
    ofValue q.written =
      (fun b ↦ { q with distinct := .bool b }) <$> (Check.boolean q.distinct).under "distinct" := by
  have htables : Check.list Table.ofValue (.list (q.tables.map Table.written)) = .ok q.tables :=
    Check.list_map fun t _ ↦ t.ofValue_written
  have hcolumns : Check.list Selection.ofValue (.list (q.columns.map Selection.written)) =
      .ok q.columns :=
    Check.list_map fun c _ ↦ c.ofValue_written
  have hjoins : Check.list Join.ofValue (.list (q.joins.map Join.written)) = .ok q.joins :=
    Check.list_map fun j _ ↦ j.ofValue_written
  have hgrouping : Check.list ColumnRef.ofValue (.list (q.grouping.map ColumnRef.written)) =
      .ok q.grouping :=
    Check.list_map fun r _ ↦ r.ofValue_written
  have hhaving : Check.list GroupFilter.ofValue (.list (q.having.map GroupFilter.written)) =
      .ok q.having :=
    Check.list_map fun h _ ↦ h.ofValue_written
  have hsorting : Check.list SortKey.ofValue (.list (q.sorting.map SortKey.written)) =
      .ok q.sorting :=
    Check.list_map fun k _ ↦ k.ofValue_written
  simp only [ofValue, written, Check.fields, ofFields, fields, Fields.optional_cons, htables,
    hcolumns, hjoins, hgrouping, hhaving, hsorting]
  simp
  cases Check.boolean q.distinct with
  | ok b => rfl
  | bad ds => rfl

/-- A query that can be read from something. -/
def Constructed (q : Query) : Prop := ∃ v, ofValue v = .ok q

/-- The fields of a query are read one after the other, and distinct rows come last. -/
theorem exists_distinct_of_ofFields {fs : Fields} {q : Query} (h : ofFields fs = .ok q) :
    ∃ b, q.distinct = .bool b := by
  obtain ⟨f, d, hf, hd, rfl⟩ := Checked.of_seq_eq_ok h
  obtain ⟨b, -, rfl⟩ := Checked.of_map_eq_ok hd
  have hdistinct : ∀ d, (f d).distinct = d := by
    refine Checked.Gives.seq (p := fun f : Value → Query ↦ ∀ d, (f d).distinct = d) ?_ f hf
    refine .seq (.seq (.seq (.seq (.seq (.seq (.seq ?_))))))
    intro g hg columns joins filter grouping having sorting limit offset d
    obtain ⟨tables, -, rfl⟩ := Checked.of_map_eq_ok hg
    rfl
  exact ⟨b, hdistinct _⟩

theorem ofValue_written_of_bool {q : Query} {b : Bool} (h : q.distinct = .bool b) :
    ofValue q.written = .ok q := by
  rw [ofValue_written, h, Check.boolean_bool, Checked.ok_under, Checked.map_ok, ← h]

theorem constructed_iff {q : Query} : q.Constructed ↔ ∃ b, q.distinct = .bool b := by
  constructor
  · rintro ⟨v, h⟩
    cases v with
    | record fs => exact exists_distinct_of_ofFields h
    | _ => cases h
  · rintro ⟨b, h⟩
    exact ⟨q.written, ofValue_written_of_bool h⟩

/-- Whatever query can be read from something is read from its own written form. -/
theorem Constructed.ofValue_written {q : Query} (h : q.Constructed) :
    ofValue q.written = .ok q := by
  obtain ⟨b, hb⟩ := constructed_iff.mp h
  exact ofValue_written_of_bool hb

/-- Every part of a query passes the check of parts of its kind, and comes out of it unchanged. -/
structure PartsPass (q : Query) : Prop where
  tables : ∀ t ∈ q.tables, Table.ofValue t.written = .ok t
  tableColumns : ∀ t ∈ q.tables, ∀ c ∈ t.columns, Column.ofValue c.written = .ok c
  columns : ∀ c ∈ q.columns, Selection.ofValue c.written = .ok c
  joins : ∀ j ∈ q.joins, Join.ofValue j.written = .ok j
  filter : ∀ g, q.filter = some g → ∀ n ∈ g.nodes 0, ConditionNode.ofValue n.1.written = .ok n.1
  grouping : ∀ r ∈ q.grouping, ColumnRef.ofValue r.written = .ok r
  having : ∀ h ∈ q.having, GroupFilter.ofValue h.written = .ok h
  sorting : ∀ k ∈ q.sorting, SortKey.ofValue k.written = .ok k

/-- What a part can hold is fixed by its type, so that there is no other kind of part. -/
theorem partsPass (q : Query) : q.PartsPass where
  tables t _ := t.ofValue_written
  tableColumns _ _ c _ := c.ofValue_written
  columns c _ := c.ofValue_written
  joins j _ := j.ofValue_written
  filter _ _ n _ := n.1.ofValue_written
  grouping r _ := r.ofValue_written
  having h _ := h.ofValue_written
  sorting k _ := k.ofValue_written

end Query

end SelectBuilder
