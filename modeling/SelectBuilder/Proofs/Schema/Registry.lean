import Mathlib.Data.List.Induction
import SelectBuilder.Proofs.Value.Sameness
import SelectBuilder.Schema.Registry

/-!
# What a registry says of its tables

A registry is looked up by two functions and listed by two others.  All four go over the same
entries, and those are told by the descriptions that the registry was made of: the keys are the ones
that come for the first time, in their order (`firsts_keys`), and the description under a key is the
last one given for it (`find?_ofList`).  Both are said of one more description (`keys_put`,
`find?_put`), and from there of all.

Keys are compared by the identity of values, so a key that comes again need not be written the same
way.  The one that came first is listed.
-/

namespace SelectBuilder

/-! ## First occurrences -/

section Firsts

variable {α : Type} {same : α → α → Bool}

/-- Reading a list from the left, `listed` has the items that come for the first time. -/
inductive Firsts (same : α → α → Bool) : List α → List α → Prop where
  | nil : Firsts same [] []
  | first {given listed : List α} {a : α} :
      Firsts same given listed → (∀ b ∈ given, same b a = false) →
      Firsts same (given ++ [a]) (listed ++ [a])
  | again {given listed : List α} {a : α} :
      Firsts same given listed → (∃ b ∈ given, same b a) → Firsts same (given ++ [a]) listed

variable {given listed : List α}

theorem Firsts.subset (h : Firsts same given listed) : listed ⊆ given := by
  induction h with
  | nil => exact List.Subset.refl _
  | @first given listed a _ _ ih =>
    rw [List.append_subset]
    exact ⟨List.subset_append_of_subset_left _ ih, List.subset_append_right _ _⟩
  | again _ _ ih => exact List.subset_append_of_subset_left _ ih

/-- No two of the items listed are the same. -/
theorem Firsts.pairwise (h : Firsts same given listed) :
    listed.Pairwise fun a b ↦ same a b = false := by
  induction h with
  | nil => exact .nil
  | @first given listed a hlisted hnew ih =>
    rw [List.pairwise_append]
    refine ⟨ih, List.pairwise_singleton _ _, ?_⟩
    intro b hb c hc
    obtain rfl := List.mem_singleton.mp hc
    exact hnew b (hlisted.subset hb)
  | again _ _ ih => exact ih

/-- An item is the same as one that is listed just if it is the same as one that is given. -/
theorem Firsts.exists_iff (h : Firsts same given listed)
    (htrans : ∀ a b c, same a b → same b c → same a c) (c : α) :
    (∃ a ∈ listed, same a c) ↔ ∃ a ∈ given, same a c := by
  constructor
  · rintro ⟨a, ha, hsame⟩
    exact ⟨a, h.subset ha, hsame⟩
  · induction h with
    | nil => exact id
    | @first given listed a _ _ ih =>
      rintro ⟨b, hb, hsame⟩
      rcases List.mem_append.mp hb with hb | hb
      · obtain ⟨a', ha', hsame'⟩ := ih ⟨b, hb, hsame⟩
        exact ⟨a', List.mem_append_left _ ha', hsame'⟩
      · exact ⟨b, List.mem_append_right _ hb, hsame⟩
    | @again given listed a _ hagain ih =>
      rintro ⟨b, hb, hsame⟩
      rcases List.mem_append.mp hb with hb | hb
      · exact ih ⟨b, hb, hsame⟩
      · obtain rfl := List.mem_singleton.mp hb
        obtain ⟨a', ha', hsame'⟩ := hagain
        exact ih ⟨a', ha', htrans a' b c hsame' hsame⟩

/-- One more item is listed unless it is the same as one that is. -/
theorem Firsts.append (h : Firsts same given listed)
    (htrans : ∀ a b c, same a b → same b c → same a c) (a : α) :
    Firsts same (given ++ [a]) (if listed.any (same · a) then listed else listed ++ [a]) := by
  have hany : listed.any (same · a) ↔ ∃ b ∈ given, same b a := by
    rw [List.any_eq_true, h.exists_iff htrans]
  split
  next hagain => exact .again h (hany.mp hagain)
  next hnew =>
    refine .first h fun b hb ↦ ?_
    rw [← Bool.not_eq_true]
    exact fun hsame ↦ hnew (hany.mpr ⟨b, hb, hsame⟩)

end Firsts

namespace Schema

/-! ## Keys -/

namespace TableKey

variable {k l m : TableKey}

theorem same_iff : k.same l ↔ k.schema.sameScalar l.schema ∧ k.name.sameScalar l.name := by
  rw [same, Bool.and_eq_true]

theorem same_symm (h : k.same l) : l.same k := by
  rw [same_iff] at h ⊢
  exact ⟨Value.sameScalar_symm h.1, Value.sameScalar_symm h.2⟩

theorem same_trans (hkl : k.same l) (hlm : l.same m) : k.same m := by
  rw [same_iff] at hkl hlm ⊢
  exact ⟨Value.sameScalar_trans hkl.1 hlm.1, Value.sameScalar_trans hkl.2 hlm.2⟩

/-- Keys that are the same are the same as the same keys. -/
theorem same_congr (h : k.same l) (m : TableKey) : k.same m = l.same m := by
  rw [Bool.eq_iff_iff]
  exact ⟨same_trans (same_symm h), same_trans h⟩

theorem isKey_of_same (h : k.same l) : l.isKey := by
  rw [same_iff] at h
  rw [isKey, Bool.and_eq_true]
  exact ⟨(Value.isKey_of_sameScalar h.1).2, (Value.isKey_of_sameScalar h.2).2⟩

end TableKey

namespace Registry

/-! ## One more description -/

section Put

variable (key : TableKey) (t : Table) (es : List (TableKey × Table))

theorem keys_put : (put key t es).map Prod.fst =
    if es.any (·.1.same key) then es.map Prod.fst else es.map Prod.fst ++ [key] := by
  induction es with
  | nil => rfl
  | cons e es ih =>
    cases h : e.1.same key with
    | true => simp [put, h]
    | false =>
      simp only [put, h, Bool.false_eq_true, if_false, List.map_cons, ih, List.any_cons,
        Bool.false_or]
      split <;> rfl

theorem find?_cons (e : TableKey × Table) (k : TableKey) :
    find? ⟨e :: es⟩ k = if e.1.same k then some e.2 else find? ⟨es⟩ k := by
  rw [find?, find?, List.find?_cons]
  cases e.1.same k <;> rfl

/-- What is found under a key is the new description if that is its key, and else what it was. -/
theorem find?_put (k : TableKey) :
    find? ⟨put key t es⟩ k = if key.same k then some t else find? ⟨es⟩ k := by
  induction es with
  | nil => rw [put, find?_cons]
  | cons e es ih =>
    cases hkey : e.1.same key with
    | true =>
      rw [put, if_pos hkey, find?_cons, find?_cons, TableKey.same_congr hkey]
      cases key.same k <;> rfl
    | false =>
      rw [put, hkey, if_neg Bool.false_ne_true, find?_cons, find?_cons, ih]
      cases hk : e.1.same k with
      | true =>
        have hne : key.same k = false := by
          by_contra hsame
          rw [Bool.not_eq_false] at hsame
          rw [TableKey.same_trans hk (TableKey.same_symm hsame)] at hkey
          cases hkey
        rw [hne]
        rfl
      | false => rfl

end Put

/-! ## All descriptions -/

section OfList

variable (ts : List Table)

theorem ofList_append (t : Table) : ofList (ts ++ [t]) = (ofList ts).add t := by
  rw [ofList, List.foldl_append]
  rfl

/-- The keys of a registry are those that come for the first time. -/
theorem firsts_keys :
    Firsts TableKey.same (ts.map Table.key) ((ofList ts).entries.map Prod.fst) := by
  induction ts using List.reverseRecOn with
  | nil => exact .nil
  | append_singleton ts t ih =>
    have happend := ih.append (fun _ _ _ ↦ TableKey.same_trans) t.key
    rw [List.any_map] at happend
    rw [ofList_append, add, keys_put, List.map_append]
    exact happend

theorem isKey_of_mem_entries {ts : List Table} (hkeys : ∀ t ∈ ts, t.key.isKey)
    {e : TableKey × Table} (he : e ∈ (ofList ts).entries) : e.1.isKey := by
  obtain ⟨t, ht, hkey⟩ := List.mem_map.mp ((firsts_keys ts).subset (List.mem_map_of_mem he))
  exact hkey ▸ hkeys t ht

/-- What is found under a key is the last description with it. -/
theorem find?_ofList (k : TableKey) : (ofList ts).find? k = ts.reverse.find? (·.key.same k) := by
  induction ts using List.reverseRecOn with
  | nil => rfl
  | append_singleton ts t ih =>
    rw [ofList_append, add, find?_put, List.reverse_append, List.reverse_singleton,
      List.singleton_append, List.find?_cons, ← ih]
    cases t.key.same k <;> rfl

end OfList

/-- The description `t` is the last one of some descriptions that has a key. -/
def IsLast (ts : List Table) (k : TableKey) (t : Table) : Prop :=
  t.key.same k ∧ ∃ before after, ts = before ++ t :: after ∧ ∀ t' ∈ after, t'.key.same k = false

theorem find?_ofList_eq_some_iff {ts : List Table} {k : TableKey} {t : Table} :
    (ofList ts).find? k = some t ↔ IsLast ts k t := by
  rw [find?_ofList, List.find?_eq_some_iff_append, IsLast]
  refine and_congr_right fun _ ↦ ?_
  constructor
  · rintro ⟨after, before, hts, hafter⟩
    refine ⟨before.reverse, after.reverse, ?_, ?_⟩
    · rw [← List.reverse_reverse ts, hts]
      simp
    · simpa using hafter
  · rintro ⟨before, after, rfl, hafter⟩
    refine ⟨after.reverse, before.reverse, by simp, ?_⟩
    simpa using hafter

/-! ## Listings -/

section Listing

variable {ks ls : List TableKey}

/-- Within a schema, the names come for the first time where the keys do. -/
theorem firsts_names (h : Firsts TableKey.same ks ls) (s : Value) :
    Firsts Value.sameScalar ((ks.filter (·.schema.sameScalar s)).map TableKey.name)
      ((ls.filter (·.schema.sameScalar s)).map TableKey.name) := by
  induction h with
  | nil => exact .nil
  | @first ks ls k _ hnew ih =>
    cases hs : k.schema.sameScalar s with
    | false => simpa [hs] using ih
    | true =>
      have hname : ∀ m ∈ (ks.filter (·.schema.sameScalar s)).map TableKey.name,
          m.sameScalar k.name = false := by
        intro m hm
        obtain ⟨l, hl, rfl⟩ := List.mem_map.mp hm
        obtain ⟨hl, hschema⟩ := List.mem_filter.mp hl
        rw [← Bool.not_eq_true]
        intro hsame
        have hkey := TableKey.same_iff.mpr
          ⟨Value.sameScalar_trans hschema (Value.sameScalar_symm hs), hsame⟩
        rw [hnew l hl] at hkey
        cases hkey
      simpa [hs] using Firsts.first ih hname
  | @again ks ls k _ hagain ih =>
    cases hs : k.schema.sameScalar s with
    | false => simpa [hs] using ih
    | true =>
      obtain ⟨l, hl, hsame⟩ := hagain
      obtain ⟨hschema, hname⟩ := TableKey.same_iff.mp hsame
      have hmem : l ∈ ks.filter (·.schema.sameScalar s) :=
        List.mem_filter.mpr ⟨hl, Value.sameScalar_trans hschema hs⟩
      simpa [hs] using Firsts.again ih ⟨l.name, List.mem_map_of_mem hmem, hname⟩

theorem distinct_append (vs : List Value) (v : Value) : Value.distinct (vs ++ [v]) =
    if (Value.distinct vs).any (Value.sameScalar · v) then Value.distinct vs
    else Value.distinct vs ++ [v] := by
  rw [Value.distinct, List.foldl_append]
  rfl

theorem firsts_distinct (vs : List Value) : Firsts Value.sameScalar vs (Value.distinct vs) := by
  induction vs using List.reverseRecOn with
  | nil => exact .nil
  | append_singleton vs v ih =>
    rw [distinct_append]
    exact ih.append (fun _ _ _ ↦ Value.sameScalar_trans) v

/-- The schemas of the keys that come for the first time are those of all keys. -/
theorem distinct_schemas (h : Firsts TableKey.same ks ls) :
    Value.distinct (ls.map TableKey.schema) = Value.distinct (ks.map TableKey.schema) := by
  induction h with
  | nil => rfl
  | first _ _ ih =>
    rw [List.map_append, List.map_append, List.map_singleton, distinct_append, distinct_append, ih]
  | @again ks ls k _ hagain ih =>
    have hany : (Value.distinct (ks.map TableKey.schema)).any (Value.sameScalar · k.schema) := by
      obtain ⟨l, hl, hsame⟩ := hagain
      rw [List.any_eq_true, (firsts_distinct _).exists_iff fun _ _ _ ↦ Value.sameScalar_trans]
      exact ⟨l.schema, List.mem_map_of_mem hl, (TableKey.same_iff.mp hsame).1⟩
    rw [List.map_append, List.map_singleton, distinct_append, if_pos hany, ih]

theorem schemas_ofList (ts : List Table) :
    (ofList ts).schemas = Value.distinct (ts.map Table.schema) := by
  have hschemas := distinct_schemas (firsts_keys ts)
  rw [List.map_map, List.map_map] at hschemas
  exact hschemas

end Listing

section Filter

variable {α ε : Type} {f : α → Except ε Bool} {p : α → Bool} {l : List α}

theorem filterAuxM_eq_ok_iff (hp : ∀ a ∈ l, ∀ b, f a = .ok b → b = p a) {kept found : List α} :
    l.filterAuxM f kept = .ok found ↔
      (∀ a ∈ l, f a = .ok (p a)) ∧ found = (l.filter p).reverse ++ kept := by
  induction l generalizing kept with
  | nil =>
    rw [List.filterAuxM]
    simp [pure, Except.pure, eq_comm]
  | cons a l ih =>
    obtain ⟨ha, hl⟩ := List.forall_mem_cons.mp hp
    rw [List.filterAuxM, List.forall_mem_cons]
    cases hfa : f a with
    | error e => simp [bind, Except.bind]
    | ok b =>
      obtain rfl := ha b hfa
      have hbind : (Except.ok (p a) >>= fun b ↦ l.filterAuxM f (cond b (a :: kept) kept)) =
          l.filterAuxM f (cond (p a) (a :: kept) kept) := rfl
      rw [hbind, ih hl]
      cases hpa : p a <;> simp [hpa]

/-- A filter whose test may fail lets through what passes, if no test fails. -/
theorem filterM_eq_ok_iff (hp : ∀ a ∈ l, ∀ b, f a = .ok b → b = p a) {found : List α} :
    l.filterM f = .ok found ↔ (∀ a ∈ l, f a = .ok (p a)) ∧ l.filter p = found := by
  rw [List.filterM]
  cases haux : l.filterAuxM f [] with
  | error e =>
    have hnot : ¬ ∀ a ∈ l, f a = .ok (p a) := by
      intro hall
      have hok : l.filterAuxM f [] = .ok ((l.filter p).reverse ++ []) :=
        (filterAuxM_eq_ok_iff hp).mpr ⟨hall, rfl⟩
      rw [haux] at hok
      cases hok
    simp [bind, Except.bind, hnot]
  | ok kept =>
    obtain ⟨hall, rfl⟩ := (filterAuxM_eq_ok_iff hp).mp haux
    rw [and_iff_right hall]
    simp [bind, Except.bind, pure, Except.pure]

end Filter

/-! ## Questions and answers -/

section Question

variable {r : Registry} {s n : Value}

theorem isSome_find?_iff {k : TableKey} : (r.find? k).isSome ↔ ∃ e ∈ r.entries, e.1.same k := by
  simp [find?]

theorem isKey_of_find? {k : TableKey} (h : (r.find? k).isSome) : k.isKey := by
  obtain ⟨e, -, hsame⟩ := isSome_find?_iff.mp h
  exact TableKey.isKey_of_same hsame

/-- A table is there just if a description is found. -/
theorem has_eq_ok_true_iff : r.has s n = .ok true ↔ (r.find? ⟨s, n⟩).isSome := by
  by_cases hkey : TableKey.isKey ⟨s, n⟩
  · simp [has, hkey, isSome_find?_iff]
  · have hnone : ¬ (r.find? ⟨s, n⟩).isSome := fun hfind ↦ hkey (isKey_of_find? hfind)
    simp [has, hkey, hnone]

theorem describe_eq_ok_iff {t : Table} : r.describe s n = .ok t ↔ r.find? ⟨s, n⟩ = some t := by
  by_cases hkey : TableKey.isKey ⟨s, n⟩
  · simp only [describe, hkey, if_true]
    cases r.find? ⟨s, n⟩ <;> simp
  · have hne : r.find? ⟨s, n⟩ ≠ some t := fun hfind ↦ hkey (isKey_of_find? (by rw [hfind]; rfl))
    simp [describe, hkey, hne]

/-- What can be looked up and is not there is refused by name. -/
theorem refused_of_isKey (hkey : TableKey.isKey ⟨s, n⟩) (h : ¬ (r.find? ⟨s, n⟩).isSome) :
    r.has s n = .ok false ∧ r.describe s n = .error (.unknownTable s n) := by
  constructor
  · rw [isSome_find?_iff] at h
    simpa [has, hkey] using h
  · rw [Option.not_isSome_iff_eq_none] at h
    simp [describe, hkey, h]

section Keys

variable (hkeys : ∀ e ∈ r.entries, e.1.isKey)

include hkeys

/-- The tables of a schema are listed if all keys can be compared with it. -/
theorem tables_eq_ok_iff {names : List Value} : r.tables s = .ok names ↔
    (∀ e ∈ r.entries, e.1.schema.testSame s = .ok (e.1.schema.sameScalar s)) ∧
      ((r.entries.map Prod.fst).filter (·.schema.sameScalar s)).map TableKey.name = names := by
  have hfound : r.tables s = .ok names ↔ ∃ found,
      r.entries.filterM (fun e ↦ e.1.schema.testSame s) = .ok found ∧
        found.map (·.1.name) = names := by
    rw [tables]
    cases r.entries.filterM fun e ↦ e.1.schema.testSame s <;> simp [Except.map]
  have htest : ∀ e ∈ r.entries, ∀ b, e.1.schema.testSame s = .ok b →
      b = e.1.schema.sameScalar s := by
    intro e he b hb
    have hkey := (Bool.and_eq_true_iff.mp (hkeys e he)).1
    exact Value.eq_sameScalar_of_testSame hkey hb
  have hnames : ((r.entries.map Prod.fst).filter (·.schema.sameScalar s)).map TableKey.name =
      (r.entries.filter (·.1.schema.sameScalar s)).map (·.1.name) := by
    rw [List.filter_map, List.map_map]
    rfl
  rw [hfound, hnames]
  simp only [filterM_eq_ok_iff htest, and_assoc, exists_and_left, exists_eq_left']

/-- The tables of a schema are listed whatever it is, if only it does not signal. -/
theorem tables_eq_ok (hs : s.isSignaling = false) : r.tables s =
    .ok (((r.entries.map Prod.fst).filter (·.schema.sameScalar s)).map TableKey.name) := by
  rw [tables_eq_ok_iff hkeys]
  refine ⟨fun e he ↦ ?_, rfl⟩
  exact Value.testSame_eq_ok (Bool.and_eq_true_iff.mp (hkeys e he)).1 hs

/-- The tables of a schema are the names of the keys that have it. -/
theorem exists_tables_mem_iff {m : Value} : (∃ names, r.tables s = .ok names ∧ m ∈ names) ↔
    ∃ e ∈ r.entries, e.1.schema.sameScalar s ∧ e.1.name = m := by
  constructor
  · rintro ⟨names, hnames, hm⟩
    obtain ⟨-, rfl⟩ := (tables_eq_ok_iff hkeys).mp hnames
    obtain ⟨k, hk, rfl⟩ := List.mem_map.mp hm
    obtain ⟨hk, hschema⟩ := List.mem_filter.mp hk
    obtain ⟨e, he, rfl⟩ := List.mem_map.mp hk
    exact ⟨e, he, hschema, rfl⟩
  · rintro ⟨e, he, hschema, rfl⟩
    have hsignal := Value.isSignaling_of_isKey (Value.isKey_of_sameScalar hschema).2
    have hmem : e.1 ∈ (r.entries.map Prod.fst).filter (·.schema.sameScalar s) :=
      List.mem_filter.mpr ⟨List.mem_map_of_mem he, hschema⟩
    exact ⟨_, tables_eq_ok hkeys hsignal, List.mem_map_of_mem hmem⟩

/-- A name is among the tables of a schema just if a description is found. -/
theorem exists_tables_sameScalar_iff :
    (∃ names, r.tables s = .ok names ∧ ∃ m ∈ names, m.sameScalar n) ↔
      (r.find? ⟨s, n⟩).isSome := by
  rw [isSome_find?_iff]
  constructor
  · rintro ⟨names, hnames, m, hm, hsame⟩
    obtain ⟨e, he, hschema, rfl⟩ := (exists_tables_mem_iff hkeys).mp ⟨names, hnames, hm⟩
    exact ⟨e, he, TableKey.same_iff.mpr ⟨hschema, hsame⟩⟩
  · rintro ⟨e, he, hsame⟩
    obtain ⟨hschema, hname⟩ := TableKey.same_iff.mp hsame
    obtain ⟨names, hnames, hm⟩ := (exists_tables_mem_iff hkeys).mpr ⟨e, he, hschema, rfl⟩
    exact ⟨names, hnames, e.1.name, hm, hname⟩

/-- There are tables in a schema just if it is that of a key. -/
theorem exists_tables_ne_nil_iff : (∃ names, r.tables s = .ok names ∧ names ≠ []) ↔
    ∃ e ∈ r.entries, e.1.schema.sameScalar s := by
  constructor
  · rintro ⟨names, hnames, hne⟩
    obtain ⟨m, hm⟩ := List.exists_mem_of_ne_nil names hne
    obtain ⟨e, he, hschema, -⟩ := (exists_tables_mem_iff hkeys).mp ⟨names, hnames, hm⟩
    exact ⟨e, he, hschema⟩
  · rintro ⟨e, he, hschema⟩
    obtain ⟨names, hnames, hm⟩ := (exists_tables_mem_iff hkeys).mpr ⟨e, he, hschema, rfl⟩
    exact ⟨names, hnames, List.ne_nil_of_mem hm⟩

end Keys

theorem exists_mem_schemas_iff :
    (∃ v ∈ r.schemas, v.sameScalar s) ↔ ∃ e ∈ r.entries, e.1.schema.sameScalar s := by
  rw [schemas, (firsts_distinct _).exists_iff fun _ _ _ ↦ Value.sameScalar_trans]
  simp

end Question

/-! ## The main statement -/

/-- What the look-ups and the listings of a registry answer, with regard to descriptions.  Values
count as equal if they are the same. -/
structure Answers (ts : List Table) (r : Registry) : Prop where
  /-- A table is there just if it is described. -/
  described : ∀ s n, r.has s n = .ok true ↔ ∃ t, r.describe s n = .ok t
  /-- A table is there just if its name is listed. -/
  listed : ∀ s n, r.has s n = .ok true ↔
    ∃ names, r.tables s = .ok names ∧ ∃ m ∈ names, m.sameScalar n
  /-- What can be looked up and is not there is refused by name. -/
  refused : ∀ s n, TableKey.isKey ⟨s, n⟩ → r.has s n ≠ .ok true →
    r.has s n = .ok false ∧ r.describe s n = .error (.unknownTable s n)
  /-- The description of a table is the last one given for it. -/
  last : ∀ s n t, r.describe s n = .ok t ↔ IsLast ts ⟨s, n⟩ t
  /-- The tables of a schema are listed, in the order in which they come for the first time. -/
  tables : ∀ s, s.isSignaling = false → ∃ names, r.tables s = .ok names ∧
    Firsts Value.sameScalar ((ts.filter (·.schema.sameScalar s)).map Table.name) names ∧
      names.Pairwise fun m m' ↦ m.sameScalar m' = false
  /-- The schemas are listed in the order in which they come for the first time. -/
  schemas : Firsts Value.sameScalar (ts.map Table.schema) r.schemas ∧
    r.schemas.Pairwise fun v w ↦ v.sameScalar w = false
  /-- A schema is listed just if there are tables in it. -/
  filled : ∀ s, (∃ v ∈ r.schemas, v.sameScalar s) ↔
    ∃ names, r.tables s = .ok names ∧ names ≠ []

theorem answers_ofList {ts : List Table} (hkeys : ∀ t ∈ ts, t.key.isKey) :
    Answers ts (ofList ts) where
  described s n := by
    rw [has_eq_ok_true_iff, Option.isSome_iff_exists]
    simp only [describe_eq_ok_iff]
  listed s n := by
    rw [has_eq_ok_true_iff, exists_tables_sameScalar_iff fun _ ↦ isKey_of_mem_entries hkeys]
  refused s n hkey hhas := by
    rw [ne_eq, has_eq_ok_true_iff] at hhas
    exact refused_of_isKey hkey hhas
  last s n t := by
    rw [describe_eq_ok_iff, find?_ofList_eq_some_iff]
  tables s hs := by
    have hnames := firsts_names (firsts_keys ts) s
    have hgiven : ((ts.map Table.key).filter (·.schema.sameScalar s)).map TableKey.name =
        (ts.filter (·.schema.sameScalar s)).map Table.name := by
      rw [List.filter_map, List.map_map]
      rfl
    rw [hgiven] at hnames
    exact ⟨_, tables_eq_ok (fun _ ↦ isKey_of_mem_entries hkeys) hs, hnames, hnames.pairwise⟩
  schemas := by
    have hschemas := firsts_distinct (ts.map Table.schema)
    rw [← schemas_ofList] at hschemas
    exact ⟨hschemas, hschemas.pairwise⟩
  filled s := by
    rw [exists_mem_schemas_iff, exists_tables_ne_nil_iff fun _ ↦ isKey_of_mem_entries hkeys]

/-- A registry is made of any descriptions whose schemas and names can be looked up, as texts can,
and however often a table is described, its look-ups and its listings agree.  For texts, to be the
same is to be equal. -/
theorem lookups_and_listings_agree {ts : List Table} (hkeys : ∀ t ∈ ts, t.key.isKey) :
    (∃ r, ofTables ts = .ok r ∧ Answers ts r) ∧
      ∀ (v : Value) (s : String), v.sameScalar (.text s) ↔ v = .text s := by
  refine ⟨⟨ofList ts, ?_, answers_ofList hkeys⟩, fun v s ↦ Value.sameScalar_text_iff⟩
  rw [ofTables, if_pos (List.all_eq_true.mpr hkeys)]

/-- Two schemas, and a table that is described twice. -/
def workshopTables : List Table :=
  [{ schema := .text "shop", name := .text "items" },
    { schema := .text "crm", name := .text "items" },
    { schema := .text "shop", name := .text "staff" },
    { schema := .text "shop", name := .text "items"
      columns := [{ name := .text "id", type := .text "integer" }] }]

theorem lookups_and_listings_of_workshopTables :
    ∃ r, ofTables workshopTables = .ok r ∧ Answers workshopTables r ∧
      r.tables (.text "shop") = .ok [.text "items", .text "staff"] ∧
      r.schemas = [.text "shop", .text "crm"] ∧
      (r.describe (.text "shop") (.text "items")).toOption.map (·.columns.length) = some 1 := by
  have hkeys : ∀ t ∈ workshopTables, t.key.isKey := by decide
  obtain ⟨⟨r, hr, hanswers⟩, -⟩ := lookups_and_listings_agree hkeys
  have heq : r = ofList workshopTables := by
    rw [ofTables, if_pos (List.all_eq_true.mpr hkeys)] at hr
    exact (Except.ok.inj hr).symm
  refine ⟨r, hr, hanswers, ?_, ?_, ?_⟩
  · rw [heq]
    rfl
  · rw [heq]
    rfl
  · rw [heq]
    rfl

end Registry

end Schema

end SelectBuilder
