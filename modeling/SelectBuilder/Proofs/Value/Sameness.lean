import SelectBuilder.Value.Comparison

/-!
# Values that are the same

Values are compared kind by kind: numbers of all kinds by their quantity, dates and times with an
offset by the moment that they name.  What is compared is called the identity of a value here, so
that two values are the same just if they have the same identity (`sameScalar_iff`).  Collections,
and numbers that are not defined, have none: they are the same as no value, not even as themselves.
So being the same is symmetric and transitive, and reflexive where there is an identity.
-/

namespace SelectBuilder

/-- What a value is compared by.  A moment and a time of day have an offset, or are local. -/
inductive Identity where
  | null
  | text (s : String)
  | number (q : Quantity)
  | date (d : Date)
  | moment (isLocal : Bool) (microseconds : Int)
  | clock (isLocal : Bool) (microseconds : Int)
deriving DecidableEq, Repr

/-- The distance from universal time, which a local time does not have. -/
def TimeOfDay.shift (t : TimeOfDay) : Int := (t.offset.map UtcOffset.microseconds).getD 0

theorem TimeOfDay.same_iff (s t : TimeOfDay) :
    s.same t ↔ s.offset.isNone = t.offset.isNone ∧
      (s.microseconds : Int) - s.shift = t.microseconds - t.shift := by
  rw [same, shift, shift]
  cases s.offset <;> cases t.offset <;> grind

theorem DateTime.same_iff (s t : DateTime) :
    s.same t ↔ s.time.offset.isNone = t.time.offset.isNone ∧
      (s.microseconds : Int) - s.time.shift = t.microseconds - t.time.shift := by
  rw [same, TimeOfDay.shift, TimeOfDay.shift]
  cases s.time.offset <;> cases t.time.offset <;> grind

namespace Value

/-- What a value is compared by, if it can be the same as any. -/
def identity? : Value → Option Identity
  | .null => some .null
  | .text s => some (.text s)
  | .date d => some (.date d)
  | .datetime t => some (.moment t.time.offset.isNone (t.microseconds - t.time.shift))
  | .time t => some (.clock t.offset.isNone (t.microseconds - t.shift))
  | v => v.quantity?.map .number

variable {u v w : Value}

theorem identity?_of_isNumber (h : v.isNumber) : v.identity? = v.quantity?.map .number := by
  cases v <;> first | rfl | cases h

theorem quantity?_of_isSignaling (h : v.isSignaling) : v.quantity? = none := by
  cases v with
  | decimal d =>
    cases d with
    | nan => rfl
    | finite | infinite => cases h
  | _ => cases h

/-- The kind of a value is told by its identity. -/
theorem kind_of_identity? {i : Identity} (h : v.identity? = some i) :
    match i with
    | .null => v = .null
    | .text s => v = .text s
    | .number _ => v.isNumber
    | .date d => v = .date d
    | .moment .. => ∃ t, v = .datetime t
    | .clock .. => ∃ t, v = .time t := by
  by_cases hnumber : v.isNumber
  · rw [identity?_of_isNumber hnumber, Option.map_eq_some_iff] at h
    obtain ⟨q, -, rfl⟩ := h
    exact hnumber
  · cases v with
    | null | text | date => cases h; rfl
    | datetime t | time t => cases h; exact ⟨t, rfl⟩
    | list | record | set => cases h
    | bool | int | float | decimal => exact absurd rfl hnumber

/-- Two values are the same just if they have the same identity. -/
theorem sameScalar_iff : v.sameScalar w ↔ ∃ i, v.identity? = some i ∧ w.identity? = some i := by
  rw [sameScalar]
  fun_cases testSameScalar v w with
  | case1 => simp [identity?, Except.toOption]
  | case2 s t => simp [identity?, Except.toOption, eq_comm (a := t)]
  | case3 d e => simp [identity?, Except.toOption, eq_comm (a := e)]
  | case4 s t =>
    simp only [identity?, Except.toOption, Option.getD_some, Option.some.injEq, exists_eq_left',
      DateTime.same_iff, Identity.moment.injEq]
    exact and_congr eq_comm eq_comm
  | case5 s t =>
    simp only [identity?, Except.toOption, Option.getD_some, Option.some.injEq, exists_eq_left',
      TimeOfDay.same_iff, Identity.clock.injEq]
    exact and_congr eq_comm eq_comm
  | case6 v w _ _ _ _ _ hnumbers hsignal =>
    obtain ⟨hv, hw⟩ := Bool.and_eq_true_iff.mp hnumbers
    rw [identity?_of_isNumber hv, identity?_of_isNumber hw]
    rcases Bool.or_eq_true_iff.mp hsignal with hsignal | hsignal
    · simp [quantity?_of_isSignaling hsignal, Except.toOption]
    · simp [quantity?_of_isSignaling hsignal, Except.toOption]
  | case7 v w _ _ _ _ _ hnumbers hsignal =>
    obtain ⟨hv, hw⟩ := Bool.and_eq_true_iff.mp hnumbers
    rw [identity?_of_isNumber hv, identity?_of_isNumber hw]
    cases v.quantity? <;> cases w.quantity? <;> simp [Except.toOption, eq_comm]
  | case8 v w hnull htext hdate hmoment hclock hnumbers =>
    have hnone : ¬ ∃ i, v.identity? = some i ∧ w.identity? = some i := by
      rintro ⟨i, hv, hw⟩
      have hv := kind_of_identity? hv
      have hw := kind_of_identity? hw
      cases i with
      | null => exact hnull hv hw
      | text s => exact htext s s hv hw
      | number q => exact hnumbers (Bool.and_eq_true_iff.mpr ⟨hv, hw⟩)
      | date d => exact hdate d d hv hw
      | moment =>
        obtain ⟨s, hs⟩ := hv
        obtain ⟨t, ht⟩ := hw
        exact hmoment s t hs ht
      | clock =>
        obtain ⟨s, hs⟩ := hv
        obtain ⟨t, ht⟩ := hw
        exact hclock s t hs ht
    exact iff_of_false Bool.false_ne_true hnone

theorem sameScalar_symm (h : v.sameScalar w) : w.sameScalar v := by
  obtain ⟨i, hv, hw⟩ := sameScalar_iff.mp h
  exact sameScalar_iff.mpr ⟨i, hw, hv⟩

theorem sameScalar_trans (huv : u.sameScalar v) (hvw : v.sameScalar w) : u.sameScalar w := by
  obtain ⟨i, hu, hv⟩ := sameScalar_iff.mp huv
  obtain ⟨j, hv', hw⟩ := sameScalar_iff.mp hvw
  obtain rfl : i = j := Option.some.inj (hv.symm.trans hv')
  exact sameScalar_iff.mpr ⟨i, hu, hw⟩

/-- A text is the same as itself only. -/
theorem sameScalar_text_iff {s : String} : v.sameScalar (.text s) ↔ v = .text s := by
  rw [sameScalar_iff]
  constructor
  · rintro ⟨i, hv, hs⟩
    cases hs
    exact kind_of_identity? hv
  · rintro rfl
    exact ⟨.text s, rfl, rfl⟩

/-! ## Keys -/

/-- Whatever has an identity can be looked up. -/
theorem isKey_of_identity? {i : Identity} (h : v.identity? = some i) : v.isKey := by
  cases v with
  | list | record | set => cases h
  | decimal d =>
    cases hsignal : (decimal d).isSignaling with
    | false => simp [isKey, hsignal]
    | true =>
      rw [identity?_of_isNumber rfl, quantity?_of_isSignaling hsignal] at h
      cases h
  | _ => rfl

theorem isKey_of_sameScalar (h : v.sameScalar w) : v.isKey ∧ w.isKey := by
  obtain ⟨i, hv, hw⟩ := sameScalar_iff.mp h
  exact ⟨isKey_of_identity? hv, isKey_of_identity? hw⟩

theorem isSignaling_of_isKey (h : v.isKey) : v.isSignaling = false := by
  cases v with
  | decimal d => simpa [isKey] using h
  | _ => rfl

theorem testSameScalar_eq_ok (hv : v.isSignaling = false) (hw : w.isSignaling = false) :
    v.testSameScalar w = .ok (v.sameScalar w) := by
  rw [sameScalar]
  fun_cases testSameScalar v w with
  | case6 v w _ _ _ _ _ _ hsignal =>
    rw [hv, hw] at hsignal
    cases hsignal
  | _ => rfl

section Key

variable (hv : v.isKey)

include hv

theorem testSame_of_isKey : v.testSame w = v.testSameScalar w := by
  cases v with
  | list | record | set => cases hv
  | _ => rfl

/-- A key can be compared with whatever does not signal. -/
theorem testSame_eq_ok (hw : w.isSignaling = false) : v.testSame w = .ok (v.sameScalar w) := by
  rw [testSame_of_isKey hv, testSameScalar_eq_ok (isSignaling_of_isKey hv) hw]

/-- Where a key can be compared, the outcome is whether the two are the same. -/
theorem eq_sameScalar_of_testSame {b : Bool} (h : v.testSame w = .ok b) : b = v.sameScalar w := by
  rw [testSame_of_isKey hv] at h
  rw [sameScalar, h]
  rfl

end Key

end Value

end SelectBuilder
