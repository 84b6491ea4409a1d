import SelectBuilder.Proofs.Literal.Containment

/-!
# The texts of values

Numbers aside, what the text of a value is made of tells a value from another one.  Dates and times
are written with digits and a few marks, so no brace is in them (`isClockChar_isoText`); a text that
is written in full has gained its quotes, and a collection of one item has gained its braces, so
neither is written like the item itself (`quotable_ne_braced`).
-/

namespace SelectBuilder

/-! ## Dates and times -/

/-- Whether a character can be a part of a date or a time. -/
def isClockChar (c : Char) : Bool := c.isDigit || c ∈ ['-', ':', '.', '+', 'T', ' ']

/-- Whether a text has nothing in it but parts of dates and times. -/
def IsClockText (s : List Char) : Prop := ∀ c ∈ s, isClockChar c

theorem isClockText_nil : IsClockText [] := List.forall_mem_nil _

theorem IsClockText.append {s t : List Char} (hs : IsClockText s) (ht : IsClockText t) :
    IsClockText (s ++ t) :=
  List.forall_mem_append.mpr ⟨hs, ht⟩

theorem IsClockText.append_cons {s t : List Char} {c : Char} (hs : IsClockText s)
    (hc : isClockChar c) (ht : IsClockText t) : IsClockText (s ++ c :: t) :=
  hs.append (List.forall_mem_cons.mpr ⟨hc, ht⟩)

theorem isClockText_fixedWidth (width n : Nat) : IsClockText (fixedWidth width n) := by
  intro c hc
  rw [isClockChar, Bool.or_eq_true]
  left
  rcases List.mem_append.mp hc with hc | hc
  · rw [List.eq_of_mem_replicate hc]
    rfl
  · exact Nat.isDigit_of_mem_toDigits (by decide) (by decide) hc

theorem isClockText_fractionChars (n : Nat) : IsClockText (fractionChars n) := by
  unfold fractionChars
  split
  · exact isClockText_nil
  · exact isClockText_nil.append_cons rfl (isClockText_fixedWidth 6 n)

theorem Date.isClockText_chars (d : Date) : IsClockText d.chars :=
  ((isClockText_fixedWidth 4 d.year).append_cons rfl (isClockText_fixedWidth 2 d.month)).append_cons
    rfl (isClockText_fixedWidth 2 d.day)

theorem UtcOffset.isClockText_chars (o : UtcOffset) : IsClockText o.chars := by
  have hsign : isClockChar (if o.microseconds < 0 then '-' else '+') := by
    split <;> rfl
  refine IsClockText.append ?_ ?_
  · exact (isClockText_nil.append_cons hsign (isClockText_fixedWidth 2 _)).append_cons rfl
      (isClockText_fixedWidth 2 _)
  · split
    · exact isClockText_nil
    · exact isClockText_nil.append_cons rfl
        ((isClockText_fixedWidth 2 _).append (isClockText_fractionChars _))

theorem TimeOfDay.isClockText_chars (t : TimeOfDay) : IsClockText t.chars := by
  have hclock : IsClockText
      (fixedWidth 2 t.hour ++ ':' :: fixedWidth 2 t.minute ++ ':' :: fixedWidth 2 t.second) :=
    ((isClockText_fixedWidth 2 _).append_cons rfl (isClockText_fixedWidth 2 _)).append_cons rfl
      (isClockText_fixedWidth 2 _)
  refine (hclock.append (isClockText_fractionChars _)).append ?_
  cases t.offset with
  | none => exact isClockText_nil
  | some o => exact o.isClockText_chars

theorem DateTime.isClockText_chars {separator : Char} (h : isClockChar separator) (t : DateTime) :
    IsClockText (t.chars separator) :=
  t.date.isClockText_chars.append_cons h t.time.isClockText_chars

theorem Date.isClockText_text (d : Date) : IsClockText d.text.toList := by
  rw [text, String.toList_ofList]
  exact d.isClockText_chars

theorem TimeOfDay.isClockText_text (t : TimeOfDay) : IsClockText t.text.toList := by
  rw [text, String.toList_ofList]
  exact t.isClockText_chars

theorem DateTime.isClockText_spacedText (t : DateTime) : IsClockText t.spacedText.toList := by
  rw [spacedText, String.toList_ofList]
  exact isClockText_chars rfl t

theorem DateTime.isClockText_isoText (t : DateTime) : IsClockText t.isoText.toList := by
  rw [isoText, String.toList_ofList]
  exact isClockText_chars rfl t

/-- The text that stands for a date or a time, in either form. -/
theorem Value.isClockText_display {v : Value} (h : v.isoText?.isSome) :
    IsClockText v.display.toList := by
  cases v with
  | date d => exact d.isClockText_text
  | datetime t => exact t.isClockText_spacedText
  | time t => exact t.isClockText_text
  | _ => cases h

theorem Value.isClockText_isoText {v : Value} {s : String} (h : v.isoText? = some s) :
    IsClockText s.toList := by
  cases v with
  | date d => exact Option.some.inj h ▸ d.isClockText_text
  | datetime t => exact Option.some.inj h ▸ t.isClockText_isoText
  | time t => exact Option.some.inj h ▸ t.isClockText_text
  | _ => cases h

/-! ## Texts in full -/

theorem Text.quotedChar_ne_nil (quote c : Char) : quotedChar quote c ≠ [] := by
  unfold quotedChar
  repeat' split
  all_goals exact List.cons_ne_nil _ _

theorem Text.length_quoted (s : String) : s.length + 2 ≤ (quoted s).length := by
  have hflat (quote : Char) (cs : List Char) :
      cs.length ≤ (cs.flatMap (quotedChar quote)).length := by
    induction cs with
    | nil => exact Nat.le_refl _
    | cons c cs ih =>
      have hpos := List.length_pos_iff.mpr (quotedChar_ne_nil quote c)
      rw [List.flatMap_cons, List.length_append, List.length_cons]
      omega
  have hlength := hflat (if s.toList.contains '\x27' && !s.toList.contains '\x22' then '\x22'
    else '\x27') s.toList
  rw [quoted, String.length_ofList]
  simp only [List.length_append, List.length_cons, List.length_nil]
  rw [String.length_toList] at hlength
  omega

namespace Value

theorem isClockText_quotable {v : Value} (h : v.isoText?.isSome) (family : Family) :
    IsClockText (v.quotable family).toList := by
  have hdisplay := isClockText_display h
  cases family with
  | date | timestamp =>
    obtain ⟨s, hs⟩ := Option.isSome_iff_exists.mp h
    rw [quotable, hs]
    exact isClockText_isoText hs
  | string | numeric | boolean =>
    cases v with
    | bool => cases h
    | _ => exact hdisplay

/-- A value that is neither a date nor a time is no shorter when it is written in full. -/
theorem length_quotable_le {v : Value} (h : v.isoText? = none) (family : Family) :
    (v.quotable family).length ≤ v.full.length := by
  have hdisplay : v.display.length ≤ v.full.length := by
    cases v with
    | text s =>
      rw [display, full]
      exact Nat.le_trans (Nat.le_add_right _ 2) (Text.length_quoted s)
    | decimal d =>
      have hquoted := Text.length_quoted d.text
      simp only [display, full, application, String.length_append]
      rw [String.intercalate_singleton]
      omega
    | date | datetime | time => exact absurd h (Option.some_ne_none _)
    | _ => exact Nat.le_refl _
  cases family with
  | date | timestamp =>
    rw [quotable, h]
    exact hdisplay
  | string | numeric | boolean =>
    cases v with
    | bool b => cases b <;> decide
    | _ => exact hdisplay

/-- The text that is quoted for a value is not that of a collection with the value in it. -/
theorem quotable_ne_braced (family : Family) (v : Value) :
    v.quotable family ≠ "\x7b" ++ v.full ++ "\x7d" := by
  intro heq
  by_cases h : v.isoText?.isSome
  · -- There is no brace in dates and times.
    have hbrace : '\x7b' ∈ (v.quotable family).toList := by
      rw [heq]
      simp
    have hclock := isClockText_quotable h family _ hbrace
    revert hclock
    decide
  · have hle := length_quotable_le (Option.not_isSome_iff_eq_none.mp h) family
    rw [heq] at hle
    simp only [String.length_append] at hle
    have hone : "\x7b".length = 1 := rfl
    omega

end Value

end SelectBuilder
