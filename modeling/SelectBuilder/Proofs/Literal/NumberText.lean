import SelectBuilder.Proofs.Number.Written

/-!
# The characters of a number

Numbers are written without quotes, so all rests on what their texts are made of: decimal digits,
signs, points and the letters of an exponent, and nothing else.  This holds of every text that is
read as a numeral, whatever the script of its digits, and of binary numbers with more digits than
any has.  What is not finite is written with other letters, and is no numeral.
-/

namespace SelectBuilder

/-! ## Characters -/

namespace Text

/-- Sets without a range in common have no character in common. -/
theorem CharClass.has_eq_false {s t : CharClass} {c : Char}
    (h : ∀ r ∈ s.ranges, ∀ r' ∈ t.ranges, r.2 < r'.1 ∨ r'.2 < r.1) (hc : s.has c) :
    t.has c = false := by
  simp only [CharClass.has, List.any_eq_true, Bool.and_eq_true, decide_eq_true_eq] at hc
  obtain ⟨r, hr, hlow, hhigh⟩ := hc
  simp only [CharClass.has, List.any_eq_false, Bool.and_eq_true, decide_eq_true_eq, not_and]
  intro r' hr' hlow'
  have := h r hr r' hr'
  omega

theorem le_toNat_of_isDecimalDigit {c : Char} (h : isDecimalDigit c) : 0x30 ≤ c.toNat := by
  simp only [isDecimalDigit, CharClass.has, List.any_eq_true, Bool.and_eq_true,
    decide_eq_true_eq] at h
  obtain ⟨r, hr, hlow, -⟩ := h
  have hleast : ∀ r ∈ decimalDigits.ranges, 0x30 ≤ r.1 := by decide
  exact Nat.le_trans (hleast r hr) hlow

theorem isBlank_eq_false_of_isDecimalDigit {c : Char} (h : isDecimalDigit c) :
    isBlank c = false := by
  have hspace : isSpace c = false := CharClass.has_eq_false (by decide +kernel) h
  have := le_toNat_of_isDecimalDigit h
  simp [isBlank, hspace, isSeparator]
  omega

theorem mem_trim {s : List Char} {c : Char} (hc : c ∈ s) (hblank : isBlank c = false) :
    c ∈ trim s := by
  have hdrop {s : List Char} (hc : c ∈ s) : c ∈ s.dropWhile isBlank := by
    rw [← List.takeWhile_append_dropWhile (p := isBlank) (l := s), List.mem_append] at hc
    refine hc.resolve_left fun htake ↦ ?_
    rw [List.mem_takeWhile_imp htake] at hblank
    cases hblank
  exact List.mem_reverse.mpr (hdrop (List.mem_reverse.mpr (hdrop hc)))

/-- Where there are no blanks, nothing is trimmed. -/
theorem trim_eq_self {s : List Char} (h : ∀ c ∈ s, isBlank c = false) : trim s = s := by
  have hdrop {s : List Char} (h : ∀ c ∈ s, isBlank c = false) : s.dropWhile isBlank = s := by
    rw [List.dropWhile_eq_self_iff]
    intro hlength
    simpa using h _ (List.getElem_mem hlength)
  rw [trim, trimWhere, hdrop h, hdrop fun c hc ↦ h c (List.mem_reverse.mp hc), List.reverse_reverse]

end Text

namespace Numeral

/-- Whether a character can be a part of a number. -/
def isPart (c : Char) : Bool := Text.isDecimalDigit c || c ∈ ['+', '-', '.', 'e', 'E']

/-- Whether a text is written like a number: there is something, and nothing but parts of one. -/
def IsNumberText (s : List Char) : Prop := s ≠ [] ∧ ∀ c ∈ s, isPart c

theorem isPart_of_isDecimalDigit {c : Char} (h : Text.isDecimalDigit c) : isPart c := by
  rw [isPart, h]
  rfl

theorem isBlank_eq_false_of_isPart {c : Char} (h : isPart c) : Text.isBlank c = false := by
  rw [isPart, Bool.or_eq_true, decide_eq_true_eq] at h
  rcases h with h | h
  · exact Text.isBlank_eq_false_of_isDecimalDigit h
  · have hmarks : ['+', '-', '.', 'e', 'E'].all fun c ↦ !Text.isBlank c := by decide
    simpa using List.all_eq_true.mp hmarks c h

theorem IsNumberText.trim_eq {s : List Char} (h : IsNumberText s) : Text.trim s = s :=
  Text.trim_eq_self fun c hc ↦ isBlank_eq_false_of_isPart (h.2 c hc)

/-! ## Texts that are read as numbers -/

theorem mem_splitSign {s : List Char} {c : Char} (hc : c ∈ s) : isPart c ∨ c ∈ (splitSign s).2 := by
  unfold splitSign
  split
  · rcases List.mem_cons.mp hc with rfl | hc
    · exact .inl rfl
    · exact .inr hc
  · rcases List.mem_cons.mp hc with rfl | hc
    · exact .inl rfl
    · exact .inr hc
  · exact .inr hc

theorem mem_splitDigits {s : List Char} {c : Char} (hc : c ∈ s) :
    isPart c ∨ c ∈ (splitDigits s).2 := by
  rw [← List.takeWhile_append_dropWhile (p := Text.isDecimalDigit) (l := s)] at hc
  rcases List.mem_append.mp hc with hc | hc
  · exact .inl (isPart_of_isDecimalDigit (List.mem_takeWhile_imp hc))
  · exact .inr hc

theorem mem_splitFraction {s : List Char} {c : Char} (hc : c ∈ s) :
    isPart c ∨ c ∈ (splitFraction s).2 := by
  unfold splitFraction
  split
  · rcases List.mem_cons.mp hc with rfl | hc
    · exact .inl rfl
    · exact mem_splitDigits hc
  · exact .inr hc

theorem isPart_of_exponent? {s : List Char} {e : Int} (h : exponent? s = some e) :
    ∀ c ∈ s, isPart c := by
  intro c hc
  unfold exponent? at h
  split at h
  case h_1 => cases hc
  case h_2 mark s =>
    split at h
    case isFalse => cases h
    case isTrue hmark =>
      simp only [Option.ite_none_right_eq_some, Bool.and_eq_true, List.all_eq_true] at h
      rcases List.mem_cons.mp hc with rfl | hc
      · simp only [Bool.or_eq_true, decide_eq_true_eq] at hmark
        rcases hmark with rfl | rfl <;> rfl
      · rcases mem_splitSign hc with hpart | hc
        · exact hpart
        · exact isPart_of_isDecimalDigit (h.1.2 c hc)

theorem isNumberText_of_read? {s : List Char} {n : Numeral} (h : read? s = some n) :
    IsNumberText s := by
  simp only [read?] at h
  split at h
  case isTrue => cases h
  case isFalse hdigits =>
    obtain ⟨e, he, -⟩ := Option.map_eq_some_iff.mp h
    refine ⟨?_, fun c hc ↦ ?_⟩
    · rintro rfl
      exact hdigits (by decide)
    · rcases mem_splitSign hc with hpart | hc
      · exact hpart
      rcases mem_splitDigits hc with hpart | hc
      · exact hpart
      rcases mem_splitFraction hc with hpart | hc
      · exact hpart
      exact isPart_of_exponent? he c hc

/-! ## Numbers that are written -/

theorem isNumberText_of_isSome_read? {s : List Char} (h : (read? s).isSome) : IsNumberText s := by
  obtain ⟨n, hn⟩ := Option.isSome_iff_exists.mp h
  exact isNumberText_of_read? hn

theorem IsDigits.isPart {s : List Char} (h : IsDigits s) : ∀ c ∈ s, isPart c :=
  fun c hc ↦ isPart_of_isDecimalDigit (h c hc)

theorem IsNumberText.cons {s : List Char} {c : Char} (hc : isPart c) (h : ∀ c ∈ s, isPart c) :
    IsNumberText (c :: s) :=
  ⟨List.cons_ne_nil c s, List.forall_mem_cons.mpr ⟨hc, h⟩⟩

theorem IsNumberText.append_cons {s t : List Char} {c : Char} (hs : ∀ c ∈ s, isPart c)
    (hc : isPart c) (ht : ∀ c ∈ t, isPart c) : IsNumberText (s ++ c :: t) :=
  ⟨List.append_ne_nil_of_right_ne_nil s (List.cons_ne_nil c t),
    List.forall_mem_append.mpr ⟨hs, List.forall_mem_cons.mpr ⟨hc, ht⟩⟩⟩

theorem isNumberText_take_drop {digits : List Char} (h : IsDigits digits) (n : Nat) :
    IsNumberText (digits.take n ++ '.' :: digits.drop n) :=
  .append_cons (fun c hc ↦ h.isPart c (List.mem_of_mem_take hc)) rfl
    fun c hc ↦ h.isPart c (List.mem_of_mem_drop hc)

end Numeral

namespace Binary64

open Numeral

/-- However many digits there are, their layout is made of parts of a number. -/
theorem isNumberText_layout {digits : List Char} (h : IsDigits digits) (point : Int) :
    IsNumberText (layout digits point) := by
  unfold layout
  split
  · exact .append_cons (s := ['0']) (isDigits_zeros 1).isPart rfl
      ((isDigits_zeros _).append h).isPart
  split
  · split
    · exact .append_cons (h.append (isDigits_zeros _)).isPart rfl (isDigits_zeros 1).isPart
    · exact isNumberText_take_drop h _
  · have hsign : isPart (if point - 1 < 0 then '-' else '+') := by
      split <;> rfl
    refine .append_cons ?_ rfl (List.forall_mem_cons.mpr ⟨hsign, (isDigits_twoDigits _).isPart⟩)
    split
    · exact h.isPart
    · exact (isNumberText_take_drop h 1).2

theorem isNumberText_chars {x : Binary64} (h : x.isFinite) : IsNumberText x.chars := by
  cases x with
  | finite negative m q =>
    have htext : IsNumberText (magnitudeText m q) := by
      unfold magnitudeText
      split
      · exact .append_cons (s := ['0']) (isDigits_zeros 1).isPart rfl (isDigits_zeros 1).isPart
      · exact isNumberText_layout (isDigits_shortest m q) _
    rw [chars]
    split
    · exact .cons rfl htext.2
    · exact htext
  | infinite | nan => cases h

end Binary64

/-! ## What is not finite -/

/-- A letter that is not a part of a number stays when blanks are trimmed. -/
theorem Numeral.read?_trim_eq_none {s : List Char} {c : Char} (hc : c ∈ s)
    (hblank : Text.isBlank c = false) (hpart : isPart c = false) : read? (Text.trim s) = none := by
  cases h : read? (Text.trim s) with
  | none => rfl
  | some n =>
    have hall := (isNumberText_of_read? h).2 c (Text.mem_trim hc hblank)
    rw [hpart] at hall
    cases hall

theorem Decimal.read?_trim_text {d : Decimal} (h : d.isFinite = false) :
    Numeral.read? (Text.trim d.text.toList) = none := by
  have hsigned {s : List Char} {c : Char} (hc : c ∈ s) (hblank : Text.isBlank c = false)
      (hpart : Numeral.isPart c = false) (negative : Bool) :
      Numeral.read? (Text.trim (signed negative s)) = none := by
    refine Numeral.read?_trim_eq_none ?_ hblank hpart
    cases negative with
    | false => exact hc
    | true => exact List.mem_cons_of_mem _ hc
  rw [text, String.toList_ofList]
  cases d with
  | finite => cases h
  | infinite negative =>
    exact hsigned (c := 'I') (by decide) (by decide +kernel) (by decide +kernel) negative
  | nan negative signaling payload =>
    have hmem : 'N' ∈ (if signaling then "sNaN" else "NaN").toList := by
      cases signaling <;> decide
    exact hsigned (List.mem_append_left _ hmem) (by decide +kernel) (by decide +kernel) negative

theorem Binary64.read?_trim_text {x : Binary64} (h : x.isFinite = false) :
    Numeral.read? (Text.trim x.text.toList) = none := by
  rw [text, String.toList_ofList]
  refine Numeral.read?_trim_eq_none (c := 'n') ?_ (by decide +kernel) (by decide +kernel)
  cases x with
  | finite => cases h
  | infinite negative => cases negative <;> decide
  | nan => decide

end SelectBuilder
