import SelectBuilder.Proofs.Literal.DisplayText
import SelectBuilder.Proofs.Number.Grammar

/-!
# Numbers without quotes

For a column of numbers a value is written without quotes just where its text is a numeral, and in
quotes otherwise.  Numerals have digits of any script, though, and those of SQL have digits of ASCII
only.  Whatever is a number by itself, or a date or a time, is written in ASCII (`isAscii_trimmed`),
so the two come apart for texts with digits of another script and for nothing else
(`number_text_iff`).

Integers and finite decimals are numbers by themselves.  They are written without quotes whether or
not the column is declared to be one of numbers, and what is written is read as the very number
(`exact_number_text`).
-/

namespace SelectBuilder

/-! ## Texts in ASCII -/

def IsAscii (s : List Char) : Prop := ∀ c ∈ s, c.toNat < 128

section Ascii

variable {s t : List Char} {c : Char}

@[simp] theorem isAscii_nil : IsAscii [] := List.forall_mem_nil _

@[simp] theorem isAscii_cons : IsAscii (c :: s) ↔ c.toNat < 128 ∧ IsAscii s := List.forall_mem_cons

@[simp] theorem isAscii_append : IsAscii (s ++ t) ↔ IsAscii s ∧ IsAscii t :=
  List.forall_mem_append

theorem IsAscii.subset (ht : IsAscii t) (h : s ⊆ t) : IsAscii s := fun c hc ↦ ht c (h hc)

theorem IsAscii.take (hs : IsAscii s) (n : Nat) : IsAscii (s.take n) :=
  hs.subset (List.take_subset n s)

theorem IsAscii.drop (hs : IsAscii s) (n : Nat) : IsAscii (s.drop n) :=
  hs.subset (List.drop_subset n s)

@[simp] theorem isAscii_toDigits (n : Nat) : IsAscii (Nat.toDigits 10 n) := fun _ hc ↦
  Numeral.toNat_lt_of_isDigit (Nat.isDigit_of_mem_toDigits (by decide) (by decide) hc)

@[simp] theorem isAscii_zeros (n : Nat) : IsAscii (List.replicate n '0') := by
  intro c hc
  rw [List.eq_of_mem_replicate hc]
  decide

theorem IsClockText.isAscii (hs : IsClockText s) : IsAscii s := by
  intro c hc
  have hclock := hs c hc
  rw [isClockChar, Bool.or_eq_true, decide_eq_true_eq] at hclock
  rcases hclock with hdigit | hmark
  · exact Numeral.toNat_lt_of_isDigit hdigit
  · have hmarks : ['-', ':', '.', '+', 'T', ' '].all fun c ↦ c.toNat < 128 := by decide
    simpa using List.all_eq_true.mp hmarks c hmark

theorem Text.trim_subset (s : List Char) : trim s ⊆ s := by
  intro c hc
  have hdrop := List.dropWhile_subset _ (List.mem_reverse.mp hc)
  exact List.dropWhile_subset _ (List.mem_reverse.mp hdrop)

end Ascii

/-! ## Numbers -/

theorem isAscii_int (n : Int) : IsAscii (toString n).toList := by
  cases n with
  | ofNat n =>
    change IsAscii n.repr.toList
    simp [Nat.toList_repr]
  | negSucc n =>
    change IsAscii ("-" ++ (n + 1).repr).toList
    simp [String.toList_append, Nat.toList_repr]

namespace Decimal

theorem isAscii_positional {digits : List Char} (h : IsAscii digits) (point : Int) :
    IsAscii (positional digits point) := by
  unfold positional
  split_ifs <;> simp [h, h.take, h.drop]

theorem isAscii_exponentMark (e : Int) : IsAscii (exponentMark e) := by
  unfold exponentMark
  split_ifs <;> simp

theorem isAscii_chars {d : Decimal} (h : d.isFinite) : IsAscii d.chars := by
  cases d with
  | finite negative coefficient exponent =>
    have hmagnitude : IsAscii (magnitudeText coefficient exponent) := by
      unfold magnitudeText
      dsimp only
      split_ifs <;> simp [isAscii_positional, isAscii_exponentMark]
    cases negative <;> simpa [chars, signed] using hmagnitude
  | infinite | nan => cases h

end Decimal

namespace Binary64

theorem isAscii_shortest (m : Nat) (q : Int) : IsAscii (shortest m q).1 := by
  intro c hc
  refine isAscii_toDigits (search (ratio m q) (interval m q) (ratio m q).places 17).1 c ?_
  rw [← List.mem_reverse]
  exact List.dropWhile_subset _ (List.mem_reverse.mp hc)

theorem isAscii_twoDigits (n : Nat) : IsAscii (twoDigits n) := by
  unfold twoDigits
  split_ifs <;> simp

theorem isAscii_layout {digits : List Char} (h : IsAscii digits) (point : Int) :
    IsAscii (layout digits point) := by
  unfold layout
  dsimp only
  split_ifs <;> simp [h, h.take, h.drop, isAscii_twoDigits, -List.drop_one]

theorem isAscii_chars (x : Binary64) : IsAscii x.chars := by
  cases x with
  | finite negative m q =>
    have hmagnitude : IsAscii (magnitudeText m q) := by
      unfold magnitudeText
      split_ifs
      · simp
      · exact isAscii_layout (isAscii_shortest m q) _
    cases negative <;> simpa [chars] using hmagnitude
  | infinite negative => cases negative <;> simp [chars]
  | nan => simp [chars]

end Binary64

/-! ## Values -/

namespace Value

/-- A collection is written with a mark that is in no numeral. -/
theorem exists_mark {v : Value} (h : v.items?.isSome) (htext : v.text? = none) :
    ∃ c ∈ v.display.toList, Text.isBlank c = false ∧ Numeral.isPart c = false := by
  have hmarks : ['[', '\x7b', '('].all fun c ↦ !Text.isBlank c && !Numeral.isPart c := by
    decide +kernel
  have hmark (c : Char) (hc : c ∈ ['[', '\x7b', '(']) :
      Text.isBlank c = false ∧ Numeral.isPart c = false := by
    simpa using List.all_eq_true.mp hmarks c hc
  cases v with
  | list vs => exact ⟨'[', by simp [display, full], hmark _ (by decide)⟩
  | record fs => exact ⟨'\x7b', by simp [display, full], hmark _ (by decide)⟩
  | set vs =>
    cases vs with
    | nil => exact ⟨'(', by decide, hmark _ (by decide)⟩
    | cons v vs => exact ⟨'\x7b', by simp [display, full], hmark _ (by decide)⟩
  | text => cases htext
  | _ => cases h

/-- A value that is no text is written in ASCII, if it is written as a numeral. -/
theorem isAscii_trimmed {v : Value} (htext : v.text? = none)
    (hnumeral : Numeral.IsNumeral Text.isDecimalDigit v.trimmed) : IsAscii v.trimmed := by
  rw [← Numeral.isSome_read?_iff] at hnumeral
  have hsome (hnone : Numeral.read? v.trimmed = none) : IsAscii v.trimmed := by
    rw [hnone] at hnumeral
    cases hnumeral
  have hdisplay (h : IsAscii v.display.toList) : IsAscii v.trimmed := h.subset (Text.trim_subset _)
  cases v with
  | null => exact hdisplay (by simp [display, full])
  | bool b => exact hdisplay (by cases b <;> simp [display, full])
  | int n => exact hdisplay (isAscii_int n)
  | text => cases htext
  | float x =>
    have hchars : x.text.toList = x.chars := String.toList_ofList
    exact hdisplay (hchars ▸ x.isAscii_chars)
  | decimal d =>
    by_cases hd : d.isFinite
    · have hchars : d.text.toList = d.chars := String.toList_ofList
      exact hdisplay (hchars ▸ Decimal.isAscii_chars hd)
    · exact hsome (Decimal.read?_trim_text (by simpa using hd))
  | date | datetime | time => exact hdisplay (isClockText_display rfl).isAscii
  | list | record | set =>
    obtain ⟨c, hc, hblank, hpart⟩ := exists_mark rfl htext
    exact hsome (Numeral.read?_trim_eq_none hc hblank hpart)

/-- A value is a text of a number with digits of a script that SQL does not know. -/
def HasForeignDigits (v : Value) : Prop :=
  v.text?.isSome ∧ Numeral.IsNumeral Text.isDecimalDigit v.trimmed ∧ ¬ IsAscii v.trimmed

theorem isNumeral_isDigit_trimmed_iff {v : Value}
    (hnumeral : Numeral.IsNumeral Text.isDecimalDigit v.trimmed) :
    Numeral.IsNumeral Char.isDigit v.trimmed ↔ ¬ v.HasForeignDigits := by
  rw [Numeral.isNumeral_isDigit_iff]
  constructor
  · rintro ⟨-, hascii⟩ ⟨-, -, hforeign⟩
    exact hforeign hascii
  · intro hforeign
    refine ⟨hnumeral, ?_⟩
    by_contra hascii
    cases htext : v.text? with
    | none => exact hascii (isAscii_trimmed htext hnumeral)
    | some s => exact hforeign ⟨by rw [htext]; rfl, hnumeral, hascii⟩

end Value

/-! ## Literals -/

namespace Literal

variable {d : Dialect} {l : Literal} {s : String}

theorem text_of_lexeme_word (h : l.lexeme d = .word s) : l.text d = s := by
  cases l with
  | null | boolean | number => exact Lexeme.word.inj h
  | quoted => cases h

theorem text_of_lexeme_quoted (h : l.lexeme d = .quoted s) : l.text d = d.quoteString s := by
  cases l with
  | null | boolean | number => cases h
  | quoted t => rw [text, Lexeme.quoted.inj h]

theorem ofTyped_of_ofValue {type : Value} {family : Option Family}
    (htype : Family.ofValue type = .ok family) (v : Value) :
    ofTyped type v = .ok (ofValue family v) := by
  unfold ofTyped
  rw [htype]
  cases v <;> rfl

/-- A value other than null is written without quotes just where its text is a numeral. -/
theorem text_numeric (d : Dialect) {v : Value} (hnull : v ≠ .null) (hprecise : v.IsPrecise) :
    (Numeral.IsNumeral Text.isDecimalDigit v.trimmed ∧
        (text d (ofValue (some .numeric) v)).toList = v.trimmed) ∨
      ¬ Numeral.IsNumeral Text.isDecimalDigit v.trimmed ∧
        text d (ofValue (some .numeric) v) = d.quoteString (v.quotable .numeric) := by
  have hstands := (represents_ofValue d (some .numeric) v).isLiteralFor.stands hnull
  rw [Option.getD_some] at hstands
  generalize hlexeme : (ofValue (some .numeric) v).lexeme d = lexeme at hstands
  cases hstands with
  | number _ _ hnumeral =>
    rw [text_of_lexeme_word hlexeme, String.toList_ofList]
    exact .inl ⟨Numeral.isSome_read?_iff.mp (hnumeral hprecise), rfl⟩
  | quoted _ hnumeral =>
    refine .inr ⟨?_, text_of_lexeme_quoted hlexeme⟩
    rw [← Numeral.isSome_read?_iff, hnumeral rfl]
    exact Bool.false_ne_true

end Literal

/-- A numeral is neither the keyword NULL nor a quoted text. -/
theorem Numeral.IsNumeral.ne_null_and_quoted {s : String}
    (h : IsNumeral Text.isDecimalDigit s.toList) :
    s ≠ "NULL" ∧ ∀ d : Dialect, ∀ t, s ≠ d.quoteString t := by
  have hparts := (isNumberText_of_isSome_read? (isSome_read?_iff.mpr h)).2
  have hletter : isPart 'N' = false := by decide +kernel
  have hquote : isPart '\x27' = false := by decide +kernel
  constructor
  · rintro rfl
    have hpart := hparts 'N' (by decide)
    simp [hletter] at hpart
  · rintro d t rfl
    have hpart := hparts '\x27' (by simp [Dialect.quoteString, Text.enclosed])
    simp [hquote] at hpart

/-- In a column of numbers, every value is written as NULL, as a quoted text, or as a number of SQL,
which is the text of the value without the blanks around it; only a text that is a number in another
script is written without quotes as well.  All binary numbers that can be read are precise
(`Binary64.isPrecise_ofText?`). -/
theorem number_text_iff (d : Dialect) {type : Value}
    (htype : Family.ofValue type = .ok (some .numeric)) (v : Value) (hprecise : v.IsPrecise) :
    ∃ s, (Literal.ofTyped type v).map (Literal.text d) = .ok s ∧
      (v = .null → s = "NULL") ∧
      (v ≠ .null → Numeral.IsNumeral Text.isDecimalDigit v.trimmed → s.toList = v.trimmed) ∧
      (v ≠ .null → ¬ Numeral.IsNumeral Text.isDecimalDigit v.trimmed →
        s = d.quoteString (v.quotable .numeric)) ∧
      (s = "NULL" ∨ s = d.quoteString (v.quotable .numeric) ∨
          Numeral.IsNumeral Char.isDigit s.toList ↔ ¬ v.HasForeignDigits) := by
  rw [Literal.ofTyped_of_ofValue htype]
  refine ⟨_, rfl, ?_⟩
  by_cases hnull : v = .null
  · subst hnull
    refine ⟨fun _ ↦ rfl, fun h ↦ absurd rfl h, fun h ↦ absurd rfl h, ?_⟩
    exact iff_of_true (.inl rfl) fun h ↦ nomatch h.1
  · rcases Literal.text_numeric d hnull hprecise with ⟨hnumeral, htext⟩ | ⟨hnumeral, htext⟩
    · obtain ⟨hword, hquoted⟩ := Numeral.IsNumeral.ne_null_and_quoted (htext.symm ▸ hnumeral)
      refine ⟨fun h ↦ absurd h hnull, fun _ _ ↦ htext, fun _ h ↦ absurd hnumeral h, ?_⟩
      rw [or_iff_right hword, or_iff_right (hquoted d _), htext]
      exact Value.isNumeral_isDigit_trimmed_iff hnumeral
    · refine ⟨fun h ↦ absurd h hnull, fun _ h ↦ absurd h hnumeral, fun _ _ ↦ htext, ?_⟩
      exact iff_of_true (.inr (.inl htext)) fun h ↦ hnumeral h.2.1

/-- A number with blanks around it, without a digit in front of its point. -/
def paddedNumber : Value := .text " +.5E-3\t"

theorem number_text_of_paddedNumber :
    Family.ofValue (.text "numeric(8, 2)") = .ok (some .numeric) ∧ paddedNumber.IsPrecise ∧
      ∃ s,
        (Literal.ofTyped (.text "numeric(8, 2)") paddedNumber).map (Literal.text .mysql) = .ok s ∧
          s.toList = "+.5E-3".toList ∧ Numeral.IsNumeral Char.isDigit s.toList := by
  have htype : Family.ofValue (.text "numeric(8, 2)") = .ok (some .numeric) := by decide +kernel
  obtain ⟨s, hs, -, htext, -, hiff⟩ := number_text_iff .mysql htype paddedNumber trivial
  have htrimmed : paddedNumber.trimmed = "+.5E-3".toList := by decide +kernel
  have hnumeral : Numeral.IsNumeral Text.isDecimalDigit paddedNumber.trimmed :=
    Numeral.isSome_read?_iff.mp (by decide +kernel)
  have hchars := htext nofun hnumeral
  refine ⟨htype, trivial, s, hs, hchars.trans htrimmed, ?_⟩
  obtain ⟨hword, hquoted⟩ := Numeral.IsNumeral.ne_null_and_quoted (hchars.symm ▸ hnumeral)
  have hcases := hiff.mpr fun hforeign ↦ hforeign.2.2 (by
    rw [htrimmed]
    simp)
  exact (hcases.resolve_left hword).resolve_left (hquoted _ _)

/-- The digit three of the Arabic script stands in the statement as it is. -/
theorem foreign_digit_unquoted :
    Family.ofValue (.text "integer") = .ok (some .numeric) ∧
      (Literal.ofTyped (.text "integer") (.text "\u0663")).map (Literal.text .postgres) =
        .ok "\u0663" ∧
      "\u0663" ≠ "NULL" ∧ (∀ t, "\u0663" ≠ Dialect.postgres.quoteString t) ∧
      ¬ Numeral.IsNumeral Char.isDigit "\u0663".toList := by
  have hnumeral : Numeral.IsNumeral Text.isDecimalDigit "\u0663".toList :=
    Numeral.isSome_read?_iff.mp (by decide +kernel)
  obtain ⟨hword, hquoted⟩ := hnumeral.ne_null_and_quoted
  refine ⟨by decide +kernel, by decide +kernel, hword, hquoted _, fun h ↦ ?_⟩
  have hascii := (Numeral.isNumeral_isDigit_iff.mp h).2 '\u0663' (by decide)
  revert hascii
  decide

/-! ## Exact numbers -/

/-- The number that a value is, if it is an integer or a finite decimal. -/
def Value.exact? : Value → Option ℚ
  | .int k => some k
  | .decimal d => d.value?
  | _ => none

/-- What is written is a number of SQL, and it stands for a given number. -/
structure WritesNumber (s : String) (x : ℚ) : Prop where
  numeral : Numeral.IsNumeral Char.isDigit s.toList
  exact : ∃ n, Numeral.read? s.toList = some n ∧ n.value = x

theorem writesNumber_of_isAscii {s : String} {x : ℚ} (hascii : IsAscii s.toList)
    (hread : ∃ n, Numeral.read? s.toList = some n ∧ n.value = x) : WritesNumber s x where
  numeral := by
    obtain ⟨n, hn, -⟩ := hread
    refine Numeral.isNumeral_isDigit_iff.mpr ⟨?_, hascii⟩
    rw [← Numeral.isSome_read?_iff, hn]
    rfl
  exact := hread

theorem writesNumber_int (k : Int) : WritesNumber (toString k) k :=
  writesNumber_of_isAscii (isAscii_int k) (Numeral.exists_read?_int k)

theorem writesNumber_decimal {d : Decimal} {x : ℚ} (h : d.value? = some x) :
    d.isFinite ∧ WritesNumber d.text x := by
  have hfinite : d.isFinite := by
    cases d with
    | finite => rfl
    | infinite | nan => cases h
  have hchars : d.text.toList = d.chars := String.toList_ofList
  refine ⟨hfinite, writesNumber_of_isAscii ?_ ?_⟩
  · rw [hchars]
    exact Decimal.isAscii_chars hfinite
  · rw [hchars]
    exact Decimal.exists_read?_chars h

/-- Whatever belongs to the numbers by itself is written as one, if it is not declared to be
something else. -/
theorem Literal.ofValue_of_familyOf_numeric {v : Value} (hv : familyOf v = .numeric)
    {family : Option Family} (hfamily : ∀ f ∈ family, f = .numeric) :
    ofValue family v = ofNumber v := by
  have hnumeric : family.getD (familyOf v) = .numeric := by
    cases family with
    | none => exact hv
    | some f => exact hfamily f rfl
  unfold ofValue
  split
  next => cases hv
  next => rw [hnumeric, ofFamily]

/-- An integer or a finite decimal is written as a number of SQL that stands for it, in every
dialect, and for a column of numbers just as where no type is declared. -/
theorem exact_number_text (d : Dialect) {v : Value} {x : ℚ} (h : v.exact? = some x)
    {family : Option Family} (hfamily : ∀ f ∈ family, f = .numeric) :
    WritesNumber (Literal.text d (.ofValue family v)) x ∧
      ∀ type, Family.ofValue type = .ok family →
        (Literal.ofTyped type v).map (Literal.text d) =
          .ok (Literal.text d (.ofValue family v)) := by
  refine ⟨?_, fun type htype ↦ congrArg _ (Literal.ofTyped_of_ofValue htype v)⟩
  cases v with
  | int k =>
    rw [Literal.ofValue_of_familyOf_numeric rfl hfamily, ← Option.some.inj h]
    exact writesNumber_int k
  | decimal e =>
    obtain ⟨hfinite, htext⟩ := writesNumber_decimal h
    rw [Literal.ofValue_of_familyOf_numeric rfl hfamily, Literal.ofNumber, if_pos hfinite]
    exact htext
  | _ => cases h

/-- A negative number far below the places that are written positionally. -/
def tinyNumber : Value := .decimal (.finite true 125 (-40))

theorem exact_number_text_tinyNumber :
    tinyNumber.exact? = some (-125 / 10 ^ 40) ∧
      (∀ f ∈ (none : Option Family), f = .numeric) ∧
      Literal.text .sqlite (.ofValue none tinyNumber) = "-1.25E-38" ∧
      WritesNumber "-1.25E-38" (-125 / 10 ^ 40) ∧
      (Literal.ofTyped .null tinyNumber).map (Literal.text .sqlite) = .ok "-1.25E-38" := by
  have hexact : tinyNumber.exact? = some (-125 / 10 ^ 40) := by
    refine congrArg some ?_
    norm_num
  have htext : Literal.text .sqlite (.ofValue none tinyNumber) = "-1.25E-38" := by
    decide +kernel
  have hundeclared : ∀ f ∈ (none : Option Family), f = .numeric := nofun
  obtain ⟨hnumber, htyped⟩ := exact_number_text .sqlite hexact hundeclared
  rw [htext] at hnumber htyped
  exact ⟨hexact, hundeclared, htext, hnumber, htyped .null (by decide +kernel)⟩

end SelectBuilder
