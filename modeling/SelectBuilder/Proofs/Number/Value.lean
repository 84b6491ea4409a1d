import Mathlib.Data.Rat.Lemmas
import Mathlib.Tactic.FieldSimp
import Mathlib.Tactic.Ring
import SelectBuilder.Number.Decimal

/-!
# The numbers that numerals stand for

What is written for a number comes down to the grammar of numerals: digits, a point and digits
behind it, an exponent with its sign, the latter two being optional.  A text of this form is read as
a numeral, and the numeral stands for a rational number: the digits on either side of the point,
times a power of ten (`exists_read?`).  What stands in front of the exponent is a number by itself
(`mantissaValue`), wherever the point is in it.
-/

namespace SelectBuilder

/-! ## The grammar -/

theorem Text.isDecimalDigit_of_isDigit {c : Char} (h : c.isDigit) : isDecimalDigit c := by
  have hrange : (0x30, 0x39) ∈ decimalDigits.ranges := by decide
  simp only [Char.isDigit, Bool.and_eq_true, decide_eq_true_eq] at h
  simp only [isDecimalDigit, CharClass.has, List.any_eq_true, Bool.and_eq_true, decide_eq_true_eq]
  exact ⟨(0x30, 0x39), hrange, h.1, h.2⟩

theorem Text.digitValue?_of_isDigit {c : Char} (h : c.isDigit) :
    digitValue? c = some (c.toNat - 0x30) := by
  have hstart : decimalDigits.rangeStart? c = some 0x30 := by
    simp only [Char.isDigit, Bool.and_eq_true, decide_eq_true_eq] at h
    rw [CharClass.rangeStart?, decimalDigits, List.find?_cons_of_pos]
    · rfl
    · simp only [Bool.and_eq_true, decide_eq_true_eq]
      exact h
  have hle : c.toNat ≤ 0x39 := by
    simp only [Char.isDigit, Bool.and_eq_true, decide_eq_true_eq] at h
    exact h.2
  rw [digitValue?, hstart, Option.map_some, Nat.mod_eq_of_lt (by omega)]

namespace Numeral

def IsDigits (s : List Char) : Prop := ∀ c ∈ s, Text.isDecimalDigit c

/-- What may stand in front of an exponent. -/
inductive IsMantissa : List Char → Prop where
  | whole {s : List Char} (hne : s ≠ []) (hs : IsDigits s) : IsMantissa s
  | pointed {s t : List Char} (hne : s ≠ []) (hs : IsDigits s) (ht : IsDigits t) :
      IsMantissa (s ++ '.' :: t)

inductive IsExponent : List Char → Prop where
  | none : IsExponent []
  | some {mark sign : Char} {s : List Char} (hmark : mark = 'e' ∨ mark = 'E')
      (hsign : sign = '+' ∨ sign = '-') (hne : s ≠ []) (hs : IsDigits s) :
      IsExponent (mark :: sign :: s)

theorem IsDigits.append {s t : List Char} (hs : IsDigits s) (ht : IsDigits t) :
    IsDigits (s ++ t) :=
  List.forall_mem_append.mpr ⟨hs, ht⟩

theorem IsDigits.take {s : List Char} (hs : IsDigits s) (n : Nat) : IsDigits (s.take n) :=
  fun c hc ↦ hs c (List.mem_of_mem_take hc)

theorem IsDigits.drop {s : List Char} (hs : IsDigits s) (n : Nat) : IsDigits (s.drop n) :=
  fun c hc ↦ hs c (List.mem_of_mem_drop hc)

theorem IsDigits.cons {s : List Char} {c : Char} (hc : Text.isDecimalDigit c) (hs : IsDigits s) :
    IsDigits (c :: s) :=
  List.forall_mem_cons.mpr ⟨hc, hs⟩

theorem isDigits_toDigits (n : Nat) : IsDigits (Nat.toDigits 10 n) := fun _ hc ↦
  Text.isDecimalDigit_of_isDigit (Nat.isDigit_of_mem_toDigits (by decide) (by decide) hc)

theorem isDigits_zeros (n : Nat) : IsDigits (List.replicate n '0') := by
  intro c hc
  rw [List.eq_of_mem_replicate hc]
  decide

/-! ## Reading -/

/-- What is no digit ends a run of digits. -/
theorem splitDigits_append {s rest : List Char} (hs : IsDigits s)
    (hrest : ∀ c ∈ rest.head?, Text.isDecimalDigit c = false) :
    splitDigits (s ++ rest) = (s, rest) := by
  have hnone : rest.takeWhile Text.isDecimalDigit = [] ∧
      rest.dropWhile Text.isDecimalDigit = rest := by
    cases rest with
    | nil => exact ⟨rfl, rfl⟩
    | cons c rest =>
      have hc := hrest c rfl
      simp [hc]
  rw [splitDigits, List.takeWhile_append_of_pos hs, List.dropWhile_append_of_pos hs, hnone.1,
    hnone.2, List.append_nil]

theorem splitSign_of_isDecimalDigit {c : Char} (hc : Text.isDecimalDigit c) (s : List Char) :
    splitSign (c :: s) = (false, c :: s) := by
  unfold splitSign
  split
  next h =>
    cases h
    exact absurd hc (by decide)
  next h =>
    cases h
    exact absurd hc (by decide)
  next => rfl

theorem IsExponent.not_digit {s : List Char} (h : IsExponent s) :
    ∀ c ∈ s.head?, Text.isDecimalDigit c = false := by
  cases h with
  | none => rintro c ⟨⟩
  | some hmark =>
    rintro c ⟨⟩
    rcases hmark with rfl | rfl <;> decide

theorem IsExponent.isSome_exponent? {s : List Char} (h : IsExponent s) :
    (exponent? s).isSome := by
  cases h with
  | none => rfl
  | @some mark sign s hmark hsign hne hs =>
    have hmark : (decide (mark = 'e') || decide (mark = 'E')) = true := by simpa using hmark
    have hsign : splitSign (sign :: s) = (decide (sign = '-'), s) := by
      rcases hsign with rfl | rfl <;> rfl
    have hall : s.all Text.isDecimalDigit := List.all_eq_true.mpr hs
    rw [exponent?, if_pos hmark, hsign]
    simp [hne, hall]

theorem IsMantissa.exists_digit {s : List Char} (h : IsMantissa s) :
    ∃ c rest, s = c :: rest ∧ Text.isDecimalDigit c := by
  cases h with
  | whole hne hs =>
    obtain ⟨c, s, rfl⟩ := List.exists_cons_of_ne_nil hne
    exact ⟨c, s, rfl, hs c List.mem_cons_self⟩
  | pointed hne hs _ =>
    obtain ⟨c, s, rfl⟩ := List.exists_cons_of_ne_nil hne
    exact ⟨c, _, rfl, hs c List.mem_cons_self⟩

theorem splitSign_signed {s t : List Char} (hs : IsMantissa s) (negative : Bool) :
    splitSign (Decimal.signed negative (s ++ t)) = (negative, s ++ t) := by
  cases negative with
  | true => rfl
  | false =>
    obtain ⟨c, rest, rfl, hc⟩ := hs.exists_digit
    exact splitSign_of_isDecimalDigit hc _

theorem IsExponent.splitFraction_eq {s : List Char} (h : IsExponent s) :
    splitFraction s = ([], s) := by
  cases h with
  | none => rfl
  | some hmark => rcases hmark with rfl | rfl <;> rfl

/-! ## Runs of digits -/

theorem foldl_digits (s : List Char) (m : Nat) :
    s.foldl (fun n c ↦ 10 * n + (Text.digitValue? c).getD 0) m =
      m * 10 ^ s.length + digitsValue s := by
  induction s generalizing m with
  | nil => simp [digitsValue]
  | cons c s ih =>
    rw [digitsValue, List.foldl_cons, List.foldl_cons, ih, ih, List.length_cons]
    ring

theorem digitsValue_append (s t : List Char) :
    digitsValue (s ++ t) = digitsValue s * 10 ^ t.length + digitsValue t := by
  rw [digitsValue, List.foldl_append, foldl_digits t]
  rfl

theorem digitsValue_zeros (n : Nat) : digitsValue (List.replicate n '0') = 0 := by
  induction n with
  | zero => rfl
  | succ n ih =>
    have hzero : digitsValue ['0'] = 0 := by decide
    rw [List.replicate_succ', digitsValue_append, ih, hzero, Nat.zero_mul]

/-- The digits of a number have its value. -/
theorem digitsValue_toDigits (n : Nat) : digitsValue (Nat.toDigits 10 n) = n := by
  have hdigits : digitsValue (Nat.toDigits 10 n) = Nat.ofDigitChars 10 (Nat.toDigits 10 n) 0 := by
    refine List.foldl_ext _ _ 0 fun m c hc ↦ ?_
    have hdigit := Nat.isDigit_of_mem_toDigits (by decide) (by decide) hc
    rw [Text.digitValue?_of_isDigit hdigit]
    rfl
  rw [hdigits, Nat.ofDigitChars_ten_toDigits]

/-! ## Mantissas -/

/-- The number that stands in front of an exponent. -/
def mantissaValue (s : List Char) : ℚ :=
  let (whole, rest) := splitDigits s
  let (fraction, _) := splitFraction rest
  digitsValue whole + digitsValue fraction / 10 ^ fraction.length

/-- The number that a numeral stands for. -/
def value (n : Numeral) : ℚ :=
  (if n.negative then -1 else 1) *
    (digitsValue n.whole + digitsValue n.fraction / 10 ^ n.fraction.length) * 10 ^ n.exponent

section Mantissa

variable {s t : List Char}

theorem splitDigits_of_isDigits (hs : IsDigits s) : splitDigits s = (s, []) := by
  have hnil : ∀ c ∈ ([] : List Char).head?, Text.isDecimalDigit c = false := nofun
  simpa using splitDigits_append hs hnil

theorem mantissaValue_whole (hs : IsDigits s) : mantissaValue s = digitsValue s := by
  rw [mantissaValue, splitDigits_of_isDigits hs]
  simp [splitFraction, digitsValue]

theorem mantissaValue_pointed (hs : IsDigits s) (ht : IsDigits t) :
    mantissaValue (s ++ '.' :: t) = digitsValue (s ++ t) / 10 ^ t.length := by
  have hpoint : ∀ c ∈ ('.' :: t).head?, Text.isDecimalDigit c = false := by
    rintro c ⟨⟩
    decide
  have hfraction : splitFraction ('.' :: t) = (t, []) := splitDigits_of_isDigits ht
  rw [mantissaValue, splitDigits_append hs hpoint]
  simp only [hfraction, digitsValue_append]
  push_cast
  field_simp

/-- A text that numbers are written in is read as its mantissa times a power of ten. -/
theorem exists_read? (hs : IsMantissa s) (ht : IsExponent t) {e : Int} (he : exponent? t = some e)
    (negative : Bool) :
    ∃ n, read? (Decimal.signed negative (s ++ t)) = some n ∧
      n.value = (if negative then -1 else 1) * mantissaValue s * 10 ^ e := by
  rw [read?, splitSign_signed hs]
  cases hs with
  | whole hne hs =>
    refine ⟨⟨negative, s, [], e⟩, ?_, ?_⟩
    · simp [splitDigits_append hs ht.not_digit, ht.splitFraction_eq, hne, he]
    · simp [value, mantissaValue_whole hs, digitsValue]
  | @pointed s r hne hs hr =>
    have hpoint : ∀ c ∈ ('.' :: (r ++ t)).head?, Text.isDecimalDigit c = false := by
      rintro c ⟨⟩
      decide
    have hfraction : splitFraction ('.' :: (r ++ t)) = (r, t) := splitDigits_append hr ht.not_digit
    refine ⟨⟨negative, s, r, e⟩, ?_, ?_⟩
    · simp [splitDigits_append hs hpoint, hfraction, hne, he]
    · rw [mantissaValue_pointed hs hr, digitsValue_append, value]
      push_cast
      field_simp

/-- A text of the form that numbers are written in is read as a numeral. -/
theorem isSome_read? (hs : IsMantissa s) (ht : IsExponent t) (negative : Bool) :
    (read? (Decimal.signed negative (s ++ t))).isSome := by
  obtain ⟨e, he⟩ := Option.isSome_iff_exists.mp ht.isSome_exponent?
  obtain ⟨n, hread, -⟩ := exists_read? hs ht he negative
  rw [hread]
  rfl

end Mantissa

end Numeral

end SelectBuilder
