import SelectBuilder.Proofs.Number.Shortest
import SelectBuilder.Proofs.Number.Value

/-!
# Numbers are written as numerals

Integers, decimals and binary numbers are each laid out in a way of their own, and it takes no more
than to find the form of numerals in every layout to see that they are read as numerals.  Integers
and decimals are laid out exactly: zeros fill up on the left or on the right, the point stands
anywhere among the digits, and an exponent makes up for it, but what is read back is the number
itself (`Numeral.exists_read?_int`, `Decimal.exists_read?_chars`).
-/

namespace SelectBuilder

namespace Numeral

/-! ## Integers -/

/-- An integer is read back as a numeral of its value. -/
theorem exists_read?_int (k : Int) :
    ∃ n, read? (toString k).toList = some n ∧ n.value = k := by
  have hsigned (m : Nat) (negative : Bool) :
      ∃ n, read? (Decimal.signed negative (Nat.toDigits 10 m)) = some n ∧
        n.value = (if negative then -1 else 1) * m := by
    have hdigits := isDigits_toDigits m
    obtain ⟨n, hread, hvalue⟩ :=
      exists_read? (.whole Nat.toDigits_ne_nil hdigits) .none rfl negative
    rw [List.append_nil] at hread
    refine ⟨n, hread, ?_⟩
    rw [hvalue, mantissaValue_whole hdigits, digitsValue_toDigits, zpow_zero, mul_one]
  cases k with
  | ofNat m =>
    obtain ⟨n, hread, hvalue⟩ := hsigned m false
    rw [← Nat.toList_repr] at hread
    refine ⟨n, hread, ?_⟩
    rw [hvalue]
    simp
  | negSucc m =>
    obtain ⟨n, hread, hvalue⟩ := hsigned (m + 1) true
    refine ⟨n, ?_, ?_⟩
    · change read? ("-" ++ (m + 1).repr).toList = some n
      rw [String.toList_append, Nat.toList_repr]
      exact hread
    · rw [hvalue]
      push_cast
      simp

theorem isSome_read?_int (k : Int) : (read? (toString k).toList).isSome := by
  obtain ⟨n, hread, -⟩ := exists_read?_int k
  rw [hread]
  rfl

/-! ## Layouts -/

/-- Digits with a point among them. -/
theorem isMantissa_take_drop {digits : List Char} (hne : digits ≠ []) (hdigits : IsDigits digits)
    {n : Nat} (hn : 0 < n) : IsMantissa (digits.take n ++ '.' :: digits.drop n) := by
  refine .pointed ?_ (hdigits.take n) (hdigits.drop n)
  rw [ne_eq, List.take_eq_nil_iff]
  rintro (h | h)
  · omega
  · exact hne h

/-- Digits with zeros in front, behind the point. -/
theorem isMantissa_zero_point {digits : List Char} (hdigits : IsDigits digits) (n : Nat) :
    IsMantissa ('0' :: '.' :: List.replicate n '0' ++ digits) :=
  .pointed (s := ['0']) (List.cons_ne_nil _ _) (isDigits_zeros 1)
    ((isDigits_zeros n).append hdigits)

end Numeral

open Numeral

/-! ## Decimals -/

namespace Decimal

/-- The value of a decimal that has one. -/
def value? : Decimal → Option ℚ
  | .finite negative coefficient exponent =>
    some ((if negative then -1 else 1) * coefficient * 10 ^ exponent)
  | _ => none

theorem isMantissa_positional {digits : List Char} (hne : digits ≠ []) (hdigits : IsDigits digits)
    (point : Int) : IsMantissa (positional digits point) := by
  unfold positional
  split
  next => exact isMantissa_zero_point hdigits _
  next hpoint =>
    split
    next =>
      exact .whole (List.append_ne_nil_of_left_ne_nil hne _) (hdigits.append (isDigits_zeros _))
    next => exact isMantissa_take_drop hne hdigits (by omega)

/-- Wherever the point stands, a layout of digits comes to the digits times a power of ten. -/
theorem mantissaValue_positional {digits : List Char} (hdigits : IsDigits digits) (point : Int) :
    mantissaValue (positional digits point) =
      digitsValue digits * 10 ^ (point - digits.length) := by
  unfold positional
  split
  next hpoint =>
    have hzeros := isDigits_zeros (-point).toNat
    have hvalue : digitsValue (['0'] ++ (List.replicate (-point).toNat '0' ++ digits)) =
        digitsValue digits := by
      rw [← List.append_assoc, ← List.replicate_one, List.replicate_append_replicate,
        digitsValue_append, digitsValue_zeros, Nat.zero_mul, Nat.zero_add]
    have hexponent : point - digits.length = -(((-point).toNat + digits.length : Nat) : Int) := by
      omega
    have hmantissa := mantissaValue_pointed (isDigits_zeros 1) (hzeros.append hdigits)
    rw [List.replicate_one, hvalue, List.length_append, List.length_replicate] at hmantissa
    rw [hexponent, zpow_neg, zpow_natCast, ← div_eq_mul_inv]
    exact hmantissa
  next hpoint =>
    split
    next hlength =>
      have hexponent : point - digits.length = ((point.toNat - digits.length : Nat) : Int) := by
        omega
      rw [mantissaValue_whole (hdigits.append (isDigits_zeros _)), digitsValue_append,
        digitsValue_zeros, List.length_replicate, hexponent, zpow_natCast]
      push_cast
      rw [add_zero]
    next hlength =>
      have hexponent : point - digits.length = -((digits.length - point.toNat : Nat) : Int) := by
        omega
      rw [mantissaValue_pointed (hdigits.take _) (hdigits.drop _), List.take_append_drop,
        List.length_drop, hexponent, zpow_neg, zpow_natCast, div_eq_mul_inv]

theorem isExponent_exponentMark (e : Int) : IsExponent (exponentMark e) := by
  refine .some (.inr rfl) ?_ Nat.toDigits_ne_nil (isDigits_toDigits _)
  split
  next => exact .inr rfl
  next => exact .inl rfl

/-- The mark of an exponent is read as the exponent. -/
theorem exponent?_exponentMark (e : Int) : exponent? (exponentMark e) = some e := by
  have hne : Nat.toDigits 10 e.natAbs ≠ [] := Nat.toDigits_ne_nil
  have hall : (Nat.toDigits 10 e.natAbs).all Text.isDecimalDigit :=
    List.all_eq_true.mpr (isDigits_toDigits _)
  rw [exponentMark, exponent?, if_pos (by decide)]
  split_ifs with hnegative
  all_goals
    simp only [splitSign, hne, hall, digitsValue_toDigits, ne_eq, not_false_eq_true, decide_true,
      Bool.and_self, if_true, Option.some.injEq, Bool.false_eq_true, if_false]
    omega

/-- A finite decimal is read back as a numeral of its value. -/
theorem exists_read?_chars {d : Decimal} {x : ℚ} (h : d.value? = some x) :
    ∃ n, read? d.chars = some n ∧ n.value = x := by
  cases d with
  | finite negative coefficient exponent =>
    have hdigits := isDigits_toDigits coefficient
    have hne : Nat.toDigits 10 coefficient ≠ [] := Nat.toDigits_ne_nil
    rw [← Option.some.inj h, chars, magnitudeText]
    generalize hlength : (Nat.toDigits 10 coefficient).length = length
    split
    next =>
      obtain ⟨n, hread, hvalue⟩ := exists_read?
        (isMantissa_positional hne hdigits (exponent + length)) .none rfl negative
      rw [List.append_nil] at hread
      refine ⟨n, hread, ?_⟩
      rw [hvalue, mantissaValue_positional hdigits, digitsValue_toDigits, hlength,
        add_sub_cancel_right, zpow_zero, mul_one, mul_assoc]
    next =>
      obtain ⟨n, hread, hvalue⟩ := exists_read? (isMantissa_positional hne hdigits 1)
        (isExponent_exponentMark _) (exponent?_exponentMark (exponent + length - 1)) negative
      refine ⟨n, hread, ?_⟩
      have hexponent : 1 - (length : Int) + (exponent + length - 1) = exponent := by ring
      rw [hvalue, mantissaValue_positional hdigits, digitsValue_toDigits, hlength, mul_assoc,
        mul_assoc, ← zpow_add₀ (by norm_num), hexponent, mul_assoc]
  | infinite | nan => cases h

theorem isSome_read?_chars {d : Decimal} (h : d.isFinite) : (read? d.chars).isSome := by
  cases d with
  | finite negative coefficient exponent =>
    have hvalue : (finite negative coefficient exponent).value? = some _ := rfl
    obtain ⟨n, hread, -⟩ := exists_read?_chars hvalue
    rw [hread]
    rfl
  | infinite | nan => cases h

end Decimal

/-! ## Binary numbers -/

namespace Binary64

/-- Whether the significand has no more than 53 bits, which holds of all numbers of this format. -/
def IsPrecise : Binary64 → Prop
  | .finite _ m _ => m < Nat.pow 2 53
  | _ => True

theorem isDigits_shortest (m : Nat) (q : Int) : IsDigits (shortest m q).1 := by
  intro c hc
  have hmem : c ∈ Nat.toDigits 10 (search (ratio m q) (interval m q) (ratio m q).places 17).1 := by
    rw [← List.mem_reverse]
    exact List.dropWhile_subset _ (List.mem_reverse.mp hc)
  exact isDigits_toDigits _ c hmem

theorem isDigits_twoDigits (n : Nat) : IsDigits (twoDigits n) := by
  unfold twoDigits
  split
  · exact .cons (by decide) (isDigits_toDigits n)
  · exact isDigits_toDigits n

theorem twoDigits_ne_nil (n : Nat) : twoDigits n ≠ [] := by
  unfold twoDigits
  split
  · exact List.cons_ne_nil _ _
  · exact Nat.toDigits_ne_nil

/-- Every layout of some digits is a mantissa with an exponent. -/
theorem exists_layout_eq {digits : List Char} (hne : digits ≠ []) (hdigits : IsDigits digits)
    (point : Int) : ∃ s t, layout digits point = s ++ t ∧ IsMantissa s ∧ IsExponent t := by
  unfold layout
  split
  next => exact ⟨_, [], (List.append_nil _).symm, isMantissa_zero_point hdigits _, .none⟩
  split
  next hpoint =>
    split
    next =>
      refine ⟨_, [], (List.append_nil _).symm, ?_, .none⟩
      exact .pointed (List.append_ne_nil_of_left_ne_nil hne _)
        (hdigits.append (isDigits_zeros _)) (isDigits_zeros 1)
    next =>
      exact ⟨_, [], (List.append_nil _).symm, isMantissa_take_drop hne hdigits (by omega), .none⟩
  next =>
    refine ⟨_, _, rfl, ?_, .some (.inl rfl) ?_ (twoDigits_ne_nil _) (isDigits_twoDigits _)⟩
    · split
      next => exact .whole hne hdigits
      next => exact isMantissa_take_drop hne hdigits (by decide)
    · split
      next => exact .inr rfl
      next => exact .inl rfl

theorem isSome_read?_chars {x : Binary64} (h : x.isFinite) (hprecise : x.IsPrecise) :
    (read? x.chars).isSome := by
  cases x with
  | finite negative m q =>
    have hwritten : ∃ s t, magnitudeText m q = s ++ t ∧ IsMantissa s ∧ IsExponent t := by
      unfold magnitudeText
      split
      next =>
        exact ⟨['0', '.', '0'], [], rfl, isMantissa_zero_point (isDigits_zeros 1) 0, .none⟩
      next hm =>
        exact exists_layout_eq (shortest_ne_nil (Nat.pos_of_ne_zero hm) hprecise)
          (isDigits_shortest m q) _
    obtain ⟨s, t, htext, hs, ht⟩ := hwritten
    have hchars : chars (.finite negative m q) = Decimal.signed negative (s ++ t) := by
      rw [chars, htext]
      cases negative <;> rfl
    rw [hchars]
    exact isSome_read? hs ht negative
  | infinite | nan => cases h

end Binary64

end SelectBuilder
