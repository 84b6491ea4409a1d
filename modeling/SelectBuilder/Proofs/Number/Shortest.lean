import Mathlib.Data.List.TakeWhile
import Mathlib.Tactic.Ring
import SelectBuilder.Number.Shortest

/-!
# Seventeen digits suffice

The digits of a binary number are searched for one place after the other, and the search gives up
after seventeen of them.  It need not: numbers with so many digits lie closer to each other than the
ends of the interval in which all numbers read back as the given one (`exists_candidate?`).  What is
found is never zero, since zero is outside of the interval, and so there are digits to be written.
-/

namespace SelectBuilder.Binary64

/-! ## Places -/

theorem pow_ten_pos (n : Nat) : 0 < Nat.pow 10 n := Nat.pow_pos (by decide)

theorem pow_two_pos (n : Nat) : 0 < Nat.pow 2 n := Nat.pow_pos (by decide)

theorem lt_pow_length_toDigits (n : Nat) : n < Nat.pow 10 (Nat.toDigits 10 n).length :=
  (Nat.length_toDigits_le_iff (by decide) Nat.length_toDigits_pos).mp (Nat.le_refl _)

theorem pow_length_toDigits_le {n : Nat} (hn : 0 < n) :
    Nat.pow 10 ((Nat.toDigits 10 n).length - 1) ≤ n := by
  have hpos : 0 < (Nat.toDigits 10 n).length := Nat.length_toDigits_pos
  rcases Nat.eq_or_lt_of_le hpos with h | h
  · rw [← h]
    exact hn
  · by_contra hlt
    have hlength := (Nat.length_toDigits_le_iff (by decide) (Nat.sub_pos_of_lt h)).mpr
      (Nat.lt_of_not_le hlt)
    omega

/-- The leading digit of a ratio is not zero. -/
theorem Ratio.pow_places_le {r : Ratio} (hnum : 0 < r.num) (hden : 0 < r.den) :
    r.den * Nat.pow 10 (r.places - 1).toNat ≤ r.num * Nat.pow 10 (1 - r.places).toNat := by
  unfold places
  split
  case isTrue hle =>
    have hpow := pow_length_toDigits_le (Nat.div_pos hle hden)
    have hpos : 0 < (Nat.toDigits 10 (r.num / r.den)).length := Nat.length_toDigits_pos
    generalize (Nat.toDigits 10 (r.num / r.den)).length = l at hpow hpos
    have hleft : ((l : Int) - 1).toNat = l - 1 := by omega
    have hright : (1 - (l : Int)).toNat = 0 := by omega
    rw [hleft, hright]
    calc r.den * Nat.pow 10 (l - 1) ≤ r.den * (r.num / r.den) := Nat.mul_le_mul_left _ hpow
      _ ≤ r.num := Nat.mul_div_le _ _
      _ = r.num * Nat.pow 10 0 := (Nat.mul_one _).symm
  case isFalse =>
    have hpow := (Nat.div_lt_iff_lt_mul hnum).mp (lt_pow_length_toDigits (r.den / r.num))
    have hpos : 0 < (Nat.toDigits 10 (r.den / r.num)).length := Nat.length_toDigits_pos
    generalize (Nat.toDigits 10 (r.den / r.num)).length = l at hpow hpos
    dsimp only
    split
    case isTrue =>
      have hleft : (-((l - 1 : Nat) : Int) - 1).toNat = 0 := by omega
      have hright : (1 - -((l - 1 : Nat) : Int)).toNat = l := by omega
      rw [hleft, hright, Nat.mul_comm r.num]
      exact (Nat.mul_one _).trans_le (Nat.le_of_lt hpow)
    case isFalse hle =>
      have hleft : (1 - ((l - 1 : Nat) : Int) - 1).toNat = 0 := by omega
      have hright : (1 - (1 - ((l - 1 : Nat) : Int))).toNat = l - 1 := by omega
      rw [hleft, hright]
      exact (Nat.mul_one _).trans_le (Nat.le_of_not_lt hle)

/-! ## Candidates -/

/-- The multiple of `10 ^ e` just below a ratio. -/
def Ratio.below (r : Ratio) (e : Int) : Nat :=
  r.num * Nat.pow 10 (-e).toNat / (r.den * Nat.pow 10 e.toNat)

theorem candidate?_eq_none {r : Ratio} {i : Interval} {e : Int} (h : candidate? r i e = none) :
    i.has (r.below e) e = false ∧ i.has (r.below e + 1) e = false := by
  unfold candidate? at h
  dsimp only at h
  split at h
  case h_1 hbelow habove => exact ⟨hbelow, habove⟩
  case h_2 => cases h
  case h_3 => cases h
  case h_4 => split at h <;> cases h

theorem has_of_candidate? {r : Ratio} {i : Interval} {e : Int} {n : Nat}
    (h : candidate? r i e = some n) : i.has n e := by
  unfold candidate? at h
  dsimp only at h
  split at h
  case h_1 => cases h
  case h_2 hbelow _ =>
    cases h
    exact hbelow
  case h_3 _ habove =>
    cases h
    exact habove
  case h_4 hbelow habove =>
    split at h <;> cases h
    · exact hbelow
    · exact habove
    · split
      · exact hbelow
      · exact habove

/-! ## The interval -/

/-- The unit in which the significand counts, in a measure that makes it an integer. -/
def numberUnit (q e : Int) : Nat := Nat.pow 2 q.toNat * Nat.pow 10 (-e).toNat

/-- The unit in which digits that are multiples of `10 ^ e` count, in the same measure. -/
def digitUnit (q e : Int) : Nat := Nat.pow 2 (-q).toNat * Nat.pow 10 e.toNat

theorem numberUnit_pos (q e : Int) : 0 < numberUnit q e :=
  Nat.mul_pos (pow_two_pos _) (pow_ten_pos _)

theorem digitUnit_pos (q e : Int) : 0 < digitUnit q e :=
  Nat.mul_pos (pow_two_pos _) (pow_ten_pos _)

section Interval

variable {m : Nat} {q e : Int}

theorem below_eq : (ratio m q).below e = m * numberUnit q e / digitUnit q e := by
  rw [Ratio.below, ratio, Nat.mul_assoc]
  rfl

/-- The lower end of the interval, in quarters of the unit. -/
theorem exists_low_eq (hm : 0 < m) (hprecision : m < Nat.pow 2 53) :
    ∃ low, (interval m q).low = low * Nat.pow 2 q.toNat ∧
      (low + 2 = 4 * m ∧ m < 2 ^ 53 ∨ low + 1 = 4 * m ∧ m = 2 ^ 52) := by
  refine ⟨_, rfl, ?_⟩
  split
  next h => exact .inr ⟨by omega, h.1⟩
  next => exact .inl ⟨by omega, hprecision⟩

theorem has_of_between {n low : Nat} (hends : (interval m q).low = low * Nat.pow 2 q.toNat)
    (hlow : low * numberUnit q e < 4 * (n * digitUnit q e))
    (hhigh : 4 * (n * digitUnit q e) < (4 * m + 2) * numberUnit q e) : (interval m q).has n e := by
  have hvalue : n * Nat.pow 10 e.toNat * (interval m q).den = 4 * (n * digitUnit q e) := by
    simp only [interval, digitUnit]
    ring
  have hlow : (interval m q).low * Nat.pow 10 (-e).toNat < 4 * (n * digitUnit q e) := by
    rwa [hends, Nat.mul_assoc]
  have hhigh : 4 * (n * digitUnit q e) < (interval m q).high * Nat.pow 10 (-e).toNat := by
    rwa [interval, Nat.mul_assoc]
  rw [← hvalue] at hlow hhigh
  exact Bool.or_eq_true_iff.mpr (.inl (Bool.and_eq_true_iff.mpr
    ⟨decide_eq_true hlow, decide_eq_true hhigh⟩))

/-- Zero does not read back as a positive number. -/
theorem not_has_zero (hm : 0 < m) (e : Int) : (interval m q).has 0 e = false := by
  have hlow : (interval m q).low ≠ 0 := by
    refine Nat.ne_of_gt (Nat.mul_pos ?_ (pow_two_pos _))
    split <;> omega
  have hhigh : (interval m q).high ≠ 0 := Nat.ne_of_gt (Nat.mul_pos (by omega) (pow_two_pos _))
  simp [Interval.has, hlow, hhigh]

/-- The number holds at least `10 ^ 16` units of its seventeenth digit. -/
theorem pow_mul_digitUnit_le (hm : 0 < m) (he : e = (ratio m q).places - 17) :
    10 ^ 16 * digitUnit q e ≤ m * numberUnit q e := by
  have h := (ratio m q).pow_places_le (Nat.mul_pos hm (pow_two_pos _)) (pow_two_pos _)
  have hplaces : (ratio m q).places = e + 17 := by omega
  rw [hplaces] at h
  have hexponents : (e + 17 - 1).toNat + (-e).toNat = e.toNat + 16 + (1 - (e + 17)).toNat := by
    omega
  refine Nat.le_of_mul_le_mul_right ?_ (pow_ten_pos (1 - (e + 17)).toNat)
  calc 10 ^ 16 * digitUnit q e * Nat.pow 10 (1 - (e + 17)).toNat
      = (ratio m q).den * 10 ^ (e.toNat + 16 + (1 - (e + 17)).toNat) := by
        simp only [ratio, digitUnit, Nat.pow_eq]
        ring
    _ = (ratio m q).den * Nat.pow 10 (e + 17 - 1).toNat * 10 ^ (-e).toNat := by
        rw [← hexponents]
        simp only [Nat.pow_eq]
        ring
    _ ≤ (ratio m q).num * Nat.pow 10 (1 - (e + 17)).toNat * 10 ^ (-e).toNat :=
        Nat.mul_le_mul_right _ h
    _ = m * numberUnit q e * Nat.pow 10 (1 - (e + 17)).toNat := by
        simp only [ratio, numberUnit, Nat.pow_eq]
        ring

/-- The arithmetic of the search: `x` and `y` are the units of the number and of its digits, and
`low` is the lower end of the interval in quarters of the former. -/
theorem exists_between {x y low : Nat} (hx : 0 < x) (hy : 0 < y) (hplaces : 10 ^ 16 * y ≤ m * x)
    (hlow : low + 2 = 4 * m ∧ m < 2 ^ 53 ∨ low + 1 = 4 * m ∧ m = 2 ^ 52) :
    low * x < 4 * (m * x / y * y) ∧ 4 * (m * x / y * y) < (4 * m + 2) * x ∨
      low * x < 4 * ((m * x / y + 1) * y) ∧ 4 * ((m * x / y + 1) * y) < (4 * m + 2) * x := by
  have hbelow : m * x / y * y ≤ m * x := Nat.div_mul_le_self _ _
  have habove : m * x < (m * x / y + 1) * y := Nat.lt_mul_of_div_lt (Nat.lt_succ_self _) hy
  rw [Nat.add_mul (m * x / y), Nat.one_mul] at habove ⊢
  have hhigh : (4 * m + 2) * x = 4 * (m * x) + 2 * x := by ring
  rcases hlow with ⟨hlow, hm⟩ | ⟨hlow, hm⟩
  · have hlow : low * x + 2 * x = 4 * (m * x) := by rw [← Nat.add_mul, hlow, Nat.mul_assoc]
    have hm : m * x < 2 ^ 53 * x := Nat.mul_lt_mul_of_pos_right hm hx
    omega
  · have hlow : low * x + x = 4 * (m * x) := by
      rw [← Nat.succ_mul, Nat.succ_eq_add_one, hlow, Nat.mul_assoc]
    have hm : m * x = 2 ^ 52 * x := by rw [hm]
    omega

/-- Seventeen digits suffice. -/
theorem exists_candidate? (hm : 0 < m) (hprecision : m < Nat.pow 2 53) :
    ∃ n, candidate? (ratio m q) (interval m q) ((ratio m q).places - 17) = some n := by
  generalize he : (ratio m q).places - 17 = e
  obtain ⟨low, hends, hquarters⟩ := exists_low_eq (q := q) hm hprecision
  have hbetween := exists_between (numberUnit_pos q e) (digitUnit_pos q e)
    (pow_mul_digitUnit_le hm he.symm) hquarters
  rw [← below_eq] at hbetween
  cases hc : candidate? (ratio m q) (interval m q) e with
  | some n => exact ⟨n, rfl⟩
  | none =>
    obtain ⟨hbelow, habove⟩ := candidate?_eq_none hc
    rcases hbetween with ⟨hlow, hhigh⟩ | ⟨hlow, hhigh⟩
    · have := has_of_between hends hlow hhigh
      rw [hbelow] at this
      cases this
    · have := has_of_between hends hlow hhigh
      rw [habove] at this
      cases this

/-! ## The digits -/

theorem search_ne_zero (hm : 0 < m) (hprecision : m < Nat.pow 2 53) (fuel : Nat) :
    (search (ratio m q) (interval m q) (ratio m q).places fuel).1 ≠ 0 := by
  have hne {n : Nat} {e : Int} (h : candidate? (ratio m q) (interval m q) e = some n) : n ≠ 0 := by
    rintro rfl
    have hzero := has_of_candidate? h
    rw [not_has_zero hm] at hzero
    cases hzero
  induction fuel with
  | zero =>
    obtain ⟨n, hn⟩ := exists_candidate? (q := q) hm hprecision
    rw [search, hn]
    exact hne hn
  | succ fuel ih =>
    rw [search]
    split
    next h => exact hne h
    next => exact ih

/-- A positive number has digits. -/
theorem shortest_ne_nil (hm : 0 < m) (hprecision : m < Nat.pow 2 53) : (shortest m q).1 ≠ [] := by
  have hne := search_ne_zero (q := q) hm hprecision 17
  change ((Nat.toDigits 10 (search (ratio m q) (interval m q) (ratio m q).places 17).1).reverse
    |>.dropWhile (· = '0')).reverse ≠ []
  generalize (search (ratio m q) (interval m q) (ratio m q).places 17).1 = n at hne
  rw [ne_eq, List.reverse_eq_nil_iff, List.dropWhile_eq_nil_iff]
  intro hzeros
  refine hne ?_
  have hreplicate : Nat.toDigits 10 n = List.replicate (Nat.toDigits 10 n).length '0' :=
    List.eq_replicate_of_mem fun c hc ↦ by simpa using hzeros c (List.mem_reverse.mpr hc)
  rw [← Nat.ofDigitChars_ten_toDigits (n := n), hreplicate, Nat.ofDigitChars_replicate_zero]
  simp

end Interval

end SelectBuilder.Binary64
