import SelectBuilder.Number.Quantity
import SelectBuilder.Proofs.Number.Written

/-!
# Fifty-three bits

The exponent of the number nearest to a ratio is chosen for its significand to have 53 bits at most.
The ratio is less than the power of two behind its logarithm (`lt_of_log2Ratio`), and so less than
`2 ^ 53` units.  It is rounded to no more than that, and if to just that, the significand is halved.
So every number is precise that is read from a text (`isPrecise_ofText?`) or made of a decimal
(`isPrecise_ofDecimal`).
-/

namespace SelectBuilder.Binary64

/-- What is less than a number of units is rounded to no more than that number. -/
theorem divNearest_le {num den n : Nat} (h : num < den * n) : divNearest num den ≤ n := by
  have hlt : num / den < n := Nat.div_lt_of_lt_mul h
  unfold divNearest
  dsimp only
  split
  · omega
  · omega
  · split <;> omega

/-- A ratio below `2 ^ k` is below `2 ^ n` units of `2 ^ q`, if they are no less than that. -/
theorem lt_unit_of_lt {num den n : Nat} {k q : Int} (hk : k ≤ q + n)
    (h : num * Nat.pow 2 (-k).toNat < den * Nat.pow 2 k.toNat) :
    num * Nat.pow 2 (-q).toNat < den * Nat.pow 2 q.toNat * Nat.pow 2 n := by
  have hexponents : k.toNat + (-q).toNat ≤ (-k).toNat + (q.toNat + n) := by omega
  simp only [Nat.pow_eq] at h ⊢
  refine Nat.lt_of_mul_lt_mul_right (a := 2 ^ (-k).toNat) ?_
  calc num * 2 ^ (-q).toNat * 2 ^ (-k).toNat
      = num * 2 ^ (-k).toNat * 2 ^ (-q).toNat := Nat.mul_right_comm _ _ _
    _ < den * 2 ^ k.toNat * 2 ^ (-q).toNat := Nat.mul_lt_mul_of_pos_right h (pow_two_pos _)
    _ = den * 2 ^ (k.toNat + (-q).toNat) := by rw [pow_add, Nat.mul_assoc]
    _ ≤ den * 2 ^ ((-k).toNat + (q.toNat + n)) :=
        Nat.mul_le_mul_left _ (Nat.pow_le_pow_right (by decide) hexponents)
    _ = den * 2 ^ q.toNat * 2 ^ n * 2 ^ (-k).toNat := by
        rw [pow_add, pow_add]
        ring

/-- A ratio is less than the power of two behind its logarithm. -/
theorem lt_of_log2Ratio {num den : Nat} (hden : 0 < den) :
    num * Nat.pow 2 (-(log2Ratio num den + 1)).toNat <
      den * Nat.pow 2 (log2Ratio num den + 1).toNat := by
  unfold log2Ratio
  dsimp only
  split
  next hlt => rwa [Int.sub_add_cancel]
  next =>
    have hnum : num < 2 ^ (num.log2 + 1) := Nat.lt_log2_self
    have hpow : 2 ^ den.log2 ≤ den := Nat.log2_self_le (Nat.ne_of_gt hden)
    generalize hk : (num.log2 : Int) - den.log2 + 1 = k
    have hexponents : num.log2 + 1 + (-k).toNat = den.log2 + k.toNat := by omega
    simp only [Nat.pow_eq]
    calc num * 2 ^ (-k).toNat
        < 2 ^ (num.log2 + 1) * 2 ^ (-k).toNat := Nat.mul_lt_mul_of_pos_right hnum (pow_two_pos _)
      _ = 2 ^ den.log2 * 2 ^ k.toNat := by rw [← pow_add, hexponents, pow_add]
      _ ≤ den * 2 ^ k.toNat := Nat.mul_le_mul_right _ hpow

theorem isPrecise_ofRatio (negative : Bool) (num : Nat) {den : Nat} (hden : 0 < den) :
    (ofRatio negative num den).IsPrecise := by
  have hunits (q : Int) (hq : log2Ratio num den + 1 ≤ q + (53 : Nat)) :
      divNearest (num * Nat.pow 2 (-q).toNat) (den * Nat.pow 2 q.toNat) ≤ Nat.pow 2 53 :=
    divNearest_le (lt_unit_of_lt hq (lt_of_log2Ratio hden))
  have hq := hunits (max (log2Ratio num den - 52) (-1074)) (by omega)
  unfold ofRatio
  dsimp only
  generalize divNearest _ _ = m at hq ⊢
  split_ifs with hfull hlarge hlarge
  · trivial
  · exact Nat.pow_lt_pow_right (by decide) (by decide)
  · trivial
  · exact Nat.lt_of_le_of_ne hq hfull

theorem isPrecise_ofScaled (negative : Bool) (coefficient : Nat) (scale : Int) :
    (ofScaled negative coefficient scale).IsPrecise := by
  unfold ofScaled
  dsimp only
  split_ifs
  · exact pow_two_pos 53
  · trivial
  · exact isPrecise_ofRatio _ _ (pow_ten_pos _)

/-- Every number that is read from a text is precise. -/
theorem isPrecise_ofText? {s : String} {x : Binary64} (h : ofText? s = some x) : x.IsPrecise := by
  unfold ofText? at h
  dsimp only at h
  split at h
  next =>
    cases h
    exact isPrecise_ofScaled _ _ _
  next =>
    split_ifs at h <;> cases h <;> trivial

/-- The number nearest to a decimal is precise. -/
theorem isPrecise_ofDecimal (d : Decimal) : (ofDecimal d).IsPrecise := by
  cases d with
  | finite negative coefficient exponent => exact isPrecise_ofScaled _ _ _
  | infinite | nan => trivial

end SelectBuilder.Binary64
