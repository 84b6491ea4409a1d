import SelectBuilder.Proofs.Literal.NumberText
import SelectBuilder.Text.LetterCase

/-!
# Words and letter case

A declared type goes by its first word, in lower case.  It makes no difference whether the blanks
around a text are dropped before it is turned to lower case or afterwards: a blank has no case, no
other character becomes one, and none tells a sigma at the end of a word from another.  So where
anything is left of a text, the words of what is left have a first one (`head?_words_lower`).
-/

namespace SelectBuilder.Text

open LetterCase

/-! ## Sets apart -/

/-- Whether a range of one set meets one of the other.  The tables are long, so this is computed
with the comparisons of natural numbers themselves. -/
def CharClass.meets (s t : CharClass) : Bool :=
  s.ranges.any fun r ↦ t.ranges.any fun r' ↦ Nat.ble r'.1 r.2 && Nat.ble r.1 r'.2

theorem CharClass.has_eq_false_of_meets {s t : CharClass} {c : Char} (h : s.meets t = false)
    (hc : s.has c) : t.has c = false := by
  simp only [meets, List.any_eq_true, List.any_eq_false, Bool.and_eq_true, Nat.ble_eq, not_exists,
    not_and] at h
  refine CharClass.has_eq_false (fun r hr r' hr' ↦ ?_) hc
  have := h r hr r' hr'
  omega

/-! ## Blanks have no case -/

/-- The blanks as one set. -/
def blanks : CharClass where
  ranges := (0x1C, 0x1F) :: spaces.ranges

theorem isBlank_eq (c : Char) : isBlank c = blanks.has c := by
  rw [isBlank, Bool.or_comm]
  rfl

theorem not_cased_of_isBlank {c : Char} (h : isBlank c) : cased.has c = false := by
  rw [isBlank_eq] at h
  exact CharClass.has_eq_false_of_meets (by decide +kernel) h

/-- No blank has a lower case, and none is one. -/
theorem runs_apart : ∀ r ∈ runs, ∀ b ∈ blanks.ranges,
    (r.last < b.1 ∨ b.2 < r.first) ∧ (r.lower + (r.last - r.first) < b.1 ∨ b.2 < r.lower) := by
  decide +kernel

theorem toNat_ofNat (n : Nat) : (Char.ofNat n).toNat = if n.isValidChar then n else 0 := by
  by_cases h : n.isValidChar
  · have hof : Char.ofNat n = Char.ofNatAux n h := dif_pos h
    rw [if_pos h, hof]
    rfl
  · have hof : Char.ofNat n = '\x00' := dif_neg h
    rw [if_neg h, hof]
    rfl

theorem isBlank_ofNat_of_run {r : Run} (hr : r ∈ runs) {c : Char} {n : Nat}
    (h : r.lower? c.toNat = some n) : isBlank c = false ∧ isBlank (Char.ofNat n) = false := by
  simp only [Run.lower?, Option.ite_none_right_eq_some, Bool.and_eq_true, decide_eq_true_eq,
    beq_iff_eq, Option.some_inj] at h
  obtain ⟨⟨⟨hfirst, hlast⟩, -⟩, rfl⟩ := h
  have hapart := runs_apart r hr
  simp only [isBlank_eq, CharClass.has, List.any_eq_false, Bool.and_eq_true, decide_eq_true_eq,
    not_and]
  refine ⟨fun b hb hlow ↦ ?_, fun b hb hlow ↦ ?_⟩
  · have := (hapart b hb).1
    omega
  · have hpos : ∀ b ∈ blanks.ranges, 0 < b.1 := by decide
    have := (hapart b hb).2
    have := hpos b hb
    rw [toNat_ofNat] at hlow ⊢
    split at hlow
    next hvalid =>
      rw [if_pos hvalid]
      omega
    next => omega

theorem toLower_ascii : ∀ n < 0x80, isBlank (Char.ofNat n).toLower = isBlank (Char.ofNat n) ∧
    (isBlank (Char.ofNat n) → (Char.ofNat n).toLower = Char.ofNat n) := by
  decide +kernel

theorem lowerChar_blank (c : Char) :
    isBlank (lowerChar c) = isBlank c ∧ (isBlank c → lowerChar c = c) := by
  rw [lowerChar]
  split
  next hascii =>
    have h := toLower_ascii c.toNat hascii
    rwa [Char.ofNat_toNat] at h
  next =>
    cases hfind : runs.findSome? (·.lower? c.toNat) with
    | none => exact ⟨rfl, fun _ ↦ rfl⟩
    | some n =>
      obtain ⟨r, hr, hn⟩ := List.exists_of_findSome?_eq_some hfind
      obtain ⟨hc, hlower⟩ := isBlank_ofNat_of_run hr hn
      exact ⟨hlower.trans hc.symm, fun h ↦ absurd h (by simp [hc])⟩

/-- A blank is its own lower case wherever it stands. -/
theorem lowerOf_of_isBlank {c : Char} (h : isBlank c) (before : Bool) (rest : List Char) :
    lowerOf c before rest = [c] := by
  have hsigma : c ≠ '\u03a3' := by
    rintro rfl
    exact absurd h (by decide)
  have hdotted : c ≠ '\u0130' := by
    rintro rfl
    exact absurd h (by decide)
  rw [lowerOf, if_neg hsigma, if_neg hdotted, (lowerChar_blank c).2 h]

/-- What is no blank has a lower case without blanks. -/
theorem lowerOf_of_not_isBlank {c : Char} (h : isBlank c = false) (before : Bool)
    (rest : List Char) :
    ∃ first others, lowerOf c before rest = first :: others ∧ isBlank first = false := by
  rw [lowerOf]
  split
  next =>
    split
    · exact ⟨_, _, rfl, by decide⟩
    · exact ⟨_, _, rfl, by decide⟩
  next =>
    split
    · exact ⟨_, _, rfl, by decide⟩
    · exact ⟨_, _, rfl, (lowerChar_blank c).1.trans h⟩

/-! ## Blanks around a text -/

section Blanks

variable {bs : List Char} (hbs : ∀ c ∈ bs, isBlank c)

include hbs

theorem lowerFrom_blanks_append (s : List Char) :
    lowerFrom false (bs ++ s) = bs ++ lowerFrom false s := by
  induction bs with
  | nil => rfl
  | cons c bs ih =>
    obtain ⟨hc, hbs⟩ := List.forall_mem_cons.mp hbs
    have hafter : casedAfter c false = false := by simp [casedAfter, not_cased_of_isBlank hc]
    rw [List.cons_append, lowerFrom, lowerOf_of_isBlank hc, hafter, ih hbs]
    rfl

/-- Blanks at the end do not tell whether a letter follows. -/
theorem casedAhead_append_blanks (s : List Char) : casedAhead (s ++ bs) = casedAhead s := by
  induction s with
  | nil =>
    rw [List.nil_append, casedAhead]
    split
    next => rfl
    next c _ hdrop =>
      have hc : c ∈ bs := (List.dropWhile_sublist _).mem (by rw [hdrop]; exact List.mem_cons_self)
      exact not_cased_of_isBlank (hbs c hc)
  | cons c s ih =>
    by_cases hc : caseIgnorable.has c
    · simp_all [casedAhead]
    · simp_all [casedAhead]

theorem lowerFrom_append_blanks (before : Bool) (s : List Char) :
    lowerFrom before (s ++ bs) = lowerFrom before s ++ bs := by
  induction s generalizing before with
  | nil =>
    rw [List.nil_append, lowerFrom, List.nil_append]
    induction bs generalizing before with
    | nil => rfl
    | cons c bs ih =>
      obtain ⟨hc, hbs⟩ := List.forall_mem_cons.mp hbs
      rw [lowerFrom, lowerOf_of_isBlank hc, ih hbs]
      rfl
  | cons c s ih =>
    have hof : lowerOf c before (s ++ bs) = lowerOf c before s := by
      rw [lowerOf, casedAhead_append_blanks hbs]
      rfl
    rw [List.cons_append, lowerFrom, hof, ih, lowerFrom, List.append_assoc]

end Blanks

/-- A text without the blanks around it. -/
theorem exists_trim_append (s : List Char) :
    ∃ bs bs', s = bs ++ trim s ++ bs' ∧ (∀ c ∈ bs, isBlank c) ∧ (∀ c ∈ bs', isBlank c) ∧
      (trim s).head?.all (!isBlank ·) := by
  obtain ⟨t, ht⟩ : ∃ t, t = s.dropWhile isBlank := ⟨_, rfl⟩
  have hs : s = s.takeWhile isBlank ++ t := by rw [ht, List.takeWhile_append_dropWhile]
  have htrim : t = trim s ++ (t.reverse.takeWhile isBlank).reverse := by
    rw [trim, trimWhere, ← ht, ← List.reverse_append, List.takeWhile_append_dropWhile,
      List.reverse_reverse]
  refine ⟨s.takeWhile isBlank, (t.reverse.takeWhile isBlank).reverse, ?_, ?_, ?_, ?_⟩
  · rw [List.append_assoc, ← htrim, ← hs]
  · exact fun c hc ↦ List.mem_takeWhile_imp hc
  · exact fun c hc ↦ List.mem_takeWhile_imp (List.mem_reverse.mp hc)
  · cases h : trim s with
    | nil => rfl
    | cons c rest =>
      rw [h, ht] at htrim
      have := List.head?_dropWhile_not isBlank s
      rw [htrim] at this
      simpa using this

/-! ## Words -/

theorem head?_wordsAfter {word : List Char} (h : word ≠ []) (s : List Char) :
    (wordsAfter word s).head? = some (word ++ s.takeWhile (!isBlank ·)) := by
  induction s generalizing word with
  | nil => simp [wordsAfter, h]
  | cons c s ih =>
    cases hc : isBlank c with
    | true => simp [wordsAfter, hc, h]
    | false =>
      rw [wordsAfter, hc, if_neg Bool.false_ne_true, ih (by simp)]
      simp [hc]

theorem firstWord_cons_of_not_isBlank {c : Char} (h : isBlank c = false) (s : List Char) :
    firstWord (c :: s) = c :: s.takeWhile (!isBlank ·) := by
  simp [firstWord, h]

/-- A text that begins with no blank has a first word. -/
theorem head?_words {c : Char} (h : isBlank c = false) (s : List Char) :
    (words (c :: s)).head? = some (firstWord (c :: s)) := by
  rw [words, wordsAfter, h, if_neg Bool.false_ne_true, head?_wordsAfter (by simp),
    firstWord_cons_of_not_isBlank h]
  rfl

section Blanks

variable {bs : List Char} (hbs : ∀ c ∈ bs, isBlank c)

include hbs

theorem firstWord_blanks_append (s : List Char) : firstWord (bs ++ s) = firstWord s := by
  rw [firstWord, List.dropWhile_append_of_pos hbs]
  rfl

theorem firstWord_append_blanks (s : List Char) : firstWord (s ++ bs) = firstWord s := by
  have htake (s : List Char) :
      (s ++ bs).takeWhile (!isBlank ·) = s.takeWhile (!isBlank ·) := by
    induction s with
    | nil => cases bs <;> simp_all
    | cons c s ih => cases hc : isBlank c <;> simp_all
  induction s with
  | nil => rw [← List.append_nil ([] ++ bs), List.nil_append, firstWord_blanks_append hbs]
  | cons c s ih =>
    cases hc : isBlank c with
    | true => rw [List.cons_append, firstWord_of_isBlank hc, ih, firstWord_of_isBlank hc]
    | false =>
      rw [List.cons_append, firstWord_cons_of_not_isBlank hc, htake,
        firstWord_cons_of_not_isBlank hc]

end Blanks

/-- Where anything is left of a text without the blanks around it, in lower case, it has a first
word, which is that of the text in lower case; and else the text in lower case has none. -/
theorem head?_words_lower (s : List Char) :
    (words (lowerFrom false (trim s))).head? =
        (if lowerFrom false (trim s) = [] then none else some (firstWord (lowerFrom false s))) ∧
      (lowerFrom false (trim s) = [] → firstWord (lowerFrom false s) = []) := by
  obtain ⟨bs, bs', hs, hbs, hbs', hhead⟩ := exists_trim_append s
  have hfirst : firstWord (lowerFrom false s) = firstWord (lowerFrom false (trim s)) := by
    generalize trim s = t at hs
    rw [hs, lowerFrom_append_blanks hbs', firstWord_append_blanks hbs',
      lowerFrom_blanks_append hbs, firstWord_blanks_append hbs]
  rw [hfirst]
  -- What is left begins with no blank, and neither does its lower case.
  cases h : trim s with
  | nil => exact ⟨rfl, fun _ ↦ rfl⟩
  | cons c t =>
    rw [h] at hhead
    obtain ⟨first, others, hlower, hblank⟩ :=
      lowerOf_of_not_isBlank (by simpa using hhead) false t
    rw [lowerFrom, hlower, List.cons_append, head?_words hblank]
    exact ⟨(if_neg (List.cons_ne_nil _ _)).symm, fun h ↦ absurd h (List.cons_ne_nil _ _)⟩

end SelectBuilder.Text
