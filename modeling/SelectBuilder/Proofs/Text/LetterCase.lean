import SelectBuilder.Proofs.Text.Words

/-!
# The lower case of a word

The lower case of a letter may depend on the letters around it, but not beyond a blank: a blank is
neither a letter nor one of the characters that are skipped on the way to one.  So the first word of
a text in lower case is the first word of the text, in lower case (`firstWord_lowerFrom`).

Whether a letter of ASCII is a capital makes no difference to any of this.  Both of a pair are
letters with a case, and both have the same lower case wherever they stand
(`lowerFrom_map_toLower`).
-/

namespace SelectBuilder.Text

open LetterCase

@[simp] theorem casedAhead_nil : casedAhead [] = false := rfl

theorem casedAhead_cons (c : Char) (s : List Char) :
    casedAhead (c :: s) = if caseIgnorable.has c then casedAhead s else cased.has c := by
  cases h : caseIgnorable.has c <;> simp [casedAhead, h]

/-! ## Up to a blank -/

theorem not_caseIgnorable_of_isBlank {c : Char} (h : isBlank c) : caseIgnorable.has c = false := by
  rw [isBlank_eq] at h
  exact CharClass.has_eq_false_of_meets (by decide +kernel) h

theorem casedAhead_takeWhile (s : List Char) :
    casedAhead (s.takeWhile (!isBlank ·)) = casedAhead s := by
  induction s with
  | nil => rfl
  | cons c s ih =>
    cases hc : isBlank c with
    | true => simp [hc, casedAhead_cons, not_caseIgnorable_of_isBlank hc, not_cased_of_isBlank hc]
    | false => simp [hc, casedAhead_cons, ih]

theorem not_isBlank_of_mem_lowerOf {c : Char} (h : isBlank c = false) {before : Bool}
    {rest : List Char} : ∀ l ∈ lowerOf c before rest, isBlank l = false := by
  intro l hl
  rw [lowerOf] at hl
  split at hl
  next =>
    split at hl
    · obtain rfl := List.mem_singleton.mp hl
      decide
    · obtain rfl := List.mem_singleton.mp hl
      decide
  next =>
    split at hl
    · rcases List.mem_pair.mp hl with rfl | rfl
      · decide
      · decide
    · obtain rfl := List.mem_singleton.mp hl
      exact (lowerChar_blank c).1.trans h

/-- What stands in front of the first blank may be turned to lower case by itself. -/
theorem takeWhile_lowerFrom (before : Bool) (s : List Char) :
    (lowerFrom before s).takeWhile (!isBlank ·) = lowerFrom before (s.takeWhile (!isBlank ·)) := by
  induction s generalizing before with
  | nil => rfl
  | cons c s ih =>
    cases hc : isBlank c with
    | true => simp [lowerFrom, lowerOf_of_isBlank hc, hc]
    | false =>
      have hof : lowerOf c before (s.takeWhile (!isBlank ·)) = lowerOf c before s := by
        rw [lowerOf, casedAhead_takeWhile]
        rfl
      have hfirst : ∀ l ∈ lowerOf c before s, !isBlank l := by
        intro l hl
        rw [not_isBlank_of_mem_lowerOf hc l hl]
        rfl
      rw [lowerFrom, List.takeWhile_append_of_pos hfirst, ih, List.takeWhile_cons_of_pos (by simpa),
        lowerFrom, hof]

/-- A text that begins with no blank begins with its first word. -/
theorem firstWord_eq_takeWhile {s : List Char} (h : s.head?.all (!isBlank ·)) :
    firstWord s = s.takeWhile (!isBlank ·) := by
  cases s with
  | nil => rfl
  | cons c s => rw [firstWord, List.dropWhile_cons_of_neg (by simpa using h)]

theorem firstWord_lowerFrom (s : List Char) :
    firstWord (lowerFrom false s) = lowerFrom false (firstWord s) := by
  induction s with
  | nil => rfl
  | cons c s ih =>
    cases hc : isBlank c with
    | true =>
      have hlower := lowerFrom_blanks_append (List.forall_mem_singleton.mpr hc) s
      rw [List.singleton_append, List.singleton_append] at hlower
      rw [hlower, firstWord_of_isBlank hc, firstWord_of_isBlank hc, ih]
    | false =>
      obtain ⟨first, others, hlower, hfirst⟩ := lowerOf_of_not_isBlank hc false s
      have hhead : (lowerFrom false (c :: s)).head?.all (!isBlank ·) := by
        rw [lowerFrom, hlower]
        simpa using hfirst
      rw [firstWord_eq_takeWhile hhead, takeWhile_lowerFrom, firstWord_eq_takeWhile (by simpa)]

/-- A word is read up to the blank behind it. -/
theorem firstWord_append {w rest : List Char} (hne : w ≠ []) (hw : ∀ c ∈ w, isBlank c = false)
    (hrest : rest.head?.all isBlank) : firstWord (w ++ rest) = w := by
  have htake : rest.takeWhile (!isBlank ·) = [] := by
    cases rest with
    | nil => rfl
    | cons c rest => exact List.takeWhile_cons_of_neg (by simpa using hrest)
  have hhead : (w ++ rest).head?.all (!isBlank ·) := by
    obtain ⟨c, s, rfl⟩ := List.exists_cons_of_ne_nil hne
    simpa using hw c List.mem_cons_self
  rw [firstWord_eq_takeWhile hhead, List.takeWhile_append_of_pos (by simpa using hw), htake,
    List.append_nil]

/-! ## Letters of ASCII -/

/-- Only the capitals of ASCII have another lower case there. -/
theorem toLower_eq_self {c : Char} (h : ∀ n < 26, c ≠ Char.ofNat (65 + n)) : c.toLower = c := by
  have hrange : ¬ ('A'.val ≤ c.val ∧ c.val ≤ 'Z'.val) := by
    rintro ⟨hfirst, hlast⟩
    have hlow : 65 ≤ c.toNat := hfirst
    have hhigh : c.toNat ≤ 90 := hlast
    refine h (c.toNat - 65) (by omega) ?_
    rw [Nat.add_sub_cancel' hlow, Char.ofNat_toNat]
  exact dif_neg hrange

/-- What is the same for a capital of ASCII and its lower case is the same for every character and
its lower case in ASCII. -/
theorem toLower_congr {α : Type} {f : Char → α}
    (h : ∀ n < 26, f (Char.ofNat (65 + n)).toLower = f (Char.ofNat (65 + n))) (c : Char) :
    f c.toLower = f c := by
  by_cases hc : ∀ n < 26, c ≠ Char.ofNat (65 + n)
  · rw [toLower_eq_self hc]
  · push Not at hc
    obtain ⟨n, hn, rfl⟩ := hc
    exact h n hn

theorem cased_toLower (c : Char) : cased.has c.toLower = cased.has c :=
  toLower_congr (by decide) c

/-- The letters of ASCII. -/
def asciiLetters : CharClass where
  ranges := [(0x41, 0x5A), (0x61, 0x7A)]

theorem not_caseIgnorable_of_asciiLetters {c : Char} (h : asciiLetters.has c) :
    caseIgnorable.has c = false :=
  CharClass.has_eq_false_of_meets (by decide +kernel) h

theorem caseIgnorable_toLower (c : Char) : caseIgnorable.has c.toLower = caseIgnorable.has c := by
  have hletters : ∀ n < 26, asciiLetters.has (Char.ofNat (65 + n)).toLower ∧
      asciiLetters.has (Char.ofNat (65 + n)) := by decide
  refine toLower_congr (fun n hn ↦ ?_) c
  obtain ⟨hlower, hcapital⟩ := hletters n hn
  rw [not_caseIgnorable_of_asciiLetters hlower, not_caseIgnorable_of_asciiLetters hcapital]

theorem isBlank_toLower (c : Char) : isBlank c.toLower = isBlank c :=
  toLower_congr (by decide) c

theorem lowerChar_toLower (c : Char) : lowerChar c.toLower = lowerChar c :=
  toLower_congr (by decide) c

theorem casedAhead_map_toLower (s : List Char) :
    casedAhead (s.map Char.toLower) = casedAhead s := by
  induction s with
  | nil => rfl
  | cons c s ih =>
    rw [List.map_cons, casedAhead_cons, casedAhead_cons, cased_toLower, caseIgnorable_toLower, ih]

theorem lowerOf_toLower (c : Char) (before : Bool) (s : List Char) :
    lowerOf c.toLower before (s.map Char.toLower) = lowerOf c before s := by
  have hsigma : (c.toLower = '\u03a3') = (c = '\u03a3') :=
    toLower_congr (f := (· = '\u03a3')) (by decide) c
  have hdotted : (c.toLower = '\u0130') = (c = '\u0130') :=
    toLower_congr (f := (· = '\u0130')) (by decide) c
  simp only [lowerOf, hsigma, hdotted, casedAhead_map_toLower, lowerChar_toLower]

theorem lowerFrom_map_toLower (before : Bool) (s : List Char) :
    lowerFrom before (s.map Char.toLower) = lowerFrom before s := by
  induction s generalizing before with
  | nil => rfl
  | cons c s ih =>
    have hafter : casedAfter c.toLower before = casedAfter c before := by
      rw [casedAfter, casedAfter, cased_toLower, caseIgnorable_toLower]
    rw [List.map_cons, lowerFrom, lowerFrom, lowerOf_toLower, hafter, ih]

theorem toLower_eq_iff {s t : String} :
    s.toLower = t.toLower ↔ s.toList.map Char.toLower = t.toList.map Char.toLower := by
  have hmap (r : String) : r.toLower.toList = r.toList.map Char.toLower := String.toList_map
  rw [← String.toList_inj, hmap, hmap]

/-- Texts that differ in letter case within ASCII have the same lower case. -/
theorem lower_eq_of_toLower_eq {s t : String} (h : s.toLower = t.toLower) : lower s = lower t := by
  rw [lower, lower, ← lowerFrom_map_toLower, toLower_eq_iff.mp h, lowerFrom_map_toLower]

end SelectBuilder.Text
