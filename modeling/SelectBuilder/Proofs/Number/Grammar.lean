import SelectBuilder.Proofs.Number.Written

/-!
# The grammar of numerals

A numeral is an optional sign, digits with an optional point in front of them, among them or behind
them, and an optional exponent, and nothing else.  The grammar leaves open what counts as a digit
(`IsNumeral`).  With the digits of all scripts it is just what is read as a numeral
(`isSome_read?_iff`); with those of ASCII it is the grammar of numbers in SQL.  The two part where a
character is not of ASCII, and nowhere else (`isNumeral_isDigit_iff`).
-/

namespace SelectBuilder.Numeral

section Grammar

variable (isDigit : Char → Bool)

/-- Digits with an optional point, at least one digit. -/
inductive IsBody : List Char → Prop where
  | whole {s : List Char} (hne : s ≠ []) (hs : ∀ c ∈ s, isDigit c) : IsBody s
  | pointed {s t : List Char} (hne : s ≠ [] ∨ t ≠ []) (hs : ∀ c ∈ s, isDigit c)
      (ht : ∀ c ∈ t, isDigit c) : IsBody (s ++ '.' :: t)

inductive IsSign : List Char → Prop where
  | none : IsSign []
  | some {c : Char} (hc : c = '+' ∨ c = '-') : IsSign [c]

/-- What may stand behind the digits: nothing, or a mark with an integer. -/
inductive IsPower : List Char → Prop where
  | none : IsPower []
  | some {mark : Char} {sign s : List Char} (hmark : mark = 'e' ∨ mark = 'E') (hsign : IsSign sign)
      (hne : s ≠ []) (hs : ∀ c ∈ s, isDigit c) : IsPower (mark :: (sign ++ s))

/-- A text is a numeral, of what counts as digits. -/
inductive IsNumeral : List Char → Prop where
  | mk {sign body power : List Char} (hsign : IsSign sign) (hbody : IsBody isDigit body)
      (hpower : IsPower isDigit power) : IsNumeral (sign ++ (body ++ power))

end Grammar

/-! ## Other digits -/

section Digits

variable {p q : Char → Bool} {s : List Char}

/-- A numeral stays one if all digits in it count as digits still. -/
theorem IsNumeral.imp (h : IsNumeral p s) (hpq : ∀ c ∈ s, p c → q c) : IsNumeral q s := by
  cases h with
  | @mk sign body power hsign hbody hpower =>
    simp only [List.forall_mem_append] at hpq
    obtain ⟨-, hbodypq, hpowerpq⟩ := hpq
    refine .mk hsign ?_ ?_
    · cases hbody with
      | whole hne hs => exact .whole hne fun c hc ↦ hbodypq c hc (hs c hc)
      | pointed hne hs ht =>
        simp only [List.forall_mem_append, List.forall_mem_cons] at hbodypq
        obtain ⟨hspq, -, htpq⟩ := hbodypq
        exact .pointed hne (fun c hc ↦ hspq c hc (hs c hc)) fun c hc ↦ htpq c hc (ht c hc)
    · cases hpower with
      | none => exact .none
      | some hmark hsign hne hs =>
        simp only [List.forall_mem_append, List.forall_mem_cons] at hpowerpq
        obtain ⟨-, -, hspq⟩ := hpowerpq
        exact .some hmark hsign hne fun c hc ↦ hspq c hc (hs c hc)

/-- The characters of a numeral are digits and marks. -/
theorem IsNumeral.mem (h : IsNumeral p s) : ∀ c ∈ s, p c ∨ c ∈ ['+', '-', '.', 'e', 'E'] := by
  have hmarks {sign : List Char} (hsign : IsSign sign) :
      ∀ c ∈ sign, p c ∨ c ∈ ['+', '-', '.', 'e', 'E'] := by
    cases hsign with
    | none => exact List.forall_mem_nil _
    | some hc => rcases hc with rfl | rfl <;> simp
  cases h with
  | @mk sign body power hsign hbody hpower =>
    simp only [List.forall_mem_append]
    refine ⟨hmarks hsign, ?_, ?_⟩
    · cases hbody with
      | whole _ hs => exact fun c hc ↦ .inl (hs c hc)
      | pointed _ hs ht =>
        simp only [List.forall_mem_append, List.forall_mem_cons]
        exact ⟨fun c hc ↦ .inl (hs c hc), .inr (by decide), fun c hc ↦ .inl (ht c hc)⟩
    · cases hpower with
      | none => exact List.forall_mem_nil _
      | some hmark hsign _ hs =>
        simp only [List.forall_mem_append, List.forall_mem_cons]
        refine ⟨.inr ?_, hmarks hsign, fun c hc ↦ .inl (hs c hc)⟩
        rcases hmark with rfl | rfl <;> decide

end Digits

theorem toNat_lt_of_isDigit {c : Char} (h : c.isDigit) : c.toNat < 128 := by
  simp only [Char.isDigit, Bool.and_eq_true, decide_eq_true_eq] at h
  have hle : c.toNat ≤ 0x39 := h.2
  omega

/-- The only digits of ASCII are its own. -/
theorem isDigit_of_isDecimalDigit {c : Char} (h : Text.isDecimalDigit c) (hc : c.toNat < 128) :
    c.isDigit := by
  have hranges : ∀ r ∈ Text.decimalDigits.ranges, r = (0x30, 0x39) ∨ 128 ≤ r.1 := by decide
  simp only [Text.isDecimalDigit, Text.CharClass.has, List.any_eq_true, Bool.and_eq_true,
    decide_eq_true_eq] at h
  obtain ⟨r, hr, hlow, hhigh⟩ := h
  rcases hranges r hr with rfl | hle
  · simp only [Char.isDigit, Bool.and_eq_true, decide_eq_true_eq]
    exact ⟨hlow, hhigh⟩
  · omega

theorem isNumeral_isDigit_iff {s : List Char} :
    IsNumeral Char.isDigit s ↔ IsNumeral Text.isDecimalDigit s ∧ ∀ c ∈ s, c.toNat < 128 := by
  constructor
  · intro h
    refine ⟨h.imp fun c _ hc ↦ Text.isDecimalDigit_of_isDigit hc, fun c hc ↦ ?_⟩
    rcases h.mem c hc with hdigit | hmark
    · exact toNat_lt_of_isDigit hdigit
    · have hmarks : ['+', '-', '.', 'e', 'E'].all fun c ↦ c.toNat < 128 := by decide
      simpa using List.all_eq_true.mp hmarks c hmark
  · rintro ⟨h, hascii⟩
    exact h.imp fun c hc hdigit ↦ isDigit_of_isDecimalDigit hdigit (hascii c hc)

/-! ## Reading -/

section Reading

variable {s t : List Char}

theorem splitSign_append {sign : List Char} (hsign : IsSign sign)
    (hs : ∀ c ∈ s.head?, c ≠ '+' ∧ c ≠ '-') : (splitSign (sign ++ s)).2 = s := by
  cases hsign with
  | some hc => rcases hc with rfl | rfl <;> rfl
  | none =>
    rw [List.nil_append]
    unfold splitSign
    split
    next => exact absurd rfl (hs '-' rfl).2
    next => exact absurd rfl (hs '+' rfl).1
    next => rfl

theorem head_ne_sign (hs : IsDigits s) : ∀ c ∈ s.head?, c ≠ '+' ∧ c ≠ '-' := by
  intro c hc
  have hdigit := hs c (List.mem_of_mem_head? hc)
  constructor
  all_goals
    rintro rfl
    revert hdigit
    decide

theorem exists_sign (s : List Char) : ∃ sign, IsSign sign ∧ s = sign ++ (splitSign s).2 := by
  unfold splitSign
  split
  next s => exact ⟨['-'], .some (.inr rfl), rfl⟩
  next s => exact ⟨['+'], .some (.inl rfl), rfl⟩
  next => exact ⟨[], .none, rfl⟩

theorem splitDigits_spec (s : List Char) :
    s = (splitDigits s).1 ++ (splitDigits s).2 ∧ IsDigits (splitDigits s).1 := by
  refine ⟨List.takeWhile_append_dropWhile.symm, fun c hc ↦ ?_⟩
  exact List.mem_takeWhile_imp hc

theorem isSome_exponent?_cons {c : Char} :
    (exponent? (c :: s)).isSome ↔ (c = 'e' ∨ c = 'E') ∧ (splitSign s).2 ≠ [] ∧
      ∀ c ∈ (splitSign s).2, Text.isDecimalDigit c := by
  by_cases hmark : c = 'e' ∨ c = 'E'
  · simp only [exponent?, hmark, Bool.or_eq_true, decide_eq_true_eq, if_true]
    split_ifs with hdigits <;> simpa using hdigits
  · simp [exponent?, hmark]

/-- A text is an exponent just if it can be read as one. -/
theorem isSome_exponent?_iff : (exponent? s).isSome ↔ IsPower Text.isDecimalDigit s := by
  cases s with
  | nil => exact iff_of_true rfl .none
  | cons c s =>
    rw [isSome_exponent?_cons]
    constructor
    · rintro ⟨hmark, hne, hdigits⟩
      obtain ⟨sign, hsign, hs⟩ := exists_sign s
      rw [hs]
      exact .some hmark hsign hne hdigits
    · intro h
      cases h with
      | some hmark hsign hne hs =>
        rw [splitSign_append hsign (head_ne_sign hs)]
        exact ⟨hmark, hne, hs⟩

/-- What is read as a numeral, by its parts: digits on one side of the point at least, and an
exponent behind them. -/
theorem isSome_read?_parts :
    (read? s).isSome ↔
      ((splitDigits (splitSign s).2).1 ≠ [] ∨
        (splitFraction (splitDigits (splitSign s).2).2).1 ≠ []) ∧
      IsPower Text.isDecimalDigit (splitFraction (splitDigits (splitSign s).2).2).2 := by
  rw [read?, ← isSome_exponent?_iff]
  dsimp only
  split_ifs with hdigits
  · simp only [Bool.and_eq_true, decide_eq_true_eq] at hdigits
    simp [hdigits]
  · simp only [Bool.and_eq_true, decide_eq_true_eq, not_and_or] at hdigits
    simp [hdigits]

theorem splitFraction_of_ne (h : s.head? ≠ some '.') : splitFraction s = ([], s) := by
  unfold splitFraction
  split
  next => exact absurd rfl h
  next => rfl

/-- What is split off is a body, if there is a digit in it. -/
theorem exists_body (hne : (splitDigits s).1 ≠ [] ∨ (splitFraction (splitDigits s).2).1 ≠ []) :
    ∃ body, IsBody Text.isDecimalDigit body ∧
      s = body ++ (splitFraction (splitDigits s).2).2 := by
  obtain ⟨hs, hwhole⟩ := splitDigits_spec s
  generalize splitDigits s = parts at *
  obtain ⟨whole, after⟩ := parts
  by_cases hpoint : after.head? = some '.'
  · obtain ⟨fraction, rfl⟩ := List.head?_eq_some_iff.mp hpoint
    obtain ⟨hrest, hfraction⟩ := splitDigits_spec fraction
    refine ⟨_, .pointed hne hwhole hfraction, ?_⟩
    rw [hs, List.append_assoc, List.cons_append]
    exact congrArg (whole ++ '.' :: ·) hrest
  · rw [splitFraction_of_ne hpoint] at hne ⊢
    exact ⟨whole, .whole (hne.resolve_right (absurd rfl)) hwhole, hs⟩

theorem IsPower.head_not_digit (h : IsPower Text.isDecimalDigit s) :
    ∀ c ∈ s.head?, Text.isDecimalDigit c = false := by
  cases h with
  | none => rintro c ⟨⟩
  | some hmark =>
    rintro c ⟨⟩
    rcases hmark with rfl | rfl <;> decide

theorem IsPower.head_ne_point (h : IsPower Text.isDecimalDigit s) : s.head? ≠ Option.some '.' := by
  cases h with
  | none => nofun
  | some hmark => rcases hmark with rfl | rfl <;> simp

theorem IsBody.head_ne_sign (h : IsBody Text.isDecimalDigit s) (t : List Char) :
    ∀ c ∈ (s ++ t).head?, c ≠ '+' ∧ c ≠ '-' := by
  cases h with
  | whole hne hs =>
    obtain ⟨c, s, rfl⟩ := List.exists_cons_of_ne_nil hne
    exact Numeral.head_ne_sign (s := c :: s) hs
  | @pointed s r _ hs _ =>
    cases s with
    | nil =>
      rintro c ⟨⟩
      decide
    | cons c s => exact Numeral.head_ne_sign (s := c :: s) hs

/-- What is split off from a body and an exponent is the two of them. -/
theorem IsBody.split {power : List Char} (h : IsBody Text.isDecimalDigit s)
    (hpower : IsPower Text.isDecimalDigit power) :
    ((splitDigits (s ++ power)).1 ≠ [] ∨ (splitFraction (splitDigits (s ++ power)).2).1 ≠ []) ∧
      (splitFraction (splitDigits (s ++ power)).2).2 = power := by
  cases h with
  | whole hne hs =>
    rw [splitDigits_append hs hpower.head_not_digit, splitFraction_of_ne hpower.head_ne_point]
    exact ⟨.inl hne, rfl⟩
  | @pointed s r hne hs hr =>
    have hpoint : ∀ c ∈ ('.' :: (r ++ power)).head?, Text.isDecimalDigit c = false := by
      rintro c ⟨⟩
      decide
    have hfraction : splitFraction ('.' :: (r ++ power)) = (r, power) :=
      splitDigits_append hr hpower.head_not_digit
    rw [List.append_assoc, List.cons_append, splitDigits_append hs hpoint, hfraction]
    exact ⟨hne, rfl⟩

/-- A text is a numeral, with digits of any script, just if it is read as one. -/
theorem isSome_read?_iff : (read? s).isSome ↔ IsNumeral Text.isDecimalDigit s := by
  rw [isSome_read?_parts]
  constructor
  · rintro ⟨hne, hpower⟩
    obtain ⟨sign, hsign, hs⟩ := exists_sign s
    obtain ⟨body, hbody, hrest⟩ := exists_body hne
    rw [hs, hrest]
    exact .mk hsign hbody hpower
  · intro h
    cases h with
    | mk hsign hbody hpower =>
      rw [splitSign_append hsign (hbody.head_ne_sign _)]
      obtain ⟨hne, heq⟩ := hbody.split hpower
      exact ⟨hne, heq.symm ▸ hpower⟩

end Reading

end SelectBuilder.Numeral
