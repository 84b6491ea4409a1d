import SelectBuilder.Sql.Name

/-!
# Names as they are read

How a database reads the names in a statement, and which of the names that are written it reads as
they were.

A name is written in one of two ways.  As a plain word it is read back, for a plain word is in lower
case already and not reserved; but one line break behind the word passes for a part of it, and is
not read as one.  In quotes it is read back as far as only the closing quote is doubled; in two
dialects the percent sign is doubled as well, and is read as two.  So there is a condition for each
of the two ways, and together they are exact (`KeepsName`).

Which text is written for a name is another question.  No two names have the same text, whether they
are read back or not, and the texts of names can be told apart even where a dot follows them
(`quoteName_append_inj`).
-/

namespace SelectBuilder

/-! ## Reading -/

namespace Text

/-- What stands in quotes up to the closing one, and what follows; a closing quote that is doubled
stands for itself. -/
def unquote? (closing : Char) : List Char → Option (List Char × List Char)
  | [] => none
  | c :: s =>
    if c = closing then
      match s with
      | [] => some ([], [])
      | c' :: s' =>
        if c' = closing then (unquote? closing s').map fun (content, rest) ↦ (c :: content, rest)
        else some ([], c' :: s')
    else (unquote? closing s).map fun (content, rest) ↦ (c :: content, rest)

end Text

namespace Dialect

/-- Whether a word may begin with a character. -/
def isWordStart (c : Char) : Bool := c.isAlpha || c = '_' || 0x80 ≤ c.toNat

/-- Whether a word may go on with a character. -/
def isWordPart (c : Char) : Bool := isWordStart c || c.isDigit || c = '$'

/-- The name that a word stands for: one of the dialects turns its letters to lower case. -/
def folded : Dialect → List Char → List Char
  | .postgres, word => word.map Char.toLower
  | _, word => word

/-- The identifier at the front of a text, and what follows it behind blanks.  It stands in quotes
or is a word; a reserved word is none, and neither are quotes with nothing in them. -/
def readIdentifier? (d : Dialect) (s : List Char) : Option (String × List Char) :=
  match s with
  | [] => none
  | c :: s' =>
    if c = d.nameQuotes.1 then
      (Text.unquote? d.nameQuotes.2 s').bind fun (content, rest) ↦
        if content = [] then none
        else some (String.ofList content, rest.dropWhile Char.isWhitespace)
    else if isWordStart c then
      let word := s.takeWhile isWordPart
      if d.reserved.contains (Text.lower (String.ofList word)) then none
      else some (String.ofList (d.folded word),
        (s.dropWhile isWordPart).dropWhile Char.isWhitespace)
    else none

/-- A text refers to something by one name, or by several with dots between them. -/
inductive Denotes (d : Dialect) : List Char → List String → Prop where
  | name {s name} : d.readIdentifier? s = some (name, []) → Denotes d s [name]
  | dotted {s name rest names} : d.readIdentifier? s = some (name, '.' :: rest) →
      Denotes d rest names → Denotes d s (name :: names)

/-- A text refers to nothing else than what it refers to. -/
theorem Denotes.unique {d : Dialect} {s : List Char} {names names' : List String}
    (h : d.Denotes s names) (h' : d.Denotes s names') : names = names' := by
  induction h generalizing names' with
  | name hread => cases h' <;> simp_all
  | dotted hread _ ih =>
    cases h' with
    | name hread' => simp_all
    | dotted hread' hrest' =>
      obtain ⟨rfl, hrest⟩ := Prod.mk.inj (Option.some_inj.mp (hread.symm.trans hread'))
      cases hrest
      rw [ih hrest']

/-- Whether a name is read back from what is written for it. -/
structure KeepsName (d : Dialect) (name : String) : Prop where
  noBreak : d.isPlain name → '\n' ∉ name.toList
  noPercent : d = .postgres ∨ d = .mysql → '%' ∉ name.toList

end Dialect

/-! ## Plain words -/

namespace Text

/-- A text is in lower case just when each of its characters is. -/
theorem lowerFrom_eq_self_iff (before : Bool) {s : List Char} :
    lowerFrom before s = s ↔ ∀ c ∈ s, c ≠ '\u03a3' ∧ c ≠ '\u0130' ∧ lowerChar c = c := by
  induction s generalizing before with
  | nil => simp [lowerFrom]
  | cons c s ih =>
    rw [lowerFrom, lowerOf, List.forall_mem_cons]
    by_cases hsigma : c = '\u03a3'
    · rw [if_pos hsigma]
      split <;> simp [hsigma]
    by_cases hdotted : c = '\u0130'
    · simp [hdotted]
    rw [if_neg hsigma, if_neg hdotted, List.singleton_append, List.cons.injEq, ih]
    exact and_congr_left' (by simp [hsigma, hdotted])

theorem lower_eq_self_iff {s : String} :
    lower s = s ↔ ∀ c ∈ s.toList, c ≠ '\u03a3' ∧ c ≠ '\u0130' ∧ lowerChar c = c := by
  rw [lower, ← lowerFrom_eq_self_iff false, ← String.toList_inj, String.toList_ofList]

/-- Turning only the letters of ASCII to lower case changes nothing more. -/
theorem toLower_of_lowerChar_eq {c : Char} (h : lowerChar c = c) : c.toLower = c := by
  by_cases hc : c.toNat < 0x80
  · rwa [lowerChar, if_pos hc] at h
  · have hcapital : ¬(c.val ≥ 'A'.val ∧ c.val ≤ 'Z'.val) := fun h ↦
      hc (Nat.lt_of_le_of_lt (UInt32.le_iff_toNat_le.mp h.2) (by decide))
    exact dif_neg hcapital

end Text

namespace Dialect

variable (d : Dialect)

/-- A word that is read as it stands. -/
structure IsWord (word : List Char) : Prop where
  start : word.head?.any isWordStart
  parts : ∀ c ∈ word, isWordPart c
  lower : Text.lower (String.ofList word) = String.ofList word

theorem folded_eq_self {word : List Char} (h : IsWord word) : d.folded word = word := by
  have hlower : ∀ c ∈ word, c.toLower = c := fun c hc ↦
    Text.toLower_of_lowerChar_eq
      (Text.lower_eq_self_iff.mp h.lower c (by rwa [String.toList_ofList])).2.2
  cases d
  case postgres => rw [folded, List.map_congr_left hlower, List.map_id']
  all_goals rfl

theorem not_isWordStart_opening : isWordStart d.nameQuotes.1 = false := by
  cases d <;> decide

/-- A word ends where no other character of a word follows. -/
theorem readIdentifier?_word {word rest : List Char} (h : IsWord word)
    (hrest : rest.head?.all fun c ↦ !isWordPart c) :
    d.readIdentifier? (word ++ rest) =
      if d.reserved.contains (String.ofList word) then none
      else some (String.ofList word, rest.dropWhile Char.isWhitespace) := by
  have htake : (word ++ rest).takeWhile isWordPart = word := by
    rw [List.takeWhile_append_of_pos h.parts]
    cases rest <;> simp_all
  have hdrop : (word ++ rest).dropWhile isWordPart = rest := by
    rw [List.dropWhile_append_of_pos h.parts]
    cases rest <;> simp_all
  obtain ⟨c, s, rfl⟩ : ∃ c s, word = c :: s := by
    cases word with
    | nil => exact absurd h.start (by simp)
    | cons c s => exact ⟨c, s, rfl⟩
  have hstart : isWordStart c := by simpa using h.start
  have hquote : c ≠ d.nameQuotes.1 := by
    rintro rfl
    exact absurd hstart (by simp [not_isWordStart_opening])
  rw [List.cons_append] at htake hdrop ⊢
  simp only [readIdentifier?, if_neg hquote, if_pos hstart, htake, hdrop, h.lower,
    folded_eq_self d h]

theorem isWordPart_of_isNameChar {c : Char} (h : isNameChar c) : isWordPart c := by
  simp only [isNameChar, Char.isAlphanum, Bool.or_eq_true, decide_eq_true_eq] at h
  rcases h with (h | h) | h
  · simp [isWordPart, isWordStart, h]
  · simp [isWordPart, h]
  · simp only [List.mem_cons, List.not_mem_nil, or_false] at h
    rcases h with rfl | rfl | rfl | rfl | rfl | rfl <;> decide

/-- Without the line break that is taken off, a text is as it was. -/
theorem eq_dropFinalBreak_append (s : List Char) :
    ∃ tail, s = dropFinalBreak s ++ tail ∧ (tail = [] ∨ tail = ['\n']) := by
  rw [dropFinalBreak]
  split
  next h =>
    obtain ⟨body, rfl⟩ := List.getLast?_eq_some_iff.mp h
    exact ⟨['\n'], by rw [List.dropLast_concat], .inr rfl⟩
  · exact ⟨[], (List.append_nil s).symm, .inl rfl⟩

theorem isNameChar_of_isPlain {name : String} (h : d.isPlain name) :
    ∀ c ∈ dropFinalBreak name.toList, isNameChar c := by
  simp only [isPlain, isNameText, Bool.and_eq_true, List.all_eq_true] at h
  exact h.1.1.2.2

theorem isNameChar_or_break_of_isPlain {name : String} (h : d.isPlain name) :
    ∀ c ∈ name.toList, isNameChar c ∨ c = '\n' := by
  obtain ⟨tail, htext, htail⟩ := eq_dropFinalBreak_append name.toList
  rw [htext]
  intro c hc
  obtain hc | hc := List.mem_append.mp hc
  · exact .inl (d.isNameChar_of_isPlain h c hc)
  · obtain rfl | rfl := htail
    · exact absurd hc List.not_mem_nil
    · exact .inr (List.mem_singleton.mp hc)

/-- A plain name is a word, but for a line break that may follow. -/
theorem isWord_of_isPlain {name : String} (h : d.isPlain name) :
    IsWord (dropFinalBreak name.toList) := by
  have hparts : ∀ c ∈ dropFinalBreak name.toList, isWordPart c := fun c hc ↦
    isWordPart_of_isNameChar (d.isNameChar_of_isPlain h c hc)
  obtain ⟨tail, hname, -⟩ := eq_dropFinalBreak_append name.toList
  simp only [isPlain, isNameText, Bool.and_eq_true, decide_eq_true_eq, Bool.not_eq_true',
    List.isEmpty_eq_false_iff] at h
  obtain ⟨⟨⟨hstart, hword, -⟩, hlower⟩, -⟩ := h
  generalize dropFinalBreak name.toList = word at hname hword hparts
  refine ⟨?_, hparts, ?_⟩
  · obtain ⟨c, s, rfl⟩ := List.exists_cons_of_ne_nil hword
    have hpart := hparts c List.mem_cons_self
    rw [hname] at hstart
    simp_all [startsLikeName, isWordPart]
  · rw [Text.lower_eq_self_iff, hname] at hlower
    rw [Text.lower_eq_self_iff, String.toList_ofList]
    exact fun c hc ↦ hlower c (List.mem_append_left _ hc)

end Dialect

/-! ## Quoted names -/

namespace Text

variable {marks : List Char} {closing : Char}

theorem unquote?_closing_closing (s : List Char) :
    unquote? closing (closing :: closing :: s) =
      (unquote? closing s).map fun (content, rest) ↦ (closing :: content, rest) := by
  simp [unquote?]

theorem unquote?_cons_of_ne {c : Char} (h : c ≠ closing) (s : List Char) :
    unquote? closing (c :: s) =
      (unquote? closing s).map fun (content, rest) ↦ (c :: content, rest) := by
  cases s <;> simp [unquote?, h]

/-- Between quotes, a character that is doubled is read once if it is the closing quote, and twice
if it is another. -/
theorem unquote?_doubled (hclosing : closing ∈ marks) (s : List Char) {rest : List Char}
    (hrest : rest.head? ≠ some closing) :
    unquote? closing (doubled marks s ++ closing :: rest) =
      some (doubled (marks.filter (· ≠ closing)) s, rest) := by
  induction s with
  | nil => cases rest <;> simp_all [unquote?]
  | cons c s ih =>
    by_cases hc : c = closing
    · rw [hc, doubled_cons_of_mem _ hclosing, doubled_cons_of_not_mem _ (by simp),
        List.cons_append, List.cons_append, unquote?_closing_closing, ih, Option.map_some]
    by_cases hmark : c ∈ marks
    · rw [doubled_cons_of_mem _ hmark, doubled_cons_of_mem _ (by simp [hmark, hc]),
        List.cons_append, List.cons_append, unquote?_cons_of_ne hc, unquote?_cons_of_ne hc, ih,
        Option.map_some, Option.map_some]
    · rw [doubled_cons_of_not_mem _ hmark, doubled_cons_of_not_mem _ (by simp [hmark]),
        List.cons_append, unquote?_cons_of_ne hc, ih, Option.map_some]

variable (marks)

theorem doubled_injective : Function.Injective (doubled marks) := fun s t h ↦ by
  rw [← Option.some_inj, ← undoubled_doubled marks s, h, undoubled_doubled]

theorem length_le_doubled (s : List Char) : s.length ≤ (doubled marks s).length := by
  induction s with
  | nil => exact Nat.le_refl 0
  | cons c s ih => by_cases hc : c ∈ marks <;> simp [doubled, hc] <;> omega

theorem doubled_eq_self_iff {s : List Char} : doubled marks s = s ↔ ∀ c ∈ s, c ∉ marks := by
  induction s with
  | nil => simp
  | cons c s ih =>
    by_cases hc : c ∈ marks
    · have hlength := length_le_doubled marks s
      refine iff_of_false (fun h ↦ ?_) (by simp [hc])
      have := congrArg List.length h
      simp only [doubled_cons_of_mem _ hc, List.length_cons] at this
      omega
    · simp [doubled_cons_of_not_mem _ hc, hc, ih]

end Text

namespace Dialect

variable (d : Dialect)

/-- The characters that are doubled in a quoted name though they do not end it. -/
def strayMarks : List Char := d.nameMarks.filter (· ≠ d.nameQuotes.2)

theorem mem_strayMarks_iff {c : Char} :
    c ∈ d.strayMarks ↔ (d = .postgres ∨ d = .mysql) ∧ c = '%' := by
  cases d <;> simp [strayMarks, nameMarks, nameQuotes]

theorem closing_mem_nameMarks : d.nameQuotes.2 ∈ d.nameMarks := by
  cases d <;> decide

/-- A dot does not carry a quoted name on. -/
theorem head?_ne_closing {rest : List Char} (hrest : rest.head?.all (· = '.')) :
    rest.head? ≠ some d.nameQuotes.2 := fun h ↦ by
  rw [h] at hrest
  cases d <;> simp [nameQuotes] at hrest

/-- A quoted name is read as what its text stands for, whatever follows that is no other quote. -/
theorem readIdentifier?_enclosed {name : String} (hname : name ≠ "") {rest : List Char}
    (hrest : rest.head? ≠ some d.nameQuotes.2) :
    d.readIdentifier?
        ((Text.enclosed d.nameMarks d.nameQuotes.1 d.nameQuotes.2 name).toList ++ rest) =
      some (String.ofList (Text.doubled d.strayMarks name.toList),
        rest.dropWhile Char.isWhitespace) := by
  have hcontent : Text.doubled d.strayMarks name.toList ≠ [] := fun h ↦
    hname (String.toList_inj.mp (Text.doubled_injective _ h))
  rw [Text.enclosed, String.toList_ofList, List.cons_append, List.cons_append, List.append_assoc,
    List.singleton_append, readIdentifier?, if_pos rfl,
    Text.unquote?_doubled d.closing_mem_nameMarks _ hrest]
  exact if_neg hcontent

/-! ## Reading what was written -/

/-- The name that is read where a name was written. -/
def denoted? (name : String) : Option String :=
  if d.isPlain name then
    let word := String.ofList (dropFinalBreak name.toList)
    if d.reserved.contains word then none else some word
  else some (String.ofList (Text.doubled d.strayMarks name.toList))

/-- The line break that may follow a word does not carry it on, and is passed over as a blank. -/
theorem break_append {tail rest : List Char} (htail : tail = [] ∨ tail = ['\n'])
    (hrest : rest.head?.all (· = '.')) :
    ((tail ++ rest).head?.all fun c ↦ !isWordPart c) ∧
      (tail ++ rest).dropWhile Char.isWhitespace = rest := by
  have hdot : (rest.head?.all fun c ↦ !isWordPart c) ∧
      rest.dropWhile Char.isWhitespace = rest := by
    cases rest with
    | nil => exact ⟨rfl, rfl⟩
    | cons c rest =>
      obtain rfl : c = '.' := by simpa using hrest
      exact ⟨rfl, rfl⟩
  obtain rfl | rfl := htail
  · exact hdot
  · exact ⟨rfl, (List.dropWhile_cons_of_pos rfl).trans hdot.2⟩

/-- A name that is written is read to its end where a dot or nothing at all follows. -/
theorem readIdentifier?_quoteName {name : String} (hname : name ≠ "") (rest : List Char)
    (hrest : rest.head?.all (· = '.')) :
    d.readIdentifier? ((d.quoteName name).toList ++ rest) =
      (d.denoted? name).map (·, rest) := by
  by_cases hplain : d.isPlain name
  · obtain ⟨tail, htext, htail⟩ := eq_dropFinalBreak_append name.toList
    obtain ⟨hends, hblank⟩ := break_append htail hrest
    have hword := d.isWord_of_isPlain hplain
    rw [quoteName, if_pos hplain, denoted?, if_pos hplain]
    generalize dropFinalBreak name.toList = word at htext hword ⊢
    rw [htext, List.append_assoc, d.readIdentifier?_word hword hends, hblank]
    dsimp only
    split <;> rfl
  · have hblank : rest.dropWhile Char.isWhitespace = rest := (break_append (.inl rfl) hrest).2
    rw [quoteName, if_neg hplain, denoted?, if_neg hplain,
      d.readIdentifier?_enclosed hname (d.head?_ne_closing hrest), hblank, Option.map_some]

/-- A plain name is read back unless a line break ends it. -/
theorem denoted?_eq_self_iff_of_isPlain {name : String} (h : d.isPlain name) :
    d.denoted? name = some name ↔ '\n' ∉ name.toList := by
  have hreserved : d.reserved.contains name = false := by
    simp only [isPlain, Bool.and_eq_true, decide_eq_true_eq, Bool.not_eq_true'] at h
    rw [← h.1.2, h.2]
  have hchars := d.isNameChar_of_isPlain h
  rw [denoted?, if_pos h]
  obtain ⟨tail, htext, htail⟩ := eq_dropFinalBreak_append name.toList
  generalize dropFinalBreak name.toList = word at htext hchars ⊢
  have hbreak : '\n' ∉ word := fun hmem ↦ absurd (hchars _ hmem) (by decide)
  obtain rfl | rfl := htail
  · rw [List.append_nil] at htext
    subst htext
    simpa [hbreak] using hreserved
  · refine iff_of_false (fun hread ↦ hbreak ?_) (by simp [htext])
    simp only [Option.ite_none_left_eq_some, Option.some_inj] at hread
    rw [← hread.2, String.toList_ofList] at htext
    simp at htext

/-- The name that is read is the one that was written just when the name is kept. -/
theorem denoted?_eq_self_iff {name : String} :
    d.denoted? name = some name ↔ d.KeepsName name := by
  by_cases hplain : d.isPlain name
  · have hpercent : '%' ∉ name.toList := fun hmem ↦
      absurd (d.isNameChar_or_break_of_isPlain hplain _ hmem) (by decide)
    rw [d.denoted?_eq_self_iff_of_isPlain hplain]
    exact ⟨fun h ↦ ⟨fun _ ↦ h, fun _ ↦ hpercent⟩, fun h ↦ h.noBreak hplain⟩
  · rw [denoted?, if_neg hplain, Option.some_inj, ← String.toList_inj, String.toList_ofList,
      Text.doubled_eq_self_iff]
    simp only [mem_strayMarks_iff, not_and]
    exact ⟨fun h ↦ ⟨fun hp ↦ absurd hp hplain, fun hd hc ↦ h _ hc hd rfl⟩,
      fun h c hc hd heq ↦ h.noPercent hd (heq ▸ hc)⟩

/-- What a text refers to goes by the identifier at its front and what is left behind that. -/
theorem denotes_iff_of_read {s rest : List Char} {read? : Option String} {names : List String}
    (hread : d.readIdentifier? s = read?.map (·, rest)) :
    d.Denotes s names ↔ ∃ x, read? = some x ∧
      (rest = [] ∧ names = [x] ∨
        ∃ rest' names', rest = '.' :: rest' ∧ d.Denotes rest' names' ∧ names = x :: names') := by
  constructor
  · intro h
    cases h with
    | name h =>
      obtain ⟨x, hx, heq⟩ := Option.map_eq_some_iff.mp (hread.symm.trans h)
      cases heq
      exact ⟨_, hx, .inl ⟨rfl, rfl⟩⟩
    | dotted h hrest =>
      obtain ⟨x, hx, heq⟩ := Option.map_eq_some_iff.mp (hread.symm.trans h)
      cases heq
      exact ⟨_, hx, .inr ⟨_, _, rfl, hrest, rfl⟩⟩
  · rintro ⟨x, hx, ⟨rfl, rfl⟩ | ⟨rest', names', rfl, hrest, rfl⟩⟩
    · exact .name (by rw [hread, hx, Option.map_some])
    · exact .dotted (by rw [hread, hx, Option.map_some]) hrest

/-- A name that is written refers to the name that is read. -/
theorem denotes_quoteName_iff {name : String} (hname : name ≠ "") {names : List String} :
    d.Denotes (d.quoteName name).toList names ↔ ∃ x, d.denoted? name = some x ∧ names = [x] := by
  have hread := d.readIdentifier?_quoteName hname [] rfl
  rw [List.append_nil] at hread
  rw [d.denotes_iff_of_read hread]
  simp

/-- Names that are written with a dot between them refer to the names that are read. -/
theorem denotes_quoteName_dot_iff {name : String} (hname : name ≠ "") {rest : List Char}
    {names : List String} :
    d.Denotes ((d.quoteName name).toList ++ '.' :: rest) names ↔
      ∃ x names', d.denoted? name = some x ∧ d.Denotes rest names' ∧ names = x :: names' := by
  rw [d.denotes_iff_of_read (d.readIdentifier?_quoteName hname ('.' :: rest) rfl)]
  simp

theorem toList_pair (qualifier name : String) :
    (d.quoteName qualifier ++ "." ++ d.quoteName name).toList =
      (d.quoteName qualifier).toList ++ '.' :: (d.quoteName name).toList := by
  rw [String.toList_append, String.toList_append, List.append_assoc]
  rfl

/-- Two names with a dot between them are read back just when both are kept. -/
theorem denotes_pair_iff {qualifier name : String} (hq : qualifier ≠ "") (hname : name ≠ "") :
    d.Denotes (d.quoteName qualifier ++ "." ++ d.quoteName name).toList [qualifier, name] ↔
      d.KeepsName qualifier ∧ d.KeepsName name := by
  rw [toList_pair, d.denotes_quoteName_dot_iff hq, ← d.denoted?_eq_self_iff,
    ← d.denoted?_eq_self_iff]
  simp [d.denotes_quoteName_iff hname]

/-! ## Telling texts apart -/

theorem takeWhile_of_isPlain {name : String} (h : d.isPlain name) {rest : List Char}
    (hrest : rest.head?.all (· = '.')) :
    (name.toList ++ rest).takeWhile (· ≠ '.') = name.toList := by
  have hdot : ∀ c ∈ name.toList, decide (c ≠ '.') = true := fun c hc ↦ by
    rw [decide_eq_true_eq]
    rintro rfl
    exact absurd (d.isNameChar_or_break_of_isPlain h _ hc) (by decide)
  rw [List.takeWhile_append_of_pos hdot]
  cases rest <;> simp_all

/-- Whether a name is plain can be told from the first character of its text. -/
theorem exists_cons_quoteName (name : String) :
    ∃ c s, (d.quoteName name).toList = c :: s ∧ isWordStart c = d.isPlain name := by
  by_cases hplain : d.isPlain name
  · obtain ⟨tail, htext, -⟩ := eq_dropFinalBreak_append name.toList
    have hstart := (d.isWord_of_isPlain hplain).start
    generalize dropFinalBreak name.toList = word at htext hstart
    cases word with
    | nil => exact absurd hstart (by simp)
    | cons c s =>
      refine ⟨c, s ++ tail, by rw [quoteName, if_pos hplain, htext, List.cons_append], ?_⟩
      rw [hplain]
      simpa using hstart
  · refine ⟨d.nameQuotes.1, _, by rw [quoteName, if_neg hplain, Text.enclosed,
      String.toList_ofList, List.cons_append], ?_⟩
    rw [not_isWordStart_opening, Bool.not_eq_true _ |>.mp hplain]

/-- Where dots follow two names, the texts are the same only if the names and what follows are. -/
theorem quoteName_append_inj {name name' : String} {rest rest' : List Char}
    (hrest : rest.head?.all (· = '.')) (hrest' : rest'.head?.all (· = '.'))
    (h : (d.quoteName name).toList ++ rest = (d.quoteName name').toList ++ rest') :
    name = name' ∧ rest = rest' := by
  have hsame : d.isPlain name = d.isPlain name' := by
    obtain ⟨c, s, hs, hc⟩ := d.exists_cons_quoteName name
    obtain ⟨c', s', hs', hc'⟩ := d.exists_cons_quoteName name'
    rw [hs, hs', List.cons_append, List.cons_append, List.cons.injEq] at h
    rw [← hc, ← hc', h.1]
  by_cases hplain : d.isPlain name
  -- Both are plain, and a plain name ends at the first dot.
  · have hplain' : d.isPlain name' := hsame ▸ hplain
    rw [quoteName, quoteName, if_pos hplain, if_pos hplain'] at h
    have hname : name.toList = name'.toList := by
      rw [← d.takeWhile_of_isPlain hplain hrest, h, d.takeWhile_of_isPlain hplain' hrest']
    rw [hname, List.append_cancel_left_eq] at h
    exact ⟨String.toList_inj.mp hname, h⟩
  -- Both are quoted.  What is read there need not be the name, but no two names are read the same.
  · have hplain' : ¬d.isPlain name' := hsame ▸ hplain
    rw [quoteName, quoteName, if_neg hplain, if_neg hplain'] at h
    simp only [Text.enclosed, String.toList_ofList, List.cons_append, List.append_assoc,
      List.nil_append, List.cons.injEq, true_and] at h
    have hread := congrArg (Text.unquote? d.nameQuotes.2) h
    rw [Text.unquote?_doubled d.closing_mem_nameMarks _ (d.head?_ne_closing hrest),
      Text.unquote?_doubled d.closing_mem_nameMarks _ (d.head?_ne_closing hrest')] at hread
    obtain ⟨hname, heq⟩ := Prod.mk.inj (Option.some_inj.mp hread)
    exact ⟨String.toList_inj.mp (Text.doubled_injective _ hname), heq⟩

theorem quoteName_injective : Function.Injective d.quoteName := by
  intro name name' h
  have htext : (d.quoteName name).toList ++ [] = (d.quoteName name').toList ++ [] := by rw [h]
  exact (d.quoteName_append_inj rfl rfl htext).1

theorem pair_inj {qualifier name qualifier' name' : String}
    (h : d.quoteName qualifier ++ "." ++ d.quoteName name =
      d.quoteName qualifier' ++ "." ++ d.quoteName name') :
    qualifier = qualifier' ∧ name = name' := by
  rw [← String.toList_inj, toList_pair, toList_pair] at h
  obtain ⟨hqualifier, hdot⟩ := d.quoteName_append_inj rfl rfl h
  exact ⟨hqualifier, d.quoteName_injective (String.toList_inj.mp (List.tail_eq_of_cons_eq hdot))⟩

theorem qualifiedColumn_injective : Function.Injective d.qualifiedColumn := fun r r' h ↦ by
  obtain ⟨htable, hcolumn⟩ := d.pair_inj h
  cases r
  cases r'
  rw [ColumnRef.mk.injEq]
  exact ⟨htable, hcolumn⟩

/-- A name by itself is never written as one in a schema. -/
theorem quoteName_ne_pair (name qualifier name' : String) :
    d.quoteName name ≠ d.quoteName qualifier ++ "." ++ d.quoteName name' := fun h ↦ by
  rw [← String.toList_inj, toList_pair, ← List.append_nil (d.quoteName name).toList] at h
  have hdot : [] = '.' :: (d.quoteName name').toList := (d.quoteName_append_inj rfl rfl h).2
  cases hdot

theorem qualifiedTable_inj {schema name schema' name' : String}
    (h : d.qualifiedTable schema name = d.qualifiedTable schema' name') :
    schema = schema' ∧ name = name' := by
  by_cases hschema : schema = "" <;> by_cases hschema' : schema' = "" <;>
    simp only [qualifiedTable, hschema, hschema', if_true, if_false] at h
  · exact ⟨hschema.trans hschema'.symm, d.quoteName_injective h⟩
  · exact absurd h (d.quoteName_ne_pair _ _ _)
  · exact absurd h.symm (d.quoteName_ne_pair _ _ _)
  · exact d.pair_inj h

end Dialect

/-! ## Names and references -/

open Dialect

/-- **Names that are kept are read back**, and no others are: for every dialect, the text that is
written for a name, for a column and for a table refers to the names it was written for just when
each of them is kept. Whether they are or not, what is written for one name, column or table is
written for no other. -/
theorem names_denoted_iff (d : Dialect) :
    (∀ name, name ≠ "" →
      (d.Denotes (d.quoteName name).toList [name] ↔ d.KeepsName name)) ∧
    (∀ r : ColumnRef, r.table ≠ "" → r.column ≠ "" →
      (d.Denotes (d.qualifiedColumn r).toList [r.table, r.column] ↔
        d.KeepsName r.table ∧ d.KeepsName r.column)) ∧
    (∀ schema name, name ≠ "" →
      (d.Denotes (d.qualifiedTable schema name).toList
          (if schema = "" then [name] else [schema, name]) ↔
        d.KeepsName schema ∧ d.KeepsName name)) ∧
    Function.Injective d.quoteName ∧ Function.Injective d.qualifiedColumn ∧
    ∀ schema name schema' name',
      d.qualifiedTable schema name = d.qualifiedTable schema' name' →
        schema = schema' ∧ name = name' := by
  have hname : ∀ name, name ≠ "" →
      (d.Denotes (d.quoteName name).toList [name] ↔ d.KeepsName name) := fun name hne ↦ by
    rw [d.denotes_quoteName_iff hne, ← d.denoted?_eq_self_iff]
    simp
  refine ⟨hname, fun r htable hcolumn ↦ d.denotes_pair_iff htable hcolumn, fun schema name hne ↦ ?_,
    d.quoteName_injective, d.qualifiedColumn_injective, fun _ _ _ _ ↦ d.qualifiedTable_inj⟩
  by_cases hschema : schema = ""
  · have hempty : d.KeepsName "" := ⟨fun _ ↦ by simp, fun _ ↦ by simp⟩
    rw [qualifiedTable, if_pos hschema, if_pos hschema, hname name hne, hschema]
    exact (and_iff_right hempty).symm
  · rw [qualifiedTable, if_neg hschema, if_neg hschema]
    exact d.denotes_pair_iff hschema hne

/-- Capital letters, a blank, a reserved word and the quote itself are all read back. -/
theorem names_denoted_of_lineItem :
    Dialect.postgres.Denotes
      (Dialect.postgres.qualifiedTable "Sales Data" "order").toList ["Sales Data", "order"] ∧
    Dialect.postgres.Denotes
      (Dialect.postgres.qualifiedColumn ⟨"order", "5\x22 items"⟩).toList
        ["order", "5\x22 items"] := by
  obtain ⟨-, hcolumn, htable, -⟩ := names_denoted_iff .postgres
  have horder : Dialect.postgres.KeepsName "order" := ⟨by decide, by decide⟩
  exact ⟨(htable "Sales Data" "order" (by decide)).mpr ⟨⟨by decide, by decide⟩, horder⟩,
    (hcolumn ⟨"order", "5\x22 items"⟩ (by decide) (by decide)).mpr ⟨horder, by decide, by decide⟩⟩

/-- The percent sign is written as for a template, in a text that is none. -/
theorem percent_twice_in_share :
    Dialect.postgres.Denotes (Dialect.postgres.quoteName "a%b").toList ["a%%b"] ∧
      ¬Dialect.postgres.Denotes (Dialect.postgres.quoteName "a%b").toList ["a%b"] := by
  have hread : Dialect.postgres.Denotes (Dialect.postgres.quoteName "a%b").toList ["a%%b"] :=
    .name (by decide +kernel)
  exact ⟨hread, fun h ↦ absurd (hread.unique h) (by decide)⟩

/-- With a line break behind it, a word refers to what it refers to without. -/
theorem same_reference_for_two_names (d : Dialect) :
    d.Denotes (d.quoteName "a").toList ["a"] ∧ d.Denotes (d.quoteName "a\n").toList ["a"] := by
  cases d <;> exact ⟨.name (by decide +kernel), .name (by decide +kernel)⟩

end SelectBuilder
