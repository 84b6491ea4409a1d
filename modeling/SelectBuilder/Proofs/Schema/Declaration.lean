import SelectBuilder.Proofs.Text.LetterCase
import SelectBuilder.Schema.Family

/-!
# The word that a declared type goes by

A declaration begins with a word, blanks in front of it apart.  A list of parameters may stand right
behind the word; it ends at the first closing parenthesis, whatever else is in it, so it is taken
out whole and nothing of it is left that could lengthen the word.  What follows begins with a blank,
and further lists in it are taken out behind that blank (`dropParameters_list`,
`head?_dropParameters`).  So the word is read as it is (`leadingWord_eq`), and the family is that of
the word in lower case.
-/

namespace SelectBuilder

namespace Family

open Text

/-! ## Taking parameters out -/

theorem parameterLength?_append {p : List Char} (hp : ∀ c ∈ p, c ≠ ')' ∧ c ≠ '\n')
    (s : List Char) : parameterLength? (p ++ ')' :: s) = some (p.length + 1) := by
  induction p with
  | nil => rfl
  | cons c p ih =>
    obtain ⟨⟨hclosing, hbreak⟩, hp⟩ := List.forall_mem_cons.mp hp
    rw [List.cons_append, parameterLength?, if_neg hclosing, if_neg hbreak, ih hp]
    rfl

theorem dropParameters_skip (p s : List Char) :
    dropParameters p.length (p ++ s) = dropParameters 0 s := by
  induction p with
  | nil => rfl
  | cons c p ih => rw [List.length_cons, List.cons_append, dropParameters, ih]

theorem dropParameters_append {w : List Char} (hw : '(' ∉ w) (s : List Char) :
    dropParameters 0 (w ++ s) = w ++ dropParameters 0 s := by
  induction w with
  | nil => rfl
  | cons c w ih =>
    rw [List.mem_cons, not_or] at hw
    rw [List.cons_append, dropParameters, if_neg (Ne.symm hw.1), ih hw.2, List.cons_append]

/-- A list of parameters is taken out whole. -/
theorem dropParameters_list {p : List Char} (hp : ∀ c ∈ p, c ≠ ')' ∧ c ≠ '\n') (s : List Char) :
    dropParameters 0 ('(' :: p ++ ')' :: s) = dropParameters 0 s := by
  have hskip := dropParameters_skip (p ++ [')']) s
  rw [List.length_append, List.length_singleton, List.append_assoc, List.singleton_append] at hskip
  rw [List.cons_append, dropParameters, if_pos rfl, parameterLength?_append hp]
  exact hskip

/-- What begins with a blank still does so without its parameters. -/
theorem head?_dropParameters {s : List Char} (h : s.head?.all isBlank) :
    (dropParameters 0 s).head?.all isBlank := by
  cases s with
  | nil => rfl
  | cons c s =>
    have hc : c ≠ '(' := by
      rintro rfl
      have hopening : isBlank '(' = false := by decide
      simp [hopening] at h
    rw [dropParameters, if_neg hc]
    exact h

/-! ## The word in front -/

/-- The first word of a declaration without its parameters, as it is written. -/
def leadingWord (declaration : String) : String :=
  String.ofList (firstWord (dropParameters 0 declaration.toList))

/-- The family of a declaration is that of its first word, in lower case. -/
theorem ofDeclaration_eq (declaration : String) :
    ofDeclaration declaration = ofWord (lower (leadingWord declaration)) := by
  rw [ofDeclaration, typeWord, firstWord_lowerFrom, lower, leadingWord, String.toList_ofList]

/-- A word that a declaration may go by.  A closing parenthesis by itself would be part of it. -/
structure IsTypeWord (w : String) : Prop where
  ne_empty : w ≠ ""
  plain : ∀ c ∈ w.toList, isBlank c = false ∧ c ≠ '('

/-- A word in other letters is a word. -/
theorem IsTypeWord.of_toLower_eq {v w : String} (hw : IsTypeWord w) (h : v.toLower = w.toLower) :
    IsTypeWord v := by
  have hmap := toLower_eq_iff.mp h
  constructor
  · rintro rfl
    refine hw.ne_empty ?_
    simpa using hmap.symm
  · intro c hc
    have hlower : c.toLower ∈ w.toList.map Char.toLower := hmap ▸ List.mem_map_of_mem hc
    obtain ⟨l, hl, hsame⟩ := List.mem_map.mp hlower
    obtain ⟨hblank, hopening⟩ := hw.plain l hl
    constructor
    · rw [← isBlank_toLower, ← hsame, isBlank_toLower, hblank]
    · have hmark (a : Char) : (a.toLower = '(') = (a = '(') :=
        toLower_congr (f := (· = '(')) (by decide) a
      rwa [ne_eq, ← hmark c, ← hsame, hmark l]

/-- A text of blanks. -/
def IsBlankText (s : String) : Prop := ∀ c ∈ s.toList, isBlank c

/-- What may stand behind the first word of a declaration. -/
def IsRest (s : String) : Prop := s.toList.head?.all isBlank

theorem IsRest.append {s after : String} (hs : IsRest s) (hafter : IsBlankText after) :
    IsRest (s ++ after) := by
  rw [IsRest, String.toList_append]
  rw [IsRest] at hs
  cases h : s.toList with
  | nil =>
    rw [List.nil_append]
    cases h : after.toList with
    | nil => rfl
    | cons c t => exact hafter c (by rw [h]; exact List.mem_cons_self)
  | cons c t =>
    rw [h] at hs
    exact hs

/-- What may stand between the parentheses of a list of parameters. -/
def IsParameters (p : String) : Prop := ∀ c ∈ p.toList, c ≠ ')' ∧ c ≠ '\n'

section Word

variable {w p s before : String} (hw : IsTypeWord w) (hs : IsRest s) (hbefore : IsBlankText before)

include hw hbefore

theorem opening_not_mem : '(' ∉ before.toList ++ w.toList := by
  rw [List.mem_append, not_or]
  constructor
  · intro hmem
    exact absurd (hbefore _ hmem) (by decide)
  · intro hmem
    exact (hw.plain _ hmem).2 rfl

include hs

/-- Neither the blanks in front of the first word nor what follows it counts. -/
theorem leadingWord_eq : leadingWord (before ++ w ++ s) = w := by
  have hne : w.toList ≠ [] := by simpa using hw.ne_empty
  have hplain : ∀ c ∈ w.toList, isBlank c = false := fun c hc ↦ (hw.plain c hc).1
  rw [leadingWord, String.toList_append, String.toList_append,
    dropParameters_append (opening_not_mem hw hbefore), List.append_assoc,
    firstWord_blanks_append hbefore, firstWord_append hne hplain (head?_dropParameters hs),
    String.ofList_toList]

/-- Nor does a list of parameters right behind the first word. -/
theorem leadingWord_parameters (hp : IsParameters p) :
    leadingWord (before ++ w ++ "(" ++ p ++ ")" ++ s) = w := by
  have htext : (before ++ w ++ "(" ++ p ++ ")" ++ s).toList =
      (before.toList ++ w.toList) ++ ('(' :: p.toList ++ ')' :: s.toList) := by
    simp [String.toList_append]
  have hrest := leadingWord_eq hw hs hbefore
  rw [leadingWord, String.toList_append, String.toList_append,
    dropParameters_append (opening_not_mem hw hbefore)] at hrest
  rw [leadingWord, htext, dropParameters_append (opening_not_mem hw hbefore),
    dropParameters_list hp, hrest]

end Word

/-! ## The main statement -/

/-- Every text has a family.  The empty one declares nothing, and counts as a text like any word
that is not known. -/
theorem getD_ofValue_text (d : String) :
    (ofValue (.text d)).map (·.getD .string) = .ok (ofDeclaration d) := by
  by_cases h : d = ""
  · subst h
    decide
  · have htruth : (Value.text d).truth = true := by simpa [Value.truth] using h
    simp only [ofValue, htruth, if_true, Except.map, Option.getD_some]

/-- The family of a declared type goes by its first word.

A list of parameters behind the word, further words and further lists, blanks around all of it and
the case of the letters make no difference, and what counts of the word is its lower case.  So two
declarations are of the same family if their first words are the same but for the case of letters.
Nothing that is declared is without a family. -/
theorem family_goes_by_first_word {w v p s before after : String} (hw : IsTypeWord w)
    (hv : v.toLower = w.toLower) (hp : IsParameters p) (hs : IsRest s)
    (hbefore : IsBlankText before) (hafter : IsBlankText after) :
    ofDeclaration (before ++ v ++ "(" ++ p ++ ")" ++ s ++ after) = ofDeclaration w ∧
      ofDeclaration (before ++ v ++ s ++ after) = ofDeclaration w ∧
      ofDeclaration w = ofWord (lower w) ∧
      (∀ d e, (leadingWord d).toLower = (leadingWord e).toLower →
        ofDeclaration d = ofDeclaration e) ∧
      ∀ d, (ofValue (.text d)).map (·.getD .string) = .ok (ofDeclaration d) := by
  have hrest := hs.append hafter
  have hv' := hw.of_toLower_eq hv
  have hword : leadingWord w = w := by
    have hnone : IsBlankText "" := by simp [IsBlankText]
    have halone := leadingWord_eq hw (s := "") (by simp [IsRest]) hnone
    rwa [String.append_empty, String.empty_append] at halone
  have hsame : ∀ d e, (leadingWord d).toLower = (leadingWord e).toLower →
      ofDeclaration d = ofDeclaration e := by
    intro d e h
    rw [ofDeclaration_eq, ofDeclaration_eq, lower_eq_of_toLower_eq h]
  refine ⟨hsame _ _ ?_, hsame _ _ ?_, ?_, hsame, getD_ofValue_text⟩
  · rw [String.append_assoc, leadingWord_parameters hv' hrest hbefore hp, hword, hv]
  · rw [String.append_assoc, leadingWord_eq hv' hrest hbefore, hword, hv]
  · rw [ofDeclaration_eq, hword]

/-- A number with an opening parenthesis too many among its parameters, and with blanks around. -/
theorem family_of_paddedNumeric :
    ofDeclaration ("\t " ++ "Numeric" ++ "(" ++ "(10, 2" ++ ")" ++ " unsigned (zerofill)" ++ "\n") =
        .numeric ∧
      ofDeclaration ("\t " ++ "Numeric" ++ " unsigned (zerofill)" ++ "\n") = .numeric := by
  have hw : IsTypeWord "numeric" := by
    refine ⟨by decide, fun c hc ↦ ⟨?_, ?_⟩⟩
    · have hplain : "numeric".toList.all (!isBlank ·) := by decide
      simpa using List.all_eq_true.mp hplain c hc
    · rintro rfl
      exact absurd hc (by decide)
  have hbefore : IsBlankText "\t " := List.all_eq_true.mp (by decide)
  have hafter : IsBlankText "\n" := List.all_eq_true.mp (by decide)
  have hp : IsParameters "(10, 2" := by
    refine fun c hc ↦ ⟨?_, ?_⟩
    · rintro rfl
      exact absurd hc (by decide)
    · rintro rfl
      exact absurd hc (by decide)
  have hs : IsRest " unsigned (zerofill)" := by
    rw [IsRest]
    decide
  have hv : "Numeric".toLower = "numeric".toLower := toLower_eq_iff.mpr (by decide)
  obtain ⟨hparameters, hrest, hfamily, -, -⟩ :=
    family_goes_by_first_word hw hv hp hs hbefore hafter
  have hnumeric : ofDeclaration "numeric" = .numeric := hfamily.trans (by decide)
  exact ⟨hparameters.trans hnumeric, hrest.trans hnumeric⟩

end Family

end SelectBuilder
