import SelectBuilder.Sql.Literal

/-!
# Reading the text of an operand

How a database reads a text of literals, one character after the other: what is quoted, and the
words and marks outside of quotes.  A quote inside of quotes is the end of them unless another one
follows, so the reader knows what it has read only by the next character, and a text that begins
with a quote must not come right behind one that is quoted.  Nothing here goes by how such texts are
written.
-/

namespace SelectBuilder

inductive Lexeme where
  | quoted (s : String)
  | word (s : String)
  | comma
  | opening
  | closing
deriving DecidableEq, Repr

/-- Whether a character in quotes takes the next one as it stands. -/
def Dialect.isEscape : Dialect → Char → Bool
  | .mysql, c => c = '\\'
  | _, _ => false

/-- What a reader has read, and where it is. -/
inductive LexState where
  /-- Outside of quotes, perhaps in a word. -/
  | outside (word : List Char)
  | inside (content : List Char)
  /-- Inside of quotes, behind a character that escapes the next one. -/
  | escaped (content : List Char)
  /-- Behind a quote that may be the closing one. -/
  | atQuote (content : List Char)

namespace LexState

/-- The word that ends here, if one has begun. -/
def ended (word : List Char) : List Lexeme :=
  if word = [] then [] else [.word (String.ofList word)]

/-- What a character stands for that ends a word. -/
def delimiter? (c : Char) : Option (LexState × List Lexeme) :=
  if c = '\x27' then some (.inside [], [])
  else if c = ',' then some (.outside [], [.comma])
  else if c = '(' then some (.outside [], [.opening])
  else if c = ')' then some (.outside [], [.closing])
  else if Text.isBlank c then some (.outside [], [])
  else none

/-- Whether a character is a part of a word. -/
def isWordChar (c : Char) : Bool := (delimiter? c).isNone

def stepOutside (word : List Char) (c : Char) : LexState × List Lexeme :=
  match delimiter? c with
  | some (state, lexemes) => (state, ended word ++ lexemes)
  | none => (.outside (word ++ [c]), [])

/-- Read one character. -/
def step (d : Dialect) : LexState → Char → LexState × List Lexeme
  | .outside word, c => stepOutside word c
  | .inside content, c =>
    if c = '\x27' then (.atQuote content, [])
    else if d.isEscape c then (.escaped content, [])
    else (.inside (content ++ [c]), [])
  | .escaped content, c => (.inside (content ++ [c]), [])
  | .atQuote content, c =>
    if c = '\x27' then (.inside (content ++ [c]), [])
    else
      let (state, lexemes) := stepOutside [] c
      (state, .quoted (String.ofList content) :: lexemes)

/-- What there is at the end of the text; quotes that are open have no meaning. -/
def finish? : LexState → Option (List Lexeme)
  | .outside word => some (ended word)
  | .atQuote content => some [.quoted (String.ofList content)]
  | .inside _ | .escaped _ => none

/-- Read what is left of a text. -/
def read? (d : Dialect) (state : LexState) : List Char → Option (List Lexeme)
  | [] => state.finish?
  | c :: s => (read? d (state.step d c).1 s).map ((state.step d c).2 ++ ·)

end LexState

/-- Read a text. -/
def Dialect.lex? (d : Dialect) (s : List Char) : Option (List Lexeme) :=
  LexState.read? d (.outside []) s

namespace LexState

variable (d : Dialect)

/-! ## Words -/

theorem isWordChar_iff {c : Char} :
    isWordChar c ↔ c ∉ ['\x27', ',', '(', ')'] ∧ Text.isBlank c = false := by
  grind [isWordChar, delimiter?]

/-- In a word there are none of the characters that end one. -/
theorem read?_wordChars {s : List Char} (h : s.all isWordChar) (word rest : List Char) :
    read? d (.outside word) (s ++ rest) = read? d (.outside (word ++ s)) rest := by
  induction s generalizing word with
  | nil => simp
  | cons c s ih =>
    obtain ⟨hc, hs⟩ := Bool.and_eq_true_iff.mp h
    rw [List.cons_append, read?, step, stepOutside, Option.isNone_iff_eq_none.mp hc, ih hs]
    simp

/-- A word ends where no other character of a word follows. -/
theorem read?_outside {word rest : List Char} (h : rest.head?.all fun c ↦ !isWordChar c) :
    read? d (.outside word) rest = (d.lex? rest).map (ended word ++ ·) := by
  cases rest with
  | nil => simp [Dialect.lex?, read?, finish?, ended]
  | cons c rest =>
    have hc : (delimiter? c).isNone = false := by simpa [isWordChar] using h
    obtain ⟨⟨state, lexemes⟩, hc⟩ := Option.isSome_iff_exists.mp (Option.isNone_eq_false_iff.mp hc)
    simp only [Dialect.lex?, read?, step, stepOutside, hc, Option.map_map]
    congr 1
    funext ls
    simp [ended]

/-! ## Quoted texts -/

theorem mem_stringMarks_iff {c : Char} : c ∈ d.stringMarks ↔ c = '\x27' ∨ d.isEscape c := by
  cases d <;> simp [Dialect.stringMarks, Dialect.isEscape]

/-- Written twice, the characters that are doubled stand for themselves, and so do all others. -/
theorem read?_doubled (content s rest : List Char) :
    read? d (.inside content) (Text.doubled d.stringMarks s ++ rest) =
      read? d (.inside (content ++ s)) rest := by
  induction s generalizing content with
  | nil => rw [Text.doubled_nil, List.nil_append, List.append_nil]
  | cons c s ih =>
    have hshift : content ++ c :: s = content ++ [c] ++ s := by simp
    by_cases hmark : c ∈ d.stringMarks
    · rw [Text.doubled_cons_of_mem _ hmark, hshift, ← ih]
      by_cases hquote : c = '\x27'
      · simp [read?, step, hquote]
      · have hescape := ((mem_stringMarks_iff d).mp hmark).resolve_left hquote
        simp [read?, step, hquote, hescape]
    · rw [Text.doubled_cons_of_not_mem _ hmark, hshift, ← ih]
      rw [mem_stringMarks_iff, not_or] at hmark
      simp [read?, step, hmark]

/-- A quoted text ends where no other quote follows. -/
theorem read?_atQuote {content rest : List Char} (h : rest.head? ≠ some '\x27') :
    read? d (.atQuote content) rest =
      (d.lex? rest).map (.quoted (String.ofList content) :: ·) := by
  cases rest with
  | nil => simp [Dialect.lex?, read?, finish?, ended]
  | cons c rest =>
    have hc : c ≠ '\x27' := by simpa using h
    simp only [Dialect.lex?, read?, step, if_neg hc, Option.map_map]
    rfl

end LexState

namespace Dialect

variable (d : Dialect)

open LexState

theorem lex?_delimiter (c : Char) (lexemes : List Lexeme) (rest : List Char)
    (h : delimiter? c = some (.outside [], lexemes)) :
    d.lex? (c :: rest) = (d.lex? rest).map (lexemes ++ ·) := by
  rw [lex?, read?, step, stepOutside, h]
  rfl

theorem lex?_word {s rest : List Char} (hs : s ≠ []) (hword : s.all isWordChar)
    (hrest : rest.head?.all fun c ↦ !isWordChar c) :
    d.lex? (s ++ rest) = (d.lex? rest).map (.word (String.ofList s) :: ·) := by
  rw [lex?, read?_wordChars d hword, List.nil_append, read?_outside d hrest, ended, if_neg hs]
  rfl

/-- A text that is quoted is read as it was, and its literal ends where it was closed, whatever
follows that is no quote. -/
theorem lex?_quoteString (s : String) {rest : List Char} (hrest : rest.head? ≠ some '\x27') :
    d.lex? ((d.quoteString s).toList ++ rest) = (d.lex? rest).map (.quoted s :: ·) := by
  rw [quoteString, Text.enclosed, String.toList_ofList, List.cons_append, List.cons_append,
    List.append_assoc, lex?, read?]
  have hopen : (LexState.outside []).step d '\x27' = (.inside [], []) := rfl
  rw [hopen, read?_doubled, List.nil_append, List.singleton_append, read?]
  have hclose : (LexState.inside s.toList).step d '\x27' = (.atQuote s.toList, []) := rfl
  rw [hclose, read?_atQuote d hrest, String.ofList_toList]
  simp [Function.comp_def]

end Dialect

/-! ## Literals -/

/-- Whether what follows does not carry a lexeme on. -/
def Lexeme.EndsBefore (rest : List Char) : Lexeme → Prop
  | .quoted _ => rest.head? ≠ some '\x27'
  | .word _ => rest.head?.all fun c ↦ !LexState.isWordChar c
  | _ => True

theorem Lexeme.endsBefore_nil (l : Lexeme) : l.EndsBefore [] := by
  cases l <;> simp [EndsBefore]

theorem Lexeme.endsBefore_cons {c : Char} (hquote : c ≠ '\x27') (hc : LexState.isWordChar c = false)
    (l : Lexeme) (rest : List Char) : l.EndsBefore (c :: rest) := by
  cases l <;> simp [EndsBefore, hquote, hc]

namespace Literal

/-- What a literal is read as. -/
def lexeme (d : Dialect) : Literal → Lexeme
  | .null => .word "NULL"
  | .boolean b => .word (d.booleanWord b)
  | .number s => .word s
  | .quoted s => .quoted s

/-- Whether nothing in the literal would end it before its end. -/
def IsWhole : Literal → Prop
  | .number s => s ≠ "" ∧ s.toList.all LexState.isWordChar
  | _ => True

variable (d : Dialect)

theorem lex?_text {l : Literal} (hl : l.IsWhole) (rest : List Char)
    (hrest : (l.lexeme d).EndsBefore rest) :
    d.lex? ((l.text d).toList ++ rest) = (d.lex? rest).map (l.lexeme d :: ·) := by
  have hword (s : String) (hne : s ≠ "") (hs : s.toList.all LexState.isWordChar)
      (hrest : (Lexeme.word s).EndsBefore rest) :
      d.lex? (s.toList ++ rest) = (d.lex? rest).map (.word s :: ·) := by
    rw [d.lex?_word (by simpa using hne) hs hrest, String.ofList_toList]
  cases l with
  | null => exact hword "NULL" (by decide) (by decide) hrest
  | boolean b =>
    exact hword (d.booleanWord b) (by cases d <;> cases b <;> decide)
      (by cases d <;> cases b <;> decide) hrest
  | number s => exact hword s hl.1 hl.2 hrest
  | quoted s => exact d.lex?_quoteString s hrest

/-- Literals with commas between them, up to a closing parenthesis. -/
theorem lex?_listed (ls : List Literal) (hls : ∀ l ∈ ls, l.IsWhole) (rest : List Char) :
    d.lex? ((", ".intercalate (ls.map (text d))).toList ++ ')' :: rest) =
      (d.lex? rest).map ((ls.map (lexeme d)).intersperse .comma ++ .closing :: ·) := by
  induction ls with
  | nil => exact d.lex?_delimiter ')' [.closing] rest rfl
  | cons l ls ih =>
    obtain ⟨hl, hls⟩ := List.forall_mem_cons.mp hls
    cases ls with
    | nil =>
      have h := lex?_text d hl (')' :: rest) (Lexeme.endsBefore_cons (by decide) (by decide) _ _)
      rw [d.lex?_delimiter ')' [.closing] rest rfl] at h
      simpa [Function.comp_def] using h
    | cons m ls =>
      have h := lex?_text d hl
        (',' :: ' ' :: ((", ".intercalate ((m :: ls).map (text d))).toList ++ ')' :: rest))
        (Lexeme.endsBefore_cons (by decide) (by decide) _ _)
      rw [d.lex?_delimiter ',' [.comma] _ rfl, d.lex?_delimiter ' ' [] _ rfl, ih hls] at h
      simpa [String.intercalate_cons_cons, Function.comp_def] using h

end Literal

namespace Operand

/-- What an operand is read as. -/
def lexemes (d : Dialect) : Operand → List Lexeme
  | .nothing => []
  | .one l => [l.lexeme d]
  | .list ls => .opening :: ((ls.map (Literal.lexeme d)).intersperse .comma ++ [.closing])
  | .range low high => [low.lexeme d, .word "AND", high.lexeme d]

/-- The text of an operand is read as the literals that it is made of, whatever follows that does
not carry on the last of them. -/
theorem lex?_text (d : Dialect) {o : Operand} (ho : ∀ l ∈ o.literals, l.IsWhole) {rest : List Char}
    (hrest : ∀ l ∈ (o.lexemes d).getLast?, l.EndsBefore rest) :
    d.lex? ((o.text d).toList ++ rest) = (d.lex? rest).map (o.lexemes d ++ ·) := by
  cases o with
  | nothing => exact Option.map_id'.symm
  | one l => exact Literal.lex?_text d (ho l (List.mem_singleton_self l)) rest (hrest _ rfl)
  | list ls =>
    have h := d.lex?_delimiter '(' [.opening]
      ((", ".intercalate (ls.map (Literal.text d))).toList ++ ')' :: rest) rfl
    rw [Literal.lex?_listed d ls ho] at h
    simpa [text, lexemes, Function.comp_def] using h
  | range low high =>
    obtain ⟨hlow, hhigh⟩ := List.forall_mem_cons.mp ho
    have hlast := Literal.lex?_text d (hhigh high (List.mem_singleton_self high)) rest
      (hrest _ rfl)
    have hand : d.lex? ("AND".toList ++ ' ' :: ((high.text d).toList ++ rest)) =
        (d.lex? rest).map (.word "AND" :: high.lexeme d :: ·) := by
      rw [d.lex?_word (s := "AND".toList) (by decide) (by decide)
          (Lexeme.endsBefore_cons (by decide) (by decide) (.word "AND") _),
        d.lex?_delimiter ' ' [] _ rfl, hlast]
      simp [Function.comp_def]
    have h := Literal.lex?_text d hlow
      (' ' :: ("AND".toList ++ ' ' :: ((high.text d).toList ++ rest)))
      (Lexeme.endsBefore_cons (by decide) (by decide) _ _)
    rw [d.lex?_delimiter ' ' [] _ rfl, hand] at h
    simpa [text, lexemes, Function.comp_def] using h

end Operand

end SelectBuilder
