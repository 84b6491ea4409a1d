import Mathlib.Data.List.Forall2
import SelectBuilder.Proofs.Literal.Lexing
import SelectBuilder.Proofs.Literal.NumberText

/-!
# Values stay in their literals

However a value is typed and compared, the text of its operand is read as one literal for each of
the items that the operator asks for, with no more than commas, parentheses and one `AND` between
them.  No literal takes in a part of what follows, and none leaves a part of itself behind.

What is to be read is said of values and lexemes here, and not of the literals in between.  The
argument is that a literal is safe by its form: in quotes by the doubling of marks, as a word by the
characters that it is made of.  So all that there is to show of a value is which form it takes
(`represents_ofValue`): a word where its text is one that fits the family, and quotes otherwise.
-/

namespace SelectBuilder

/-! ## What a value may be read as -/

/-- The text of a date or a time in its standard form. -/
def Value.isoText? : Value → Option String
  | .date d => some d.text
  | .datetime t => some t.isoText
  | .time t => some t.text
  | _ => none

/-- The text that is quoted for a value. -/
def Value.quotable (family : Family) (v : Value) : String :=
  match family with
  | .date | .timestamp => v.isoText?.getD v.display
  | .string | .numeric | .boolean =>
    match v with
    | .bool b => if b then "true" else "false"
    | v => v.display

/-- The text of a value without the blanks around it. -/
def Value.trimmed (v : Value) : List Char := Text.trim v.display.toList

/-- Whether a value is no binary number with more bits than any has. -/
def Value.IsPrecise : Value → Prop
  | .float x => x.IsPrecise
  | _ => True

/-- The truth value that the text of a value is a word for. -/
def Value.wordTruth? (v : Value) : Option Bool :=
  Literal.wordTruth? (Text.lower (String.ofList v.trimmed))

/-- What a value of a family is read as, when it is not null: a word where it fits the family, and
otherwise a quoted text. -/
inductive Stands (d : Dialect) : Family → Value → Lexeme → Prop where
  | boolean {v : Value} {b : Bool} (htruth : v.wordTruth? = some b) :
      Stands d .boolean v (.word (d.booleanWord b))
  | number {v : Value} (hparts : Numeral.IsNumberText v.trimmed)
      (hfree : ∀ c ∈ v.trimmed, c ∉ ['\x27', ',', '(', ')'] ∧ Text.isBlank c = false)
      (hnumeral : v.IsPrecise → (Numeral.read? v.trimmed).isSome) :
      Stands d .numeric v (.word (String.ofList v.trimmed))
  | quoted {family : Family} {v : Value} (htruth : family = .boolean → v.wordTruth? = none)
      (hnumeral : family = .numeric → Numeral.read? v.trimmed = none) :
      Stands d family v (.quoted (v.quotable family))

/-- Whether a lexeme is a literal for a value; the null literal is one for null and for nothing
else. -/
structure IsLiteralFor (d : Dialect) (family : Family) (v : Value) (l : Lexeme) : Prop where
  eq_null_iff : l = .word "NULL" ↔ v = .null
  stands : v ≠ .null → Stands d family v l

/-- The shape of an operand: a literal for each item that the operator asks for. -/
def IsOperandFor (d : Dialect) (family : Value → Family) (operator : Operator) (v : Value)
    (ls : List Lexeme) : Prop :=
  match operator with
  | .isNull | .isNotNull => ls = []
  | .isIn | .notIn =>
    ∃ literals, List.Forall₂ (fun item ↦ IsLiteralFor d (family item) item) (Operand.items v)
        literals ∧
      ls = .opening :: (literals.intersperse .comma ++ [.closing])
  | .between =>
    ∃ low high, IsLiteralFor d (family (Operand.bounds v).1) (Operand.bounds v).1 low ∧
      IsLiteralFor d (family (Operand.bounds v).2) (Operand.bounds v).2 high ∧
      ls = [low, .word "AND", high]
  | _ => ∃ l, IsLiteralFor d (family v) v l ∧ ls = [l]

/-! ## Literals -/

theorem Numeral.free_of_isPart {c : Char} (h : Numeral.isPart c) :
    c ∉ ['\x27', ',', '(', ')'] ∧ Text.isBlank c = false := by
  refine ⟨fun hmem ↦ ?_, isBlank_eq_false_of_isPart h⟩
  have hmarks : ['\x27', ',', '(', ')'].all fun c ↦ !Numeral.isPart c := by decide +kernel
  have hmark := List.all_eq_true.mp hmarks c hmem
  simp [h] at hmark

variable (d : Dialect) {v : Value}

theorem Stands.ne_null {d : Dialect} {family : Family} {l : Lexeme} (h : Stands d family v l) :
    l ≠ .word "NULL" := by
  cases h with
  | @boolean _ b => cases d <;> cases b <;> decide
  | quoted => exact Lexeme.noConfusion
  | number hparts =>
    intro hnull
    have htext : v.trimmed = "NULL".toList := by
      rw [← Lexeme.word.inj hnull, String.toList_ofList]
    have hpart := hparts.2 'N' (htext ▸ by decide)
    revert hpart
    decide +kernel

/-- A literal is one for a value, and is read as a whole. -/
structure Represents (family : Family) (v : Value) (l : Literal) : Prop where
  whole : l.IsWhole
  isLiteralFor : IsLiteralFor d family v (l.lexeme d)

theorem represents_of_stands {family : Family} {l : Literal} (hv : v ≠ .null) (hl : l.IsWhole)
    (h : Stands d family v (l.lexeme d)) : Represents d family v l where
  whole := hl
  isLiteralFor := ⟨iff_of_false h.ne_null hv, fun _ ↦ h⟩

theorem represents_number (hv : v ≠ .null) (hparts : Numeral.IsNumberText v.trimmed)
    (hnumeral : v.IsPrecise → (Numeral.read? v.trimmed).isSome) :
    Represents d .numeric v (.number (String.ofList v.trimmed)) := by
  have hfree : ∀ c ∈ v.trimmed, c ∉ ['\x27', ',', '(', ')'] ∧ Text.isBlank c = false :=
    fun c hc ↦ Numeral.free_of_isPart (hparts.2 c hc)
  have hchars : v.trimmed.all LexState.isWordChar :=
    List.all_eq_true.mpr fun c hc ↦ LexState.isWordChar_iff.mpr (hfree c hc)
  refine represents_of_stands d hv ⟨fun hempty ↦ hparts.1 ?_, ?_⟩ (.number hparts hfree hnumeral)
  · simpa using hempty
  · rwa [String.toList_ofList]

/-- A number that is written by itself has no blanks around it. -/
theorem represents_display {s : List Char} (hv : v ≠ .null) (hs : v.display = String.ofList s)
    (hparts : Numeral.IsNumberText s) (hnumeral : v.IsPrecise → (Numeral.read? s).isSome) :
    Represents d .numeric v (.number v.display) := by
  have htrimmed : v.trimmed = s := by
    rw [Value.trimmed, hs, String.toList_ofList, hparts.trim_eq]
  rw [hs, ← htrimmed]
  exact represents_number d hv (htrimmed ▸ hparts) (htrimmed ▸ hnumeral)

theorem represents_ofText {family : Family} (hv : v ≠ .null) (hdate : family ≠ .date)
    (htimestamp : family ≠ .timestamp) (htruth : family = .boolean → v.wordTruth? = none)
    (hnumeral : family = .numeric → Numeral.read? v.trimmed = none) :
    Represents d family v (Literal.ofText v) := by
  have h : Literal.ofText v = .quoted (v.quotable family) := by
    cases family <;> first | contradiction | (cases v <;> rfl)
  rw [h]
  exact represents_of_stands d hv trivial (.quoted htruth hnumeral)

/-- A number is quoted only where its text is no numeral. -/
theorem represents_ofNumber (hv : v ≠ .null) : Represents d .numeric v (Literal.ofNumber v) := by
  have htext (h : Numeral.read? v.trimmed = none) : Represents d .numeric v (Literal.ofText v) :=
    represents_ofText d hv (by decide) (by decide) (fun h ↦ nomatch h) fun _ ↦ h
  unfold Literal.ofNumber
  split
  next n =>
    have hread := Numeral.isSome_read?_int n
    exact represents_display d hv (String.ofList_toList).symm
      (Numeral.isNumberText_of_isSome_read? hread) fun _ ↦ hread
  next x =>
    split
    next hx =>
      exact represents_display d (v := .float x) hv rfl (Binary64.isNumberText_chars hx)
        (Binary64.isSome_read?_chars hx)
    next hx => exact htext (Binary64.read?_trim_text (by simpa using hx))
  next x =>
    split
    next hx =>
      have hread := Decimal.isSome_read?_chars hx
      exact represents_display d (v := .decimal x) hv rfl
        (Numeral.isNumberText_of_isSome_read? hread) fun _ ↦ hread
    next hx => exact htext (Decimal.read?_trim_text (by simpa using hx))
  next b => exact htext (by cases b <;> decide +kernel)
  next =>
    dsimp only
    split
    next hread =>
      exact represents_number d hv (Numeral.isNumberText_of_isSome_read? hread) fun _ ↦ hread
    next hread => exact htext (Option.not_isSome_iff_eq_none.mp hread)

theorem represents_ofBoolean (hv : v ≠ .null) : Represents d .boolean v (Literal.ofBoolean v) := by
  unfold Literal.ofBoolean
  split
  next b => exact represents_of_stands d hv trivial (.boolean (by cases b <;> decide +kernel))
  next =>
    split
    next b hb => exact represents_of_stands d hv trivial (.boolean hb)
    next hnone =>
      exact represents_ofText d hv (by decide) (by decide) (fun _ ↦ hnone) fun h ↦ nomatch h

theorem represents_ofTemporal {family : Family} (hv : v ≠ .null)
    (hfamily : family = .date ∨ family = .timestamp) :
    Represents d family v (Literal.ofTemporal v) := by
  have h : Literal.ofTemporal v = .quoted (v.quotable family) := by
    rcases hfamily with rfl | rfl <;> cases v <;> rfl
  rw [h]
  refine represents_of_stands d hv trivial (.quoted ?_ ?_)
  all_goals
    rintro rfl
    simp at hfamily

theorem represents_ofFamily (family : Family) (hv : v ≠ .null) :
    Represents d family v (Literal.ofFamily family v) := by
  cases family with
  | numeric => exact represents_ofNumber d hv
  | boolean => exact represents_ofBoolean d hv
  | date => exact represents_ofTemporal d hv (.inl rfl)
  | timestamp => exact represents_ofTemporal d hv (.inr rfl)
  | string =>
    exact represents_ofText d hv (by decide) (by decide) (fun h ↦ nomatch h) fun h ↦ nomatch h

/-- Every value has a literal that stands for it. -/
theorem represents_ofValue (family : Option Family) (v : Value) :
    Represents d (family.getD (Literal.familyOf v)) v (Literal.ofValue family v) := by
  by_cases hv : v = .null
  · subst hv
    exact ⟨trivial, iff_of_true rfl rfl, fun h ↦ absurd rfl h⟩
  · have h : Literal.ofValue family v = Literal.ofFamily (family.getD (Literal.familyOf v)) v := by
      cases v <;> first | contradiction | rfl
    rw [h]
    exact represents_ofFamily d _ hv

/-! ## Operands -/

namespace Operand

/-- The family that an item is taken to be of. -/
def itemFamily (operator : Operator) (declared : Option String) (item : Value) : Family :=
  (familyFor operator (Family.declared? declared)).getD (Literal.familyOf item)

theorem whole_of_mem_literals (operator : Operator) (family : Option Family) (v : Value) :
    ∀ l ∈ (ofValue operator family v).literals, l.IsWhole := by
  have h (item : Value) : (Literal.ofValue (familyFor operator family) item).IsWhole :=
    (represents_ofValue .postgres _ item).whole
  cases operator <;> simp [ofValue, literals, h]

theorem isOperandFor_lexemes (operator : Operator) (declared : Option String) (v : Value) :
    IsOperandFor d (itemFamily operator declared) operator v
      ((ofValue operator (Family.declared? declared) v).lexemes d) := by
  have h (item : Value) : IsLiteralFor d (itemFamily operator declared item) item
      ((Literal.ofValue (familyFor operator (Family.declared? declared)) item).lexeme d) :=
    (represents_ofValue d _ item).isLiteralFor
  have hlist : List.Forall₂ (fun item ↦ IsLiteralFor d (itemFamily operator declared item) item)
      (items v) (((items v).map
        (Literal.ofValue (familyFor operator (Family.declared? declared)))).map
          (Literal.lexeme d)) := by
    rw [List.forall₂_map_right_iff, List.forall₂_map_right_iff, List.forall₂_same]
    intro item _
    exact h item
  cases operator with
  | isNull | isNotNull => exact rfl
  | isIn | notIn => exact ⟨_, hlist, rfl⟩
  | between => exact ⟨_, _, h _, h _, rfl⟩
  | compare | like | notLike => exact ⟨_, h v, rfl⟩

theorem ofTyped_declared (operator : Operator) (declared : Option String) (v : Value) :
    ofTyped operator ((declared.map Value.text).getD .null) v =
      .ok (ofValue operator (Family.declared? declared) v) := by
  have h : Family.ofValue ((declared.map Value.text).getD .null) =
      .ok (Family.declared? declared) := by
    cases declared with
    | none => rfl
    | some s => by_cases hs : s = "" <;> simp [Family.ofValue, Family.declared?, Value.truth, hs]
  rw [ofTyped, h]

/-- No value breaks out of its literal.

For every operator, every declared type or none, and every value there is an operand, and its text
is read as one literal for each item, in the shape that the operator asks for.  This is so whatever
comes behind the text, as long as that does not carry on its last literal: behind quotes, anything
but another quote.  The items of a pattern are texts whatever type is declared, and without a type
each item is of the family that it belongs to by itself. -/
theorem text_reads_as_literals (operator : Operator) (declared : Option String) (v : Value) :
    ∃ o ls, ofTyped operator ((declared.map Value.text).getD .null) v = .ok o ∧
      IsOperandFor d (itemFamily operator declared) operator v ls ∧
      (ls = [] → o.text d = "") ∧
      ∀ rest, (∀ l ∈ ls.getLast?, l.EndsBefore rest) →
        d.lex? ((o.text d).toList ++ rest) = (d.lex? rest).map (ls ++ ·) := by
  refine ⟨_, _, ofTyped_declared operator declared v, isOperandFor_lexemes d operator declared v,
    fun h ↦ ?_, fun rest ↦ lex?_text d (whole_of_mem_literals operator _ v)⟩
  cases operator <;> first | rfl | cases h

/-- Quotes and backslashes next to each other, alone and at the end, and items without quotes. -/
def markedItems : Value :=
  .list [.text "it''s \\' or", .null, .int (-1), .bool true, .text "\\"]

theorem text_reads_of_markedItems :
    ∃ o, ofTyped .isIn .null markedItems = .ok o ∧
      o.text .mysql = "('it''''s \\\\'' or', NULL, -1, true, '\\\\')" ∧
      Dialect.mysql.lex? ((o.text .mysql).toList ++ "'x'".toList) =
        some [.opening, .quoted "it''s \\' or", .comma, .word "NULL", .comma, .word "-1", .comma,
          .word "true", .comma, .quoted "\\", .closing, .quoted "x"] := by
  obtain ⟨o, ls, ho, -, -, hread⟩ := text_reads_as_literals .mysql .isIn none markedItems
  have htext : o.text .mysql = "('it''''s \\\\'' or', NULL, -1, true, '\\\\')" := by
    obtain rfl : ofValue .isIn none markedItems = o := Except.ok.inj ho
    decide +kernel
  have hls : some ls = some [.opening, .quoted "it''s \\' or", .comma, .word "NULL", .comma,
      .word "-1", .comma, .word "true", .comma, .quoted "\\", .closing] := by
    have h := hread [] fun l _ ↦ l.endsBefore_nil
    rw [htext] at h
    have hend : Dialect.mysql.lex? [] = some [] := rfl
    rw [hend, Option.map_some, List.append_nil, List.append_nil] at h
    rw [← h]
    decide +kernel
  cases hls
  refine ⟨o, ho, htext, ?_⟩
  rw [hread _ (by rintro _ ⟨⟩; exact trivial)]
  decide +kernel

end Operand

end SelectBuilder
