/-! # Escaping by doubling

Inside quotes, a character that would end the quoted text or change its reading is written
twice. `doubled` writes, `undoubled` reads back.
-/

namespace SelectBuilder.Text

variable (marks : List Char)

/-- Write every character of `marks` twice. -/
def doubled : List Char → List Char
  | [] => []
  | c :: s => if c ∈ marks then c :: c :: doubled s else c :: doubled s

@[simp] theorem doubled_nil : doubled marks [] = [] := rfl

theorem doubled_cons_of_mem {c : Char} (h : c ∈ marks) (s : List Char) :
    doubled marks (c :: s) = c :: c :: doubled marks s := by
  simp [doubled, h]

theorem doubled_cons_of_not_mem {c : Char} (h : c ∉ marks) (s : List Char) :
    doubled marks (c :: s) = c :: doubled marks s := by
  simp [doubled, h]

/-- Read doubled characters back; a character of `marks` that stands alone is refused. -/
def undoubled : List Char → Option (List Char)
  | [] => some []
  | c :: s =>
    if c ∈ marks then
      match s with
      | d :: s => if d = c then (undoubled s).map (c :: ·) else none
      | [] => none
    else (undoubled s).map (c :: ·)

theorem undoubled_cons_of_mem {c : Char} (h : c ∈ marks) (s : List Char) :
    undoubled marks (c :: c :: s) = (undoubled marks s).map (c :: ·) := by
  simp [undoubled, h]

theorem undoubled_cons_of_not_mem {c : Char} (h : c ∉ marks) (s : List Char) :
    undoubled marks (c :: s) = (undoubled marks s).map (c :: ·) := by
  cases s <;> simp [undoubled, h]

theorem undoubled_doubled (s : List Char) : undoubled marks (doubled marks s) = some s := by
  induction s with
  | nil => rfl
  | cons c s ih =>
    by_cases h : c ∈ marks
    · rw [doubled_cons_of_mem marks h, undoubled_cons_of_mem marks h, ih, Option.map_some]
    · rw [doubled_cons_of_not_mem marks h, undoubled_cons_of_not_mem marks h, ih, Option.map_some]

/-- A text with every character of `marks` doubled, between an opening and a closing character. -/
def enclosed (opening closing : Char) (s : String) : String :=
  String.ofList (opening :: doubled marks s.toList ++ [closing])

end SelectBuilder.Text
