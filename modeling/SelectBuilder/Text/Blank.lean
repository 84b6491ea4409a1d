import SelectBuilder.Text.CharClass

/-! # Blanks

The spaces of Unicode are the characters with the property White_Space. A blank is one of them, or
one of the four separators U+001C to U+001F. Text is trimmed and split into words at blanks, and
where only spaces do not count, it is trimmed of those alone.
-/

namespace SelectBuilder.Text

def spaces : CharClass where
  ranges :=
    [(0x9, 0xD), (0x20, 0x20), (0x85, 0x85), (0xA0, 0xA0), (0x1680, 0x1680), (0x2000, 0x200A),
    (0x2028, 0x2029), (0x202F, 0x202F), (0x205F, 0x205F), (0x3000, 0x3000)]

def isSpace (c : Char) : Bool := spaces.has c

def isSeparator (c : Char) : Bool := 0x1C ≤ c.toNat && c.toNat ≤ 0x1F

def isBlank (c : Char) : Bool := isSpace c || isSeparator c

/-- Drop the characters of a kind at both ends. -/
def trimWhere (p : Char → Bool) (s : List Char) : List Char :=
  ((s.dropWhile p).reverse.dropWhile p).reverse

/-- Drop the blanks at both ends. -/
def trim (s : List Char) : List Char := trimWhere isBlank s

/-- The words of a text, given the part of a word that stands in front of it. -/
def wordsAfter (word : List Char) : List Char → List (List Char)
  | [] => if word = [] then [] else [word]
  | c :: s =>
    if isBlank c then
      if word = [] then wordsAfter [] s else word :: wordsAfter [] s
    else wordsAfter (word ++ [c]) s

/-- The words of a text, between blanks. -/
def words (s : List Char) : List (List Char) := wordsAfter [] s

/-- The characters up to the first blank, after the blanks at the front. -/
def firstWord (s : List Char) : List Char :=
  (s.dropWhile isBlank).takeWhile (!isBlank ·)

theorem firstWord_of_isBlank {c : Char} (h : isBlank c) (s : List Char) :
    firstWord (c :: s) = firstWord s := by
  simp [firstWord, h]

end SelectBuilder.Text
