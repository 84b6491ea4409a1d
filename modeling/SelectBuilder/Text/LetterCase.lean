import SelectBuilder.Text.LetterCase.Table

/-! # Lower case

The full Unicode mapping: one character may become two, and a capital sigma becomes a final one
when it ends a word. It ends a word when a cased letter stands before it and none after it,
characters that are ignorable for case being skipped on both sides.
-/

namespace SelectBuilder.Text

open LetterCase

/-- The lower case of a character that has one of its own, whatever its neighbours are. -/
def lowerChar (c : Char) : Char :=
  if c.toNat < 0x80 then c.toLower
  else ((runs.findSome? (·.lower? c.toNat)).map Char.ofNat).getD c

/-- Whether the next letter that counts is a cased one. -/
def casedAhead (s : List Char) : Bool :=
  match s.dropWhile caseIgnorable.has with
  | [] => false
  | c :: _ => cased.has c

/-- Whether a cased letter precedes what follows `c`, given whether one precedes `c`. -/
def casedAfter (c : Char) (before : Bool) : Bool :=
  if caseIgnorable.has c then before else cased.has c

def lowerOf (c : Char) (before : Bool) (rest : List Char) : List Char :=
  if c = '\u03a3' then if before && !casedAhead rest then ['\u03c2'] else ['\u03c3']
  else if c = '\u0130' then ['i', '\u0307']
  else [lowerChar c]

def lowerFrom (before : Bool) : List Char → List Char
  | [] => []
  | c :: s => lowerOf c before s ++ lowerFrom (casedAfter c before) s

def lower (s : String) : String :=
  String.ofList (lowerFrom false s.toList)

end SelectBuilder.Text
