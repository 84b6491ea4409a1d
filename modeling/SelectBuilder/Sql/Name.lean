import SelectBuilder.Query.Basic
import SelectBuilder.Sql.Reserved
import SelectBuilder.Text.LetterCase

/-! # Names

A name is written as it stands where it is a plain word, and quoted otherwise. A plain word is in
lower case, is not reserved, consists of letters, digits, `_` and `$`, and starts with neither a
digit nor `$`. Letters are those of ASCII and the two others whose capitals are among those; one
line break after the word is let pass.
-/

namespace SelectBuilder.Dialect

def isNameChar (c : Char) : Bool :=
  c.isAlphanum || c ∈ ['_', '$', '\u0131', '\u017f', '\u0130', '\u212a']

/-- Take one line break off the end. -/
def dropFinalBreak (s : List Char) : List Char :=
  if s.getLast? = some '\n' then s.dropLast else s

/-- Whether a name consists of the characters of a word. -/
def isNameText (s : List Char) : Bool :=
  let body := dropFinalBreak s
  !body.isEmpty && body.all isNameChar

def startsLikeName : List Char → Bool
  | [] => false
  | c :: _ => !c.isDigit && c ≠ '$'

/-- Whether a name is a plain word of a dialect. -/
def isPlain (d : Dialect) (name : String) : Bool :=
  let lower := Text.lower name
  startsLikeName name.toList && isNameText name.toList && lower = name && !d.reserved.contains lower

/-- The name that a value is. Only a text is one, and of a value that cannot be looked up it cannot
even be asked. -/
def readName : Value → Except Misfit String
  | .text s => .ok s
  | v => .error (if v.isKey then .lacking else .wrongKind)

def quoteName (d : Dialect) (name : String) : String :=
  if d.isPlain name then name
  else Text.enclosed d.nameMarks d.nameQuotes.1 d.nameQuotes.2 name

/-- A name in a schema, or by itself if the name of the schema is empty. -/
def qualifiedTable (d : Dialect) (schema name : String) : String :=
  if schema = "" then d.quoteName name else d.quoteName schema ++ "." ++ d.quoteName name

def qualifiedColumn (d : Dialect) (r : ColumnRef) : String :=
  d.quoteName r.table ++ "." ++ d.quoteName r.column

/-- A table with its alias, as it stands in FROM. -/
def tableText (d : Dialect) (t : Table) : String :=
  d.qualifiedTable t.schema t.name ++ " AS " ++ d.quoteName t.aliasName

end SelectBuilder.Dialect
