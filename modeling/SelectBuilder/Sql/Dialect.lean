import SelectBuilder.Named
import SelectBuilder.Text.Doubling

/-! # Dialects of SQL

The databases that a query is rendered for, and the characters they quote with.
-/

namespace SelectBuilder

inductive Dialect where
  | postgres
  | mysql
  | sqlite
  | sqlserver
deriving DecidableEq, Repr

namespace Dialect

def word : Dialect → String
  | .postgres => "postgres"
  | .mysql => "mysql"
  | .sqlite => "sqlite"
  | .sqlserver => "sqlserver"

instance : Named Dialect := ⟨[.postgres, .mysql, .sqlite, .sqlserver], word⟩

@[simp] theorem read?_word (d : Dialect) : Named.read? d.word = some d := by
  cases d <;> decide

/-- The characters that are doubled inside a string literal: the quote, and the escape character
of the dialect if it has one. -/
def stringMarks : Dialect → List Char
  | .mysql => ['\x27', '\\']
  | _ => ['\x27']

/-- The characters around a quoted name. -/
def nameQuotes : Dialect → Char × Char
  | .mysql => ('\x60', '\x60')
  | .sqlserver => ('[', ']')
  | _ => ('\x22', '\x22')

/-- The characters that are doubled inside a quoted name. Where statements are templates, the
percent sign is one of them. -/
def nameMarks : Dialect → List Char
  | .postgres => ['\x22', '%']
  | .mysql => ['\x60', '%']
  | .sqlite => ['\x22']
  | .sqlserver => [']']

/-- Whether a page can be taken only from rows that have an order. -/
def pagingNeedsOrder : Dialect → Bool
  | .sqlserver => true
  | _ => false

/-- The inside of a string literal. -/
def escapeString (d : Dialect) (s : String) : String :=
  String.ofList (Text.doubled d.stringMarks s.toList)

def quoteString (d : Dialect) (s : String) : String :=
  Text.enclosed d.stringMarks '\x27' '\x27' s

def booleanWord : Dialect → Bool → String
  | .sqlserver, b => if b then "1" else "0"
  | _, b => if b then "true" else "false"

end Dialect

end SelectBuilder
