import SelectBuilder.Named
import SelectBuilder.Text.Blank
import SelectBuilder.Text.LetterCase
import SelectBuilder.Value.Comparison

/-! # Type families

The type of a column is declared in the words of its database. What matters for writing a literal
is the family of the type, and the family goes by the first word of the declaration: parameters
in parentheses, letter case and further words do not count.
-/

namespace SelectBuilder

inductive Family where
  | string
  | numeric
  | date
  | boolean
  | timestamp
deriving DecidableEq, Repr

namespace Family

instance : Named Family where
  all := [.string, .numeric, .date, .boolean, .timestamp]
  word
    | .string => "string"
    | .numeric => "numeric"
    | .date => "date"
    | .boolean => "boolean"
    | .timestamp => "timestamp"

def numericWords : List String :=
  ["int", "int2", "int4", "int8", "integer", "tinyint", "smallint", "mediumint", "bigint",
    "serial", "smallserial", "bigserial", "decimal", "numeric", "number", "real", "float",
    "float4", "float8", "double", "money", "smallmoney"]

def booleanWords : List String := ["bool", "boolean", "bit"]

def timestampWords : List String :=
  ["timestamp", "timestamptz", "datetime", "datetime2", "smalldatetime", "datetimeoffset", "time",
    "timetz"]

/-- The family of a type that is named by one word in lower case; an unknown word names text. -/
def ofWord (w : String) : Family :=
  if w ∈ numericWords then .numeric
  else if w ∈ booleanWords then .boolean
  else if w = "date" then .date
  else if w ∈ timestampWords then .timestamp
  else .string

/-- How many characters a parameter list takes up to its closing parenthesis. It may not run over
the end of a line. -/
def parameterLength? : List Char → Option Nat
  | [] => none
  | c :: s =>
    if c = ')' then some 1
    else if c = '\n' then none
    else (parameterLength? s).map (· + 1)

/-- Leave out the next `skip` characters, and from there on every parameter list. An opening
parenthesis without a closing one stays. -/
def dropParameters : Nat → List Char → List Char
  | _, [] => []
  | skip + 1, _ :: s => dropParameters skip s
  | 0, c :: s =>
    if c = '(' then
      match parameterLength? s with
      | some n => dropParameters n s
      | none => c :: dropParameters 0 s
    else c :: dropParameters 0 s

/-- The word that a declaration goes by. -/
def typeWord (declaration : String) : String :=
  String.ofList <| Text.firstWord <| Text.lowerFrom false <|
    dropParameters 0 declaration.toList

/-- The family of a declared type. -/
def ofDeclaration (declaration : String) : Family := ofWord (typeWord declaration)

/-- The family for each word that names one. -/
def ofWords : List (String × Family) :=
  numericWords.map (·, .numeric) ++ booleanWords.map (·, .boolean) ++ [("date", .date)] ++
    timestampWords.map (·, .timestamp)

/-- The family of a declared type, by the first of its words, which a declaration of parameters and
blanks alone does not have. -/
def classify (declaration : String) : Except Misfit Family := do
  let rest := Text.lowerFrom false (Text.trim (dropParameters 0 declaration.toList))
  if rest = [] then return .string
  let word ← demand (Text.words rest).head?
  return (ofWords.lookup (String.ofList word)).getD .string

/-- The family of the type declared for a column, if one is declared. -/
def declared? : Option String → Option Family
  | none => none
  | some s => if s = "" then none else some (ofDeclaration s)

/-- The family that a value declares. Whatever counts as no declares nothing, and of all else only a
text is a declaration. -/
def ofValue (v : Value) : Except Misfit (Option Family) :=
  if v.truth then
    match v with
    | .text s => .ok (some (ofDeclaration s))
    | _ => .error .wrongKind
  else .ok none

end Family

end SelectBuilder
