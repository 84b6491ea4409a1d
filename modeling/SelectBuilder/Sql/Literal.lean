import SelectBuilder.Query.Vocabulary
import SelectBuilder.Schema.Family
import SelectBuilder.Sql.Dialect
import SelectBuilder.Value.Display

/-! # Literals

A value is written as a literal of the family of its column, and where it does not fit the family,
as a quoted text; so there is a literal for every value. The choice of the literal is the same in
all dialects, only its text differs.
-/

namespace SelectBuilder

inductive Literal where
  | null
  | boolean (b : Bool)
  | number (text : String)
  | quoted (text : String)
deriving DecidableEq, Repr

namespace Literal

def text (d : Dialect) : Literal → String
  | .null => "NULL"
  | .boolean b => d.booleanWord b
  | .number s => s
  | .quoted s => d.quoteString s

def trueWords : List String := ["true", "t", "1", "yes", "y"]

def falseWords : List String := ["false", "f", "0", "no", "n"]

/-- A quoted text; a truth value is written in lower case. -/
def ofText : Value → Literal
  | .bool b => .quoted (if b then "true" else "false")
  | v => .quoted v.display

/-- A number, or a text that is a numeral when the blanks around it are taken off. -/
def ofNumber : Value → Literal
  | .int n => .number (toString n)
  | .float x => if x.isFinite then .number x.text else .quoted x.text
  | .decimal d => if d.isFinite then .number d.text else .quoted d.text
  | .bool b => ofText (.bool b)
  | v =>
    let s := Text.trim v.display.toList
    if (Numeral.read? s).isSome then .number (String.ofList s) else ofText v

/-- The truth value that a word stands for. -/
def wordTruth? (w : String) : Option Bool :=
  if w ∈ trueWords then some true else if w ∈ falseWords then some false else none

/-- A truth value, or a text that is one of the words for it. -/
def ofBoolean : Value → Literal
  | .bool b => .boolean b
  | v =>
    match wordTruth? (Text.lower (String.ofList (Text.trim v.display.toList))) with
    | some b => .boolean b
    | none => ofText v

/-- A date or a time. -/
def ofTemporal : Value → Literal
  | .datetime t => .quoted t.isoText
  | v => .quoted v.display

/-- The family that a value belongs to by itself. -/
def familyOf : Value → Family
  | .bool _ => .boolean
  | .int _ | .float _ | .decimal _ => .numeric
  | .datetime _ => .timestamp
  | .date _ => .date
  | _ => .string

/-- The literal for a value of a column of a given family. -/
def ofFamily (family : Family) (v : Value) : Literal :=
  match family with
  | .numeric => ofNumber v
  | .boolean => ofBoolean v
  | .date | .timestamp => ofTemporal v
  | .string => ofText v

/-- The literal for a value; without a family, the value's own counts. -/
def ofValue (family : Option Family) (v : Value) : Literal :=
  match v with
  | .null => .null
  | v => ofFamily (family.getD (familyOf v)) v

/-- The literal for a value of a column whose type is declared by a value. -/
def ofTyped (type v : Value) : Except Misfit Literal :=
  match v with
  | .null => .ok .null
  | v => (Family.ofValue type).map fun family => ofValue family v

end Literal

/-- The text that a value is, to be escaped. Only a text is one; parts of dates and times can be
replaced as well, but by numbers. -/
def Dialect.readString : Value → Except Misfit String
  | .text s => .ok s
  | .date _ | .datetime _ | .time _ => .error .wrongKind
  | _ => .error .lacking

/-- The right-hand side of an operator. -/
inductive Operand where
  | nothing
  | one (l : Literal)
  | list (ls : List Literal)
  | range (low high : Literal)
deriving DecidableEq, Repr

namespace Operand

def text (d : Dialect) : Operand → String
  | .nothing => ""
  | .one l => l.text d
  | .list ls => "(" ++ ", ".intercalate (ls.map (Literal.text d)) ++ ")"
  | .range low high => low.text d ++ " AND " ++ high.text d

/-- The items that a value stands for as a list. -/
def items : Value → List Value
  | .null => []
  | .list vs => vs
  | .set vs => Value.sorted vs
  | v => [v]

/-- The ends that a value stands for as a range; an end that is not there is null. -/
def bounds : Value → Value × Value
  | .list (low :: high :: _) => (low, high)
  | .list [low] => (low, .null)
  | .list [] => (.null, .null)
  | v => (v, .null)

/-- The family that counts for an operator: patterns are texts whatever the column is. -/
def familyFor (operator : Operator) (family : Option Family) : Option Family :=
  match operator with
  | .like | .notLike => some .string
  | _ => family

/-- The operand that a value stands for, in the shape that the operator asks for. -/
def ofValue (operator : Operator) (family : Option Family) (v : Value) : Operand :=
  let literal := Literal.ofValue (familyFor operator family)
  match operator with
  | .isNull | .isNotNull => .nothing
  | .isIn | .notIn => .list ((items v).map literal)
  | .between => .range (literal (bounds v).1) (literal (bounds v).2)
  | _ => .one (literal v)

/-- The literals that an operand is made of. -/
def literals : Operand → List Literal
  | .nothing => []
  | .one l => [l]
  | .list ls => ls
  | .range low high => [low, high]

/-- Whether the declared type has a say in the operand: null is written the same for every type,
and so is a pattern. -/
def dependsOnType (o : Operand) (operator : Operator) : Bool :=
  operator ≠ .like && operator ≠ .notLike && o.literals.any (· ≠ .null)

/-- The operand for a column whose type is declared by a value, which has to make sense only where
it has a say. -/
def ofTyped (operator : Operator) (type v : Value) : Except Misfit Operand :=
  match Family.ofValue type with
  | .ok family => .ok (ofValue operator family v)
  | .error misfit =>
    let o := ofValue operator none v
    if o.dependsOnType operator then .error misfit else .ok o

end Operand

end SelectBuilder
