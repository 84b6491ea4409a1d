import SelectBuilder.Sql.Dialect
import SelectBuilder.Value.Display

/-! # Pages

The clause that cuts a page out of the rows: how many rows to skip and how many to take. Both are
numbers of rows as a rule, but any value is written as it is; null stands for a bound not set.
-/

namespace SelectBuilder.Dialect

/-- The parts of a statement, with a space between one and the next. -/
def spaced (parts : List String) : String := " ".intercalate parts

def pageText (d : Dialect) (limit offset : Value) : String :=
  match d with
  | .sqlserver =>
    let skipped := "OFFSET " ++ (if offset.truth then offset.display else "0") ++ " ROWS"
    match limit, offset with
    | .null, .null => ""
    | .null, _ => spaced [skipped]
    | n, _ => spaced [skipped, "FETCH NEXT " ++ n.display ++ " ROWS ONLY"]
  | _ =>
    let bound (word : String) : Value → List String
      | .null => []
      | v => [word ++ " " ++ v.display]
    spaced (bound "LIMIT" limit ++ bound "OFFSET" offset)

end SelectBuilder.Dialect
