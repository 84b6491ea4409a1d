import SelectBuilder.Check
import SelectBuilder.Query.Written

/-! # Reading a query from its written form

Each part of a query is checked field by field; fields it does not have are ignored. `patch` reads
the changes to some fields of a part. The id of a part, and the tag of a member of the filter
tree, are no fields that can be changed.
-/

namespace SelectBuilder

open Checked (changes)

def Column.ofFields (fs : Fields) : Checked Column :=
  Column.mk <$> fs.required "name" Check.text <*> fs.optional "data_type" "" Check.text

namespace Table

def ofFields (fs : Fields) : Checked Table :=
  Table.mk <$> fs.required "alias" Check.text
    <*> fs.optional "schema_name" "" Check.text
    <*> fs.required "table_name" Check.text
    <*> fs.optional "columns" [] (Check.list (Check.fields "ColumnInfo" Column.ofFields))

end Table

def ColumnRef.ofFields (fs : Fields) : Checked ColumnRef :=
  ColumnRef.mk <$> fs.required "table_alias" Check.text <*> fs.required "column_name" Check.text

namespace Selection

def ofFields (fs : Fields) : Checked Selection :=
  Selection.mk <$> fs.required "id" Check.text
    <*> ColumnRef.ofFields fs
    <*> fs.optional "alias" none (Check.nullable Check.text)
    <*> fs.optional "aggregate" none (Check.nullable (Check.word Aggregate))
    <*> fs.optional "distinct" false Check.boolean

def patch (fs : Fields) : Checked (Selection → Selection) :=
  changes [
    fs.change "table_alias" Check.text fun v s => { s with source.table := v },
    fs.change "column_name" Check.text fun v s => { s with source.column := v },
    fs.change "alias" (Check.nullable Check.text) fun v s => { s with aliasName := v },
    fs.change "aggregate" (Check.nullable (Check.word Aggregate))
      fun v s => { s with aggregate := v },
    fs.change "distinct" Check.boolean fun v s => { s with distinct := v }]

end Selection

namespace Join

def ofFields (fs : Fields) : Checked Join :=
  (fun id kind leftTable leftColumn rightTable rightColumn comparison =>
      { id, kind, comparison
        left := ⟨leftTable, leftColumn⟩
        right := ⟨rightTable, rightColumn⟩ }) <$>
    fs.required "id" Check.text
    <*> fs.optional "join_type" .inner (Check.word JoinKind)
    <*> fs.required "left_alias" Check.text
    <*> fs.required "left_column" Check.text
    <*> fs.required "right_alias" Check.text
    <*> fs.required "right_column" Check.text
    <*> fs.optional "operator" .equal (Check.comparison .join)

def patch (fs : Fields) : Checked (Join → Join) :=
  changes [
    fs.change "join_type" (Check.word JoinKind) fun v j => { j with kind := v },
    fs.change "left_alias" Check.text fun v j => { j with left.table := v },
    fs.change "left_column" Check.text fun v j => { j with left.column := v },
    fs.change "right_alias" Check.text fun v j => { j with right.table := v },
    fs.change "right_column" Check.text fun v j => { j with right.column := v },
    fs.change "operator" (Check.comparison .join) fun v j => { j with comparison := v }]

end Join

namespace Condition

def ofFields (fs : Fields) : Checked Condition :=
  (fun (_ : Unit) => Condition.mk) <$> fs.optional "kind" () (Check.constant "condition")
    <*> fs.required "id" Check.text
    <*> ColumnRef.ofFields fs
    <*> fs.optional "operator" (.compare .equal) (Check.word Operator)
    <*> fs.optional "value" .null Check.any
    <*> fs.optional "value2" .null Check.any
    <*> fs.optional "values" [] (Check.list Check.any)

def ofValue : Value → Checked Condition := Check.fields "WhereCondition" ofFields

def patch (fs : Fields) : Checked (Condition → Condition) :=
  changes [
    fs.change "table_alias" Check.text fun v c => { c with subject.table := v },
    fs.change "column_name" Check.text fun v c => { c with subject.column := v },
    fs.change "operator" (Check.word Operator) fun v c => { c with operator := v },
    fs.change "value" Check.any fun v c => { c with value := v },
    fs.change "value2" Check.any fun v c => { c with upper := v },
    fs.change "values" (Check.list Check.any) fun v c => { c with values := v }]

end Condition

namespace ConditionGroup

mutual

def ofValue : Value → Checked ConditionGroup
  | .record fs =>
    (fun (_ : Unit) => ConditionGroup.mk) <$> Fields.optional fs "kind" () (Check.constant "group")
      <*> Fields.required fs "id" Check.text
      <*> Fields.optional fs "operator" .and (Check.word Connective)
      <*> Fields.optional fs "conditions" [] (Check.list Condition.ofValue)
      <*> nestedIn fs
  | _ => .fault (.notRecord "ConditionGroup")

/-- The nested groups among the fields of a group; without the field there are none. -/
def nestedIn : List (String × Value) → Checked (List ConditionGroup)
  | [] => .ok []
  | (name, v) :: fs => if name = "groups" then (listOf v).under "groups" else nestedIn fs

def listOf : Value → Checked (List ConditionGroup)
  | .list vs => itemsOf 0 vs
  | .set vs => itemsOf 0 vs
  | _ => .fault .notList

def itemsOf (position : Nat) : List Value → Checked (List ConditionGroup)
  | [] => .ok []
  | v :: vs => List.cons <$> (ofValue v).under (toString position) <*> itemsOf (position + 1) vs

end

def patch (fs : Fields) : Checked (ConditionGroup → ConditionGroup) :=
  changes [
    fs.change "operator" (Check.word Connective) fun v g => { g with connective := v },
    fs.change "conditions" (Check.list Condition.ofValue) fun v g => { g with conditions := v },
    fs.change "groups" listOf fun v g => { g with groups := v }]

end ConditionGroup

/-- Read a member of the filter tree, going by its tag. -/
def ConditionNode.ofValue : Value → Checked ConditionNode
  | .record fs =>
    match fs.lookup "kind" with
    | none => .fault .missingTag
    | some tag =>
      match tag with
      | .text "condition" => ConditionNode.condition <$> (Condition.ofFields fs).under "condition"
      | .text "group" =>
        ConditionNode.group <$> (ConditionGroup.ofValue (.record fs)).under "group"
      | tag => .fault (.unknownTag tag.display)
  | _ => .fault .untagged

namespace GroupFilter

def ofFields (fs : Fields) : Checked GroupFilter :=
  GroupFilter.mk <$> fs.required "id" Check.text
    <*> ColumnRef.ofFields fs
    <*> fs.required "aggregate" (Check.word Aggregate)
    <*> fs.optional "operator" .greater (Check.comparison .having)
    <*> fs.optional "value" .null Check.any

def patch (fs : Fields) : Checked (GroupFilter → GroupFilter) :=
  changes [
    fs.change "table_alias" Check.text fun v h => { h with subject.table := v },
    fs.change "column_name" Check.text fun v h => { h with subject.column := v },
    fs.change "aggregate" (Check.word Aggregate) fun v h => { h with aggregate := v },
    fs.change "operator" (Check.comparison .having) fun v h => { h with comparison := v },
    fs.change "value" Check.any fun v h => { h with value := v }]

end GroupFilter

namespace SortKey

def ofFields (fs : Fields) : Checked SortKey :=
  SortKey.mk <$> fs.required "id" Check.text
    <*> ColumnRef.ofFields fs
    <*> fs.optional "direction" .ascending (Check.word Direction)

def patch (fs : Fields) : Checked (SortKey → SortKey) :=
  changes [
    fs.change "table_alias" Check.text fun v k => { k with source.table := v },
    fs.change "column_name" Check.text fun v k => { k with source.column := v },
    fs.change "direction" (Check.word Direction) fun v k => { k with direction := v }]

end SortKey

def Column.ofValue : Value → Checked Column := Check.fields "ColumnInfo" Column.ofFields
def Table.ofValue : Value → Checked Table := Check.fields "QueryTable" Table.ofFields
def ColumnRef.ofValue : Value → Checked ColumnRef := Check.fields "GroupByClause" ColumnRef.ofFields
def Selection.ofValue : Value → Checked Selection :=
  Check.fields "SelectedColumn" Selection.ofFields
def Join.ofValue : Value → Checked Join := Check.fields "JoinClause" Join.ofFields
def GroupFilter.ofValue : Value → Checked GroupFilter :=
  Check.fields "HavingCondition" GroupFilter.ofFields
def SortKey.ofValue : Value → Checked SortKey := Check.fields "OrderByClause" SortKey.ofFields

namespace Query

def ofFields (fs : Fields) : Checked Query :=
  Query.mk <$> fs.optional "tables" [] (Check.list Table.ofValue)
    <*> fs.optional "columns" [] (Check.list Selection.ofValue)
    <*> fs.optional "joins" [] (Check.list Join.ofValue)
    <*> fs.optional "where" none (Check.nullable ConditionGroup.ofValue)
    <*> fs.optional "group_by" [] (Check.list ColumnRef.ofValue)
    <*> fs.optional "having" [] (Check.list GroupFilter.ofValue)
    <*> fs.optional "order_by" [] (Check.list SortKey.ofValue)
    <*> fs.optional "limit" none (Check.nullable Check.positive)
    <*> fs.optional "offset" none (Check.nullable Check.natural)
    <*> (Value.bool <$> fs.optional "distinct" false Check.boolean)

def ofValue : Value → Checked Query := Check.fields "QueryModel" ofFields

end Query

end SelectBuilder
