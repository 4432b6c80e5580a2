import ForumQuery.Sql.Fragment

/-!
# Rendering statements

The text of a statement with its parameters, from left to right.
-/

namespace ForumQuery.Sql

open Fragment

/-- The text of a column. -/
def Column.text (column : Column) : String := column.table ++ "." ++ column.name

/-- A list of placeholders, in brackets. -/
def renderParams (params : List Param) : Fragment :=
  plain "(" ++ separated ", " (params.map placeholder) ++ plain ")"

/-- Renders a side of a comparison. -/
def Operand.render : Operand → Fragment
  | column c => plain c.text
  | bound param => placeholder param

/-- The sign of a comparison. -/
def Comparison.sign : Comparison → String
  | equal => " = "
  | less => " < "
  | greater => " > "

/-- Renders a condition. -/
def Condition.render : Condition → Fragment
  | never => plain "FALSE"
  | flag negated column => plain ((if negated then "NOT " else "") ++ column.text)
  | isNull negated column => plain (column.text ++ (if negated then " IS NOT NULL" else " IS NULL"))
  | compare comparison left right => left.render ++ plain comparison.sign ++ right.render
  | oneOf column params => plain (column.text ++ " IN ") ++ renderParams params
  | someNull columns =>
    plain "(" ++ separated " OR " (columns.map fun column => plain (column.text ++ " IS NULL"))
      ++ plain ")"
  | notSelected column column' key params =>
    plain (column.text ++ " NOT IN (SELECT " ++ column'.text ++ " FROM " ++ column'.table ++ " WHERE "
      ++ key.text ++ " IN ") ++ renderParams params ++ plain ")"

/-- Renders conditions that must all hold. -/
def renderAll (conditions : List Condition) : Fragment :=
  separated " AND " (conditions.map Condition.render)

/-- The words for a kind of join. -/
def JoinKind.text : JoinKind → String
  | inner => "INNER JOIN "
  | left => "LEFT JOIN "

/-- Renders a join. -/
def Join.render (join : Join) : Fragment :=
  plain (join.kind.text ++ join.table ++ (join.label.elim "" (" " ++ ·)) ++ " ON ")
    ++ renderAll join.conditions

/-- Renders a selection. -/
def Select.render (select : Select) : Fragment :=
  plain ("SELECT " ++ (if select.distinct then "DISTINCT " else "") ++ "topics.* FROM topics")
    ++ concat (select.joins.map fun join => plain " " ++ join.render)
    ++ (if select.conditions = [] then plain "" else plain " WHERE " ++ renderAll select.conditions)

end ForumQuery.Sql
