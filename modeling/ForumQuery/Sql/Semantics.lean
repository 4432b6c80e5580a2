import ForumQuery.Sql.Database

/-!
# What statements select

A selection starts from the rows of topics.  Each join extends a combination of rows by every row of
its table that meets the join's conditions; a left join that finds none extends it by a row of
nulls.  Of the combinations that meet the conditions the rows of topics are given, and if the
selection is distinct each of them once.

A condition is true, false or unknown.  A comparison with null is unknown, and only what is true is
selected.
-/

namespace ForumQuery.Sql

/-- The truth value of a condition; `none` is unknown. -/
abbrev Truth := Option Bool

/-- A row of topics, and the rows joined to it under the names of their tables or their labels. -/
structure Combination where
  topic : TopicRow
  joined : List (String × Row) := []

/-- The value of a parameter. -/
def Param.value : Param → Value
  | int n => .int n
  | timestamp now => .timestamp now

namespace Combination

/-- The row of a name. -/
def row (combination : Combination) (name : String) : Row :=
  if name = "topics" then combination.topic.cells
  else ((combination.joined.find? (·.1 = name)).map (·.2)).getD fun _ => none

/-- The cell of a column. -/
def cell (combination : Combination) (column : Column) : Cell :=
  combination.row column.table column.name

/-- The combination with one more row. -/
def extend (combination : Combination) (name : String) (row : Row) : Combination :=
  { combination with joined := combination.joined ++ [(name, row)] }

end Combination

/-- The cell that a side of a comparison stands for. -/
def Operand.cell (combination : Combination) : Operand → Cell
  | column c => combination.cell c
  | bound param => some param.value

/-- One value lies before another of its kind. -/
def Value.before : Value → Value → Bool
  | int m, int n => m < n
  | timestamp s, timestamp t => s < t
  | _, _ => false

/-- How two values compare. -/
def Comparison.holds : Comparison → Value → Value → Bool
  | equal, a, b => a = b
  | less, a, b => a.before b
  | greater, a, b => b.before a

/-- Whether a cell holds one of some values. -/
def Cell.among (cell : Cell) (values : List Value) : Truth := cell.map (· ∈ values)

/-- Whether a cell holds none of some cells' values.  It is unknown where a null might be it. -/
def Cell.outside (cell : Cell) (cells : List Cell) : Truth :=
  match cells, cell with
  | [], _ => some true
  | _, none => none
  | _, some value =>
    if some value ∈ cells then some false else if none ∈ cells then none else some true

/-- The truth value of a condition. -/
def Condition.truth (database : Database) (combination : Combination) : Condition → Truth
  | never => some false
  | flag negated column =>
    match combination.cell column with
    | some (.truth value) => some (value != negated)
    | _ => none
  | isNull negated column => some ((combination.cell column).isNone != negated)
  | compare comparison left right =>
    match left.cell combination, right.cell combination with
    | some a, some b => some (comparison.holds a b)
    | _, _ => none
  | oneOf column params => Cell.among (combination.cell column) (params.map Param.value)
  | someNull columns => some (columns.any fun column => (combination.cell column).isNone)
  | notSelected column column' key params =>
    let chosen := (database.rows column'.table).filter fun row =>
      Cell.among (row key.name) (params.map Param.value) = some true
    Cell.outside (combination.cell column) (chosen.map fun row => row column'.name)

/-- Whether conditions are all true. -/
def meets (database : Database) (conditions : List Condition) (combination : Combination) : Bool :=
  conditions.all fun condition => condition.truth database combination = some true

/-- The extensions of a combination by a join. -/
def Join.extend (database : Database) (join : Join) (combination : Combination) :
    List Combination :=
  let name := join.label.getD join.table
  let extended := (database.rows join.table).map (combination.extend name)
  let found := extended.filter (meets database join.conditions)
  match join.kind, found with
  | .left, [] => [combination.extend name fun _ => none]
  | _, _ => found

namespace Select

/-- The combinations that the joins make. -/
def combinations (database : Database) (select : Select) : List Combination :=
  select.joins.foldl (fun combinations join => combinations.flatMap (join.extend database))
    (database.topics.map (⟨·, []⟩))

/-- The rows of topics that a selection gives. -/
def run (database : Database) (select : Select) : List TopicRow :=
  let given := ((select.combinations database).filter (meets database select.conditions)).map
    Combination.topic
  if select.distinct then given.eraseDups else given

end Select

end ForumQuery.Sql
