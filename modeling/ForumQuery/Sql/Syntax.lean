import ForumQuery.RecordId
import ForumQuery.Time.Instant

/-!
# Select statements

The statements that filters are lowered to: a selection of whole topics, with joins of other tables
and conditions that must all hold.  Values never stand in a statement's text; where one is needed
the syntax holds it as a bound parameter.
-/

namespace ForumQuery.Sql

/-- A value bound to a placeholder. -/
inductive Param where
  | int (n : Int)
  | timestamp (instant : Instant)
  deriving DecidableEq, Repr

/-- A column of a table, or of a table under a label. -/
structure Column where
  table : String
  name : String
  deriving DecidableEq, Repr

/-- What two sides of a comparison can be. -/
inductive Operand where
  | column (column : Column)
  | bound (param : Param)
  deriving DecidableEq, Repr

/-- How two sides are compared. -/
inductive Comparison where
  | equal
  | less
  | greater
  deriving DecidableEq, Repr

/-- A condition on a row. -/
inductive Condition where
  | never
  /-- a column of truth values, as it is or negated -/
  | flag (negated : Bool) (column : Column)
  /-- whether a column has no value, or has one -/
  | isNull (negated : Bool) (column : Column)
  | compare (comparison : Comparison) (left right : Operand)
  | oneOf (column : Column) (params : List Param)
  /-- one of the columns has no value -/
  | someNull (columns : List Column)
  /-- the column is not among the values of `column'` in the rows of its table whose `key` is one
  of the parameters -/
  | notSelected (column column' key : Column) (params : List Param)
  deriving DecidableEq, Repr

/-- Whether a row stays when a join finds no partner for it. -/
inductive JoinKind where
  | inner
  | left
  deriving DecidableEq, Repr

/-- A join of a table, maybe under a label. -/
structure Join where
  kind : JoinKind
  table : String
  label : Option String
  conditions : List Condition
  deriving DecidableEq, Repr

/-- A selection of topics. -/
structure Select where
  distinct : Bool
  joins : List Join
  conditions : List Condition
  deriving DecidableEq, Repr

end ForumQuery.Sql
