import ForumQuery.RankedSet

/-!
# Notification levels

How closely a member follows a topic.  A level is stored as an integer from 0 to 3 and written by
its name.
-/

namespace ForumQuery

/-- How closely a member follows a topic. -/
inductive Level where
  | muted
  | regular
  | tracking
  | watching
  deriving DecidableEq, Repr

namespace Level

/-- The integer that stands for a level in the store. -/
def stored : Level → Nat
  | muted => 0
  | regular => 1
  | tracking => 2
  | watching => 3

/-- The name of a level. -/
def name : Level → String
  | muted => "muted"
  | regular => "regular"
  | tracking => "tracking"
  | watching => "watching"

/-- The level of a name. -/
def ofName? : String → Option Level
  | "muted" => some muted
  | "regular" => some regular
  | "tracking" => some tracking
  | "watching" => some watching
  | _ => none

/-- Levels are numbered as they are stored. -/
instance : Ranked Level where
  rank := stored
  bound := 4
  rank_lt level := by cases level <;> decide
  rank_injective {a b} := by cases a <;> cases b <;> decide

theorem ofName?_name (level : Level) : ofName? level.name = some level := by
  cases level <;> rfl

end Level

end ForumQuery
