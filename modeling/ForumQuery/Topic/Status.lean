/-!
# Topic statuses

The states of a topic that a `status:` clause can ask for, each written by its name.
-/

namespace ForumQuery

/-- A state of a topic that a clause can ask for. -/
inductive Status where
  /-- neither closed nor archived -/
  | ongoing
  | closed
  | archived
  | listed
  | unlisted
  /-- in a category that everyone may read -/
  | unrestricted
  | deleted
  deriving DecidableEq, Repr

namespace Status

/-- The name of a status. -/
def name : Status → String
  | ongoing => "open"
  | closed => "closed"
  | archived => "archived"
  | listed => "listed"
  | unlisted => "unlisted"
  | unrestricted => "public"
  | deleted => "deleted"

/-- The status of a name. -/
def ofName? : String → Option Status
  | "open" => some ongoing
  | "closed" => some closed
  | "archived" => some archived
  | "listed" => some listed
  | "unlisted" => some unlisted
  | "public" => some unrestricted
  | "deleted" => some deleted
  | _ => none

theorem ofName?_name (status : Status) : ofName? status.name = some status := by
  cases status <;> rfl

theorem name_of_ofName? {name : String} {status : Status} (h : ofName? name = some status) :
    status.name = name := by
  unfold ofName? at h
  split at h <;> cases h <;> rfl

end Status

end ForumQuery
