import ForumQuery.Guardian

/-!
# Permissions

A guardian with fixed answers: an actor or none, the categories hidden from them, and the categories
in which they see deleted topics, or all of them.
-/

namespace ForumQuery

/-- What one actor may see. -/
structure Permissions where
  actor : Option ActorId := none
  hidden : RankedSet CategoryId := ∅
  /-- deleted topics are visible everywhere -/
  seesDeleted : Bool := false
  /-- the categories in which deleted topics are visible -/
  deletedIn : RankedSet CategoryId := ∅

namespace Permissions

/-- Whether a category may be seen. -/
def seesCategory (permissions : Permissions) (category : CategoryId) : Bool :=
  category ∉ permissions.hidden

/-- Whether deleted topics may be seen, in a category or everywhere. -/
def seesDeletedIn (permissions : Permissions) (category : Option CategoryId) : Bool :=
  permissions.seesDeleted || category.any (· ∈ permissions.deletedIn)

/-- The guardian that answers from the permissions. -/
def guardian (permissions : Permissions) : Guardian where
  actor := permissions.actor
  seesCategory := permissions.seesCategory
  seesDeleted := permissions.seesDeletedIn

end Permissions

end ForumQuery
