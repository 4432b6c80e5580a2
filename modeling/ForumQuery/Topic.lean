import ForumQuery.RecordId
import ForumQuery.Time.Instant
import ForumQuery.Topic.Level
import ForumQuery.Topic.Status

/-!
# Topics

What a filter can ask about a topic: its flags and dates, its category, its tags, and how each
member stands to it.  `Topic.Has` says when a topic is in a status.
-/

namespace ForumQuery

/-- How one member stands to one topic. -/
structure Membership where
  /-- absent where the stored integer is no level -/
  level : Option Level
  bookmarked : Bool
  deriving DecidableEq, Repr

/-- The facts about a topic. -/
structure Topic where
  closed : Bool
  archived : Bool
  visible : Bool
  deletedAt : Option Instant
  pinnedAt : Option Instant
  pinnedUntil : Option Instant
  category : Option CategoryId
  /-- whether reading is restricted in the topic's category, where that is known -/
  restricted : Option Bool
  tags : List TagId
  membership : ActorId → Option Membership

namespace Topic

/-- A topic is in a status. -/
def Has (topic : Topic) : Status → Prop
  | .ongoing => topic.closed = false ∧ topic.archived = false
  | .closed => topic.closed = true
  | .archived => topic.archived = true
  | .listed => topic.visible = true
  | .unlisted => topic.visible = false
  | .unrestricted => topic.restricted = some false
  | .deleted => topic.deletedAt.isSome = true

instance (topic : Topic) (status : Status) : Decidable (topic.Has status) := by
  cases status <;> unfold Has <;> infer_instance

end Topic

end ForumQuery
