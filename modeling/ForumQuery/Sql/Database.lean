import ForumQuery.Sql.Syntax
import ForumQuery.Topic

/-!
# Databases

The four tables that statements are about, with their rows, and the facts that a row of topics
stands for.  A cell may be null.  The keys of topics and categories, and both columns of the
taggings never are.

`Database.Keyed` says that the keys are keys: no two rows of a table agree in them.
`TopicRow.Definite` says that the flags of a row of topics are not null.
-/

namespace ForumQuery.Sql

/-- What a cell can hold. -/
inductive Value where
  | int (n : Int)
  | timestamp (instant : Instant)
  | truth (value : Bool)
  deriving DecidableEq, Repr

/-- A value, or null. -/
abbrev Cell := Option Value

/-- The cells of a row, by the names of their columns. -/
abbrev Row := String → Cell

/-- A row of `topics`. -/
structure TopicRow where
  id : Int
  closed : Option Bool
  archived : Option Bool
  visible : Option Bool
  deletedAt : Option Instant
  pinnedAt : Option Instant
  pinnedUntil : Option Instant
  category : Option CategoryId
  deriving DecidableEq

/-- A row of `topic_users`. -/
structure MemberRow where
  topic : Option Int
  actor : Option ActorId
  level : Option Int
  bookmarked : Option Bool
  deriving DecidableEq

/-- A row of `topic_tags`. -/
structure TaggingRow where
  topic : Int
  tag : TagId
  deriving DecidableEq

/-- A row of `categories`. -/
structure CategoryRow where
  id : CategoryId
  restricted : Option Bool
  deriving DecidableEq

/-- The rows of the tables. -/
structure Database where
  topics : List TopicRow
  members : List MemberRow
  taggings : List TaggingRow
  categories : List CategoryRow

/-- The flags of a topic are not null. -/
structure TopicRow.Definite (row : TopicRow) : Prop where
  closed : row.closed ≠ none
  archived : row.archived ≠ none
  visible : row.visible ≠ none

/-! ### Cells -/

/-- The cells of a row of `topics`. -/
def TopicRow.cells (row : TopicRow) : Row
  | "id" => some (.int row.id)
  | "closed" => row.closed.map .truth
  | "archived" => row.archived.map .truth
  | "visible" => row.visible.map .truth
  | "deleted_at" => row.deletedAt.map .timestamp
  | "pinned_at" => row.pinnedAt.map .timestamp
  | "pinned_until" => row.pinnedUntil.map .timestamp
  | "category_id" => row.category.map fun id => .int id.toInt
  | _ => none

/-- The cells of a row of `topic_users`. -/
def MemberRow.cells (row : MemberRow) : Row
  | "topic_id" => row.topic.map .int
  | "user_id" => row.actor.map fun id => .int id.toInt
  | "notification_level" => row.level.map .int
  | "bookmarked" => row.bookmarked.map .truth
  | _ => none

/-- The cells of a row of `topic_tags`. -/
def TaggingRow.cells (row : TaggingRow) : Row
  | "topic_id" => some (.int row.topic)
  | "tag_id" => some (.int row.tag.toInt)
  | _ => none

/-- The cells of a row of `categories`. -/
def CategoryRow.cells (row : CategoryRow) : Row
  | "id" => some (.int row.id.toInt)
  | "read_restricted" => row.restricted.map .truth
  | _ => none

namespace Database

/-- The rows of a table, by its name. -/
def rows (database : Database) : String → List Row
  | "topics" => database.topics.map TopicRow.cells
  | "topic_users" => database.members.map MemberRow.cells
  | "topic_tags" => database.taggings.map TaggingRow.cells
  | "categories" => database.categories.map CategoryRow.cells
  | _ => []

/-- No two rows of a table agree in its key. -/
structure Keyed (database : Database) : Prop where
  topics : (database.topics.map TopicRow.id).Nodup
  members : database.members.Pairwise fun a b =>
    ∀ topic actor, a.topic = some topic → a.actor = some actor →
      ¬ (b.topic = some topic ∧ b.actor = some actor)
  taggings : (database.taggings.map fun row => (row.topic, row.tag)).Nodup
  categories : (database.categories.map CategoryRow.id).Nodup

/-! ### Topics -/

/-- The level that a stored integer stands for. -/
def levelOf (n : Int) : Option Level :=
  [Level.muted, .regular, .tracking, .watching].find? fun level => (level.stored : Int) = n

/-- How an actor stands to a topic.  A bookmark that is null is none. -/
def membership (database : Database) (topic : Int) (actor : ActorId) : Option Membership :=
  (database.members.find? fun row => row.topic = some topic ∧ row.actor = some actor).map
    fun row => ⟨row.level.bind levelOf, row.bookmarked.getD false⟩

/-- The facts that a row of topics stands for.  Flags that are null stand for false ones. -/
def topic (database : Database) (row : TopicRow) : Topic where
  closed := row.closed.getD false
  archived := row.archived.getD false
  visible := row.visible.getD false
  deletedAt := row.deletedAt
  pinnedAt := row.pinnedAt
  pinnedUntil := row.pinnedUntil
  category := row.category
  restricted := row.category.bind fun id =>
    (database.categories.find? fun category => category.id = id).bind CategoryRow.restricted
  tags := (database.taggings.filter fun tagging => tagging.topic = row.id).map TaggingRow.tag
  membership := database.membership row.id

end Database

end ForumQuery.Sql
