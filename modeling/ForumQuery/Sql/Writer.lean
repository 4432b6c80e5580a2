import ForumQuery.Sql.Draft

/-!
# Writers

A writer is a sink that writes a statement as the conditions come, without a syntax for it: it keeps
the texts of the joins and the texts of the conditions, and the values for their placeholders apart
from both.  The join of a shared table is written unless the same text is there.

`Writer.statement` puts the texts together, and the values in their order.
-/

namespace ForumQuery.Sql

/-- A statement in the making, as texts and values. -/
structure Writer where
  joins : List String := []
  joinParams : List Param := []
  conditions : List String := []
  conditionParams : List Param := []
  distinct : Bool := false
  includesDeleted : Bool := false
  matchesNothing : Bool := false

namespace Writer

instance : EmptyCollection Writer := ⟨{}⟩
instance : Inhabited Writer := ⟨∅⟩

/-- The text of the join of the memberships. -/
def memberText : String := "INNER JOIN topic_users ON topic_users.topic_id = topics.id"

/-- The text of the join of the categories. -/
def categoryText : String := "INNER JOIN categories ON categories.id = topics.category_id"

/-- Placeholders with commas between them. -/
def placeholders (count : Nat) : String := ", ".intercalate (List.replicate count "?")

/-- Writes a join, unless the same text is there. -/
def joinOnce (writer : Writer) (text : String) : Writer :=
  if text ∈ writer.joins then writer else { writer with joins := writer.joins ++ [text] }

/-- Writes a condition, with the values for its placeholders. -/
def condition (writer : Writer) (text : String) (params : List Param) : Writer :=
  { writer with
    conditions := writer.conditions ++ [text]
    conditionParams := writer.conditionParams ++ params }

/-- Writes a join of the tag table under its label. -/
def tagJoin (writer : Writer) (kind : String) (join : TagJoin) : Writer :=
  { writer with
    distinct := writer.distinct || 1 < join.tags.size
    joins := writer.joins ++ [kind ++ " JOIN topic_tags " ++ join.label ++ " ON " ++ join.label ++
      ".topic_id = topics.id AND " ++ join.label ++ ".tag_id IN (" ++
      placeholders join.tags.size ++ ")"]
    joinParams := writer.joinParams ++ idParams join.tags }

/-- Writes the condition of a status. -/
def status (writer : Writer) : Status → Writer
  | .ongoing => writer.condition "NOT topics.closed AND NOT topics.archived" []
  | .closed => writer.condition "topics.closed" []
  | .archived => writer.condition "topics.archived" []
  | .listed => writer.condition "topics.visible" []
  | .unlisted => writer.condition "NOT topics.visible" []
  | .unrestricted =>
    (writer.joinOnce categoryText).condition "NOT categories.read_restricted" []
  | .deleted =>
    { writer with includesDeleted := true }.condition "topics.deleted_at IS NOT NULL" []

/-- Writes a condition on topics. -/
def apply (writer : Writer) : Predicate → Writer
  | .status wanted => writer.status wanted
  | .activelyPinned now =>
    writer.condition
      ("topics.pinned_at IS NOT NULL AND topics.pinned_until > topics.pinned_at " ++
        "AND ? < topics.pinned_until")
      [.timestamp now]
  | .bookmarkedBy actor =>
    (writer.joinOnce memberText).condition "topic_users.bookmarked AND topic_users.user_id = ?"
      [.int actor.toInt]
  | .levelIn actor levels =>
    if levels.isEmpty then writer.condition "FALSE" []
    else
      (writer.joinOnce memberText).condition
        ("topic_users.notification_level IN (" ++ placeholders levels.size ++
          ") AND topic_users.user_id = ?")
        (levels.toList.map (fun level => .int level.stored) ++ [.int actor.toInt])
  | .categoryIn ids =>
    if ids.isEmpty then writer.condition "FALSE" []
    else
      writer.condition ("topics.category_id IN (" ++ placeholders ids.size ++ ")") (idParams ids)
  | .taggedWithAll joins => joins.foldl (tagJoin · "INNER" ·) writer
  | .taggedWithAny join => { writer.tagJoin "INNER" join with distinct := true }
  | .missingSomeTag joins =>
    (joins.foldl (tagJoin · "LEFT" ·) writer).condition
      ("(" ++ " OR ".intercalate (joins.map (·.label ++ ".topic_id IS NULL")) ++ ")") []
  | .taggedWithNone tags =>
    writer.condition
      ("topics.id NOT IN (SELECT topic_tags.topic_id FROM topic_tags " ++
        "WHERE topic_tags.tag_id IN (" ++ placeholders tags.size ++ "))")
      (idParams tags)

instance : Sink Writer where
  apply := apply
  none writer := { writer with matchesNothing := true }

/-- The statement that has been written. -/
def statement (writer : Writer) : Fragment :=
  if writer.matchesNothing then ⟨"SELECT topics.* FROM topics WHERE FALSE", []⟩
  else
    let conditions :=
      (if writer.includesDeleted then [] else ["topics.deleted_at IS NULL"]) ++ writer.conditions
    ⟨"SELECT " ++ (if writer.distinct then "DISTINCT " else "") ++ "topics.* FROM topics" ++
        String.join (writer.joins.map (" " ++ ·)) ++
        (if conditions = [] then "" else " WHERE " ++ " AND ".intercalate conditions),
      writer.joinParams ++ writer.conditionParams⟩

end Writer

end ForumQuery.Sql
