import ForumQuery.Filter
import ForumQuery.Json.Records
import ForumQuery.Time.Stamp

/-!
# Filters as JSON

A condition is written as an object whose first field, `kind`, says which condition it is; sets are
arrays in ascending order and instants are time stamps.  A filter is an object with its chain, or
the word `empty`.
-/

namespace ForumQuery

/-- A set of identifiers as JSON. -/
def RankedSet.idsToJson {kind : RecordKind} (ids : RankedSet (RecordId kind)) : Json :=
  .array (ids.toList.map RecordId.toJson)

/-- The fields of a tag join. -/
def TagJoin.fields (join : TagJoin) : List (String × Json) :=
  [("alias", .string join.label), ("tag_ids", join.tags.idsToJson)]

/-- A tag join as JSON. -/
def TagJoin.toJson (join : TagJoin) : Json := .record join.fields

namespace Predicate

/-- The word for the kind of a condition. -/
def kind : Predicate → String
  | status .. => "status"
  | activelyPinned .. => "actively_pinned"
  | bookmarkedBy .. => "bookmarked_by"
  | levelIn .. => "notification_level_in"
  | categoryIn .. => "category_in"
  | taggedWithAll .. => "tagged_with_all"
  | taggedWithAny .. => "tagged_with_any"
  | missingSomeTag .. => "missing_some_tag"
  | taggedWithNone .. => "tagged_with_none"

/-- The fields of a condition after its kind. -/
def fields : Predicate → List (String × Json)
  | status wanted => [("status", wanted.toJson)]
  | activelyPinned now => [("at", .string now.stamp)]
  | bookmarkedBy actor => [("actor", actor.toJson)]
  | levelIn actor levels =>
    [("actor", actor.toJson), ("levels", .array (levels.toList.map Level.toJson))]
  | categoryIn categories => [("ids", categories.idsToJson)]
  | taggedWithAll joins => [("joins", .array (joins.map TagJoin.toJson))]
  | taggedWithAny join => join.fields
  | missingSomeTag joins => [("joins", .array (joins.map TagJoin.toJson))]
  | taggedWithNone tags => [("tag_ids", tags.idsToJson)]

/-- A condition as JSON. -/
def toJson (predicate : Predicate) : Json :=
  .record (("kind", .string predicate.kind) :: predicate.fields)

end Predicate

namespace Filter

/-- A filter as JSON. -/
def toJson : Filter → Json
  | chain predicates =>
    .record [("filter", .record [("predicates", .array (predicates.map Predicate.toJson))])]
  | nothing => .string "empty"

end Filter

end ForumQuery
