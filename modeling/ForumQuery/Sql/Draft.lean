import ForumQuery.Filter
import ForumQuery.Sql.Render

/-!
# Drafts

A draft is a selection in the making, and a sink for the conditions of a filter.  The tables of
members and of categories are joined when a condition first needs them; every join of the tag table
is a new one under its label.  Where a join may find several rows for one topic the selection is
made distinct.

Deleted topics are left out unless a condition asks for them.
-/

namespace ForumQuery.Sql

/-! ### The tables -/

/-- A column of the topics. -/
def topics (name : String) : Column := ⟨"topics", name⟩

/-- A column of the memberships, which tie members to topics. -/
def members (name : String) : Column := ⟨"topic_users", name⟩

/-- A column of the taggings, which tie tags to topics. -/
def taggings (name : String) : Column := ⟨"topic_tags", name⟩

/-- A column of the categories. -/
def categories (name : String) : Column := ⟨"categories", name⟩

/-- The condition that two columns are equal. -/
def matching (left right : Column) : Condition := .compare .equal (.column left) (.column right)

/-- The join of the memberships. -/
def memberJoin : Join :=
  ⟨.inner, "topic_users", none, [matching (members "topic_id") (topics "id")]⟩

/-- The join of the categories. -/
def categoryJoin : Join :=
  ⟨.inner, "categories", none, [matching (categories "id") (topics "category_id")]⟩

/-- The parameters of some identifiers. -/
def idParams {kind : RecordKind} (ids : RankedSet (RecordId kind)) : List Param :=
  ids.toList.map fun id => .int id.toInt

/-- The join of the taggings under the label of a tag join. -/
def taggingJoin (kind : JoinKind) (join : TagJoin) : Join :=
  ⟨kind, "topic_tags", some join.label,
    [matching ⟨join.label, "topic_id"⟩ (topics "id"),
      .oneOf ⟨join.label, "tag_id"⟩ (idParams join.tags)]⟩

/-- The condition that a membership is the one of an actor. -/
def memberIs (actor : ActorId) : Condition :=
  .compare .equal (.column (members "user_id")) (.bound (.int actor.toInt))

/-! ### Drafts -/

/-- A selection in the making. -/
structure Draft where
  joins : List Join := []
  conditions : List Condition := []
  distinct : Bool := false
  includesDeleted : Bool := false
  matchesNothing : Bool := false
  deriving DecidableEq

namespace Draft

/-- The draft that nothing was asked of. -/
def empty : Draft := {}

instance : EmptyCollection Draft := ⟨empty⟩
instance : Inhabited Draft := ⟨∅⟩

/-- Adds a join, unless the very same is there. -/
def link (draft : Draft) (join : Join) : Draft :=
  if join ∈ draft.joins then draft else { draft with joins := draft.joins ++ [join] }

/-- Adds conditions. -/
def require (draft : Draft) (conditions : List Condition) : Draft :=
  { draft with conditions := draft.conditions ++ conditions }

/-- Adds a join of the tag table, which may find a topic twice when it is for several tags. -/
def linkTags (draft : Draft) (kind : JoinKind) (join : TagJoin) : Draft :=
  { draft with
    joins := draft.joins ++ [taggingJoin kind join]
    distinct := draft.distinct || 1 < join.tags.size }

/-- Adds the condition of a status. -/
def requireStatus (draft : Draft) : Status → Draft
  | .ongoing => draft.require [.flag true (topics "closed"), .flag true (topics "archived")]
  | .closed => draft.require [.flag false (topics "closed")]
  | .archived => draft.require [.flag false (topics "archived")]
  | .listed => draft.require [.flag false (topics "visible")]
  | .unlisted => draft.require [.flag true (topics "visible")]
  | .unrestricted =>
    (draft.link categoryJoin).require [.flag true (categories "read_restricted")]
  | .deleted =>
    { draft with includesDeleted := true }.require [.isNull true (topics "deleted_at")]

/-- Adds a condition on topics. -/
def apply (draft : Draft) : Predicate → Draft
  | .status wanted => draft.requireStatus wanted
  | .activelyPinned now =>
    draft.require
      [.isNull true (topics "pinned_at"),
        .compare .greater (.column (topics "pinned_until")) (.column (topics "pinned_at")),
        .compare .less (.bound (.timestamp now)) (.column (topics "pinned_until"))]
  | .bookmarkedBy actor =>
    (draft.link memberJoin).require [.flag false (members "bookmarked"), memberIs actor]
  | .levelIn actor levels =>
    if levels.isEmpty then draft.require [.never]
    else
      (draft.link memberJoin).require
        [.oneOf (members "notification_level") (levels.toList.map fun level => .int level.stored),
          memberIs actor]
  | .categoryIn ids =>
    if ids.isEmpty then draft.require [.never]
    else draft.require [.oneOf (topics "category_id") (idParams ids)]
  | .taggedWithAll joins => joins.foldl (linkTags · .inner ·) draft
  | .taggedWithAny join => { draft.linkTags .inner join with distinct := true }
  | .missingSomeTag joins =>
    (joins.foldl (linkTags · .left ·) draft).require
      [.someNull (joins.map fun join => ⟨join.label, "topic_id"⟩)]
  | .taggedWithNone tags =>
    draft.require
      [.notSelected (topics "id") (taggings "topic_id") (taggings "tag_id") (idParams tags)]

instance : Sink Draft where
  apply := apply
  none draft := { draft with matchesNothing := true }

/-- The selection that a draft stands for. -/
def select (draft : Draft) : Select :=
  if draft.matchesNothing then ⟨false, [], [.never]⟩
  else
    ⟨draft.distinct, draft.joins,
      (if draft.includesDeleted then [] else [.isNull false (topics "deleted_at")])
        ++ draft.conditions⟩

/-- The text of the selection, with its parameters. -/
def statement (draft : Draft) : Fragment := draft.select.render

end Draft

/-- The draft of a filter. -/
def Draft.ofFilter (filter : Filter) : Draft := filter.replay ∅

end ForumQuery.Sql
