import ForumQuery.Topic

/-!
# Predicates

One condition on a topic, as a compiled query states it.  A condition on tags names the tables it
will join: each `TagJoin` is one join of the tag table under a label of its own, for a tag that may
be known under several identifiers.

`Predicate.Holds` says which topics meet a condition; the labels play no part in it.
-/

namespace ForumQuery

/-- A join of the tag table under a label, to any of some tags. -/
structure TagJoin where
  label : String
  tags : RankedSet TagId
  deriving DecidableEq

/-- One condition on a topic. -/
inductive Predicate where
  | status (wanted : Status)
  /-- pinned, and the pin has not run out at the instant `now` -/
  | activelyPinned (now : Instant)
  | bookmarkedBy (actor : ActorId)
  /-- the actor follows the topic at one of the levels; of no levels, no topic -/
  | levelIn (actor : ActorId) (levels : RankedSet Level)
  | categoryIn (categories : RankedSet CategoryId)
  /-- a tag of every join -/
  | taggedWithAll (joins : List TagJoin)
  /-- a tag of the join -/
  | taggedWithAny (join : TagJoin)
  /-- no tag of some join -/
  | missingSomeTag (joins : List TagJoin)
  | taggedWithNone (tags : RankedSet TagId)
  deriving DecidableEq

namespace Topic

/-- A topic has one of some tags. -/
def HasSome (topic : Topic) (tags : RankedSet TagId) : Prop := ∃ tag ∈ topic.tags, tag ∈ tags

instance (topic : Topic) (tags : RankedSet TagId) : Decidable (topic.HasSome tags) :=
  inferInstanceAs (Decidable (∃ tag ∈ topic.tags, tag ∈ tags))

end Topic

namespace Predicate

/-- A topic meets a condition. -/
def Holds (topic : Topic) : Predicate → Prop
  | status wanted => topic.Has wanted
  | activelyPinned now => ∃ start ∈ topic.pinnedAt, ∃ stop ∈ topic.pinnedUntil,
      start < stop ∧ now < stop
  | bookmarkedBy actor => ∃ member ∈ topic.membership actor, member.bookmarked = true
  | levelIn actor levels => ∃ member ∈ topic.membership actor, ∃ level ∈ member.level, level ∈ levels
  | categoryIn categories => ∃ category ∈ topic.category, category ∈ categories
  | taggedWithAll joins => ∀ join ∈ joins, topic.HasSome join.tags
  | taggedWithAny join => topic.HasSome join.tags
  | missingSomeTag joins => ∃ join ∈ joins, ¬ topic.HasSome join.tags
  | taggedWithNone tags => ¬ topic.HasSome tags

instance (topic : Topic) (predicate : Predicate) : Decidable (predicate.Holds topic) := by
  cases predicate <;> unfold Holds <;> infer_instance

/-- The joins that a condition makes, in their order. -/
def joins : Predicate → List TagJoin
  | taggedWithAll joins => joins
  | taggedWithAny join => [join]
  | missingSomeTag joins => joins
  | _ => []

end Predicate

end ForumQuery
