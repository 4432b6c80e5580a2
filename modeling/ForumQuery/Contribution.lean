import ForumQuery.Builder
import ForumQuery.Clause
import ForumQuery.Subtree

/-!
# Contributions

What one clause adds to a filter.  It is found by consulting the site and does not depend on the
rest of the query: `Clause.contribution` sees the clause and the context only, and
`Builder.contribute` puts the result into the filter, giving out the labels of joins.

A clause that cannot be met collapses the filter: one that needs an actor where there is none, that
wants all of some tags where one does not exist, or that names a category that is not there or may
not be seen.  A clause that says nothing is inert: any of some tags where none exists, tags where
they are not in use, deleted topics where they may not be seen.
-/

namespace ForumQuery

/-- What a clause adds to a filter. -/
inductive Contribution where
  /-- nothing -/
  | inert
  /-- nothing can pass -/
  | collapse
  | condition (predicate : Predicate)
  /-- a tag of every group -/
  | everyGroup (groups : List (RankedSet TagId))
  /-- no tag of some group -/
  | notEveryGroup (groups : List (RankedSet TagId))
  /-- some of the tags -/
  | someTag (tags : RankedSet TagId)
  | scope (scope : Scope)

namespace Builder

/-- Adds a contribution. -/
def contribute (builder : Builder) : Contribution → Builder
  | .inert => builder
  | .collapse => builder.collapse
  | .condition predicate => builder.and predicate
  | .everyGroup groups =>
    let (joins, builder) := builder.takeJoins groups
    builder.and (.taggedWithAll joins)
  | .notEveryGroup groups =>
    let (joins, builder) := builder.takeJoins groups
    builder.and (.missingSomeTag joins)
  | .someTag tags =>
    let (label, builder) := builder.takeLabel
    builder.and (.taggedWithAny ⟨label, tags⟩)
  | .scope scope => builder.register scope

end Builder

/-- The tags that some rows give for a name. -/
def TagRow.group (rows : List TagRow) (name : String) : RankedSet TagId :=
  .ofList ((rows.filter (·.answers name)).flatMap TagRow.ids)

/-- The tags that are found for the names of a clause. -/
structure FoundTags where
  /-- those of each name that has any -/
  groups : List (RankedSet TagId) := []
  all : RankedSet TagId := ∅

namespace FoundTags

/-- Adds the tags of one more name. -/
def add (found : FoundTags) (group : RankedSet TagId) : FoundTags :=
  if group.isEmpty then found else ⟨found.groups ++ [group], found.all ∪ group⟩

/-- The tags that some rows give for some names. -/
def ofRows (rows : List TagRow) (names : List String) : FoundTags :=
  names.foldl (fun found name => found.add (TagRow.group rows name)) {}

end FoundTags

namespace Contribution

/-- What the tags add that are found for a number of names. -/
def ofTags (found : FoundTags) (number : Nat) (mode : MatchMode) (exclude : Bool) : Contribution :=
  if mode = .all ∧ found.groups.length ≠ number then collapse
  else if found.all.isEmpty then inert
  else
    match exclude, mode with
    | false, .all => everyGroup found.groups
    | false, .any => someTag found.all
    | true, .all => notEveryGroup found.groups
    | true, .any => condition (.taggedWithNone found.all)

/-- What a status adds, in a category or everywhere. -/
def ofStatus (context : Context) (wanted : Status) (category : Option CategoryId) :
    Consult Contribution :=
  match wanted with
  | .deleted => do
    let seen ← context.guardian.askDeleted category
    pure (if seen then condition (.status .deleted) else inert)
  | other => pure (condition (.status other))

/-- What the categories of some slugs add. -/
def ofSlugs (context : Context) (slugs : List String) (withSubtree : Bool) :
    Consult Contribution := do
  let resolved ← context.lookupCategories slugs
  let visible ← context.guardian.visible resolved
  if visible.length < slugs.length then pure collapse
  else
    let roots := RankedSet.ofList visible
    let categories ← if withSubtree then context.subtree roots else pure roots
    pure (scope (.categories categories))

end Contribution

open Contribution in
/-- What a clause adds. -/
def Clause.contribution (context : Context) : Clause → Consult Contribution
  | pinned => pure (condition (.activelyPinned context.now))
  | bookmarked => do
    match ← context.guardian.askActor with
    | some actor => pure (condition (.bookmarkedBy actor))
    | none => pure collapse
  | levels names => do
    match ← context.guardian.askActor with
    | some actor => pure (scope (.levels actor (.ofList names)))
    | none => pure collapse
  | status wanted => ofStatus context wanted none
  | tags names mode exclude =>
    if context.taggingEnabled ∧ names ≠ [] then do
      let rows ← context.lookupTags names
      pure (ofTags (.ofRows rows names) names.length mode exclude)
    else pure inert
  | categories slugs withSubtree => ofSlugs context slugs withSubtree

end ForumQuery
