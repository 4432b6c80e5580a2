import ForumQuery.Resolver
import ForumQuery.Time.Instant

/-!
# Contexts

All that a compilation reads besides the query: the guardian, the resolver, whether tags are in use
on the site, and the instant it happens at.  A context has one instant, so all the conditions of a
compilation see the same one.

A lookup that fails counts as one that finds nothing.
-/

namespace ForumQuery

/-- What a compilation reads besides the query. -/
structure Context where
  guardian : Guardian
  resolver : Resolver
  taggingEnabled : Bool
  now : Instant

/-- What a lookup found; a failed one found nothing. -/
def found {α : Type} : Except Failure (List α) → List α
  | .ok rows => rows
  | .error _ => []

namespace Context

/-- Looks tags up by name. -/
def lookupTags (context : Context) (names : List String) : Consult (List TagRow) := do
  Consult.ask (.tags names) ()
  return found (← context.resolver.tags context.guardian names)

/-- Looks categories up by slug. -/
def lookupCategories (context : Context) (slugs : List String) : Consult (List CategoryId) :=
  .ask (.categories slugs) (found (context.resolver.categories slugs))

/-- Looks up the categories directly below one. -/
def lookupChildren (context : Context) (category : CategoryId) : Consult (List CategoryId) :=
  .ask (.children category) (found (context.resolver.children category))

end Context

end ForumQuery
