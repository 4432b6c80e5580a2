import ForumQuery.Failure
import ForumQuery.Guardian

/-!
# Resolvers

The resolver knows what names stand for.  A tag may be an alias of another one and then answers
with both.  Tags may belong to a category; so the lookup of tags is handed the guardian and may ask
it what can be seen.  Every lookup may fail.
-/

namespace ForumQuery

/-- One tag that was found, under the name that was asked for. -/
structure TagRow where
  name : String
  id : TagId
  /-- the tag that this one is an alias of -/
  target : Option TagId := none
  deriving DecidableEq, Repr

namespace TagRow

/-- The identifiers of a tag: its own, then that of the tag it is an alias of. -/
def ids (row : TagRow) : List TagId := row.id :: row.target.toList

/-- Whether a row answers for a name, the case of ASCII letters aside. -/
def answers (row : TagRow) (name : String) : Bool := row.name.toLower == name.toLower

end TagRow

/-- What names stand for. -/
structure Resolver where
  /-- the visible tags among some names -/
  tags : Guardian → List String → Consult (Except Failure (List TagRow))
  /-- the categories among some slugs -/
  categories : List String → Except Failure (List CategoryId)
  /-- the categories directly below one -/
  children : CategoryId → Except Failure (List CategoryId)

end ForumQuery
