import ForumQuery.Query.Token
import ForumQuery.Query.ValueList
import ForumQuery.Topic.Level
import ForumQuery.Topic.Status

/-!
# Clauses

A clause is a token that means something.  `Clause.ofToken?` reads one:

* `in:pinned`, `in:bookmarked`, and `in:` with names of levels, of which unknown ones drop out;
* `status:` with the name of a status;
* `tags:` with a list of names, whose separator says whether all of them are wanted or any, and the
  flag `-` to exclude them;
* `category:` or `categories:` with a list of slugs, and the flag `=` for these categories alone.

Names and slugs that stand twice in a list count once.  Tokens with another key, with a flag that
means nothing for their key, or with a value that cannot be read are no clauses.
-/

namespace ForumQuery

open Query

/-- Whether all tags of a list are wanted or any of them. -/
inductive MatchMode where
  | all
  | any
  deriving DecidableEq, Repr

/-- A comma asks for any of the tags, a plus or a lone tag for all. -/
def MatchMode.ofSeparator : Option Separator → MatchMode
  | some .comma => any
  | some .plus => all
  | none => all

/-- A part of a query that means something. -/
inductive Clause where
  | pinned
  | bookmarked
  | levels (levels : List Level)
  | status (wanted : Status)
  | tags (names : List String) (mode : MatchMode) (exclude : Bool)
  | categories (slugs : List String) (withSubtree : Bool)
  deriving DecidableEq, Repr

namespace Clause

/-- The characters of a tag name. -/
def isTagChar (c : Char) : Bool := c.isAlphanum || c == '-'

/-- The characters of a category slug; a colon joins the slugs of a parent and its child. -/
def isSlugChar (c : Char) : Bool := c.isAlphanum || c == '-' || c == ':'

/-- The levels named in a text with commas between the names. -/
def levelsNamed (text : String) : List Level :=
  (text.toList.splitOn ',').filterMap fun name => Level.ofName? (String.ofList name)

/-- Reads the value of an `in:` clause. -/
def ofState : String → Clause
  | "pinned" => pinned
  | "bookmarked" => bookmarked
  | names => levels (levelsNamed names)

/-- Reads a `tags:` clause. -/
def ofTags? (flag : Option Flag) (value : String) : Option Clause :=
  if flag = some .strict then none
  else
    (ValueList.parse? [.comma, .plus] isTagChar value).map fun list =>
      tags list.items.eraseDups (.ofSeparator list.separator) (flag = some .exclude)

/-- Reads a `category:` clause. -/
def ofCategories? (flag : Option Flag) (value : String) : Option Clause :=
  if flag = some .exclude then none
  else
    (ValueList.parse? [.comma] isSlugChar value).map fun list =>
      categories list.items.eraseDups (flag ≠ some .strict)

/-- Reads a token as a clause. -/
def ofToken? (token : Token) : Option Clause :=
  match token.key with
  | "in" => some (ofState token.value)
  | "status" => (Status.ofName? token.value).map status
  | "tags" => ofTags? token.flag token.value
  | "category" => ofCategories? token.flag token.value
  | "categories" => ofCategories? token.flag token.value
  | _ => none

end Clause

end ForumQuery
