import ForumQuery.Resolver
import ForumQuery.Text.Lowercase

/-!
# Directories

The tags and categories of a site, kept in memory.  Tags are known by their names in lower case, one
tag to a name: a later one takes the place of an earlier one.  A tag that belongs to a category is
found only by those who may see the category.

Categories stand in the order in which they were added.  A slug names the first category of that
slug at the top, or else the first of that slug anywhere; `parent:child` names the first category
of the second slug directly below the first top category of the first slug.
-/

namespace ForumQuery

/-- What is kept about a tag. -/
structure TagEntry where
  /-- the name in lower case -/
  key : String
  id : TagId
  /-- the tag that this one is an alias of -/
  target : Option TagId := none
  /-- the category that this tag belongs to -/
  category : Option CategoryId := none
  deriving DecidableEq, Repr

/-- What is kept about a category. -/
structure CategoryEntry where
  id : CategoryId
  slug : String
  /-- the category that this one lies directly below -/
  parent : Option CategoryId := none
  deriving DecidableEq, Repr

/-- The tags and categories of a site. -/
structure Directory where
  tags : List TagEntry := []
  distinct : (tags.map TagEntry.key).Nodup := by simp
  /-- in the order in which they were added -/
  categories : List CategoryEntry := []

namespace Directory

/-- The directory with nothing in it. -/
def empty : Directory := {}

instance : EmptyCollection Directory := ⟨empty⟩
instance : Inhabited Directory := ⟨∅⟩

/-! ### Tags -/

/-- Adds a tag, in place of the one of the same name. -/
def addEntry (directory : Directory) (entry : TagEntry) : Directory where
  tags := entry :: directory.tags.filter (·.key ≠ entry.key)
  distinct := by
    rw [List.map_cons, List.nodup_cons]
    refine ⟨fun h => ?_, ?_⟩
    · obtain ⟨other, hmem, hkey⟩ := List.mem_map.1 h
      simpa [hkey] using (List.mem_filter.1 hmem).2
    · exact directory.distinct.sublist (List.filter_sublist.map _)
  categories := directory.categories

/-- Adds a tag under a name in any case. -/
def addTag (directory : Directory) (name : String) (id : TagId) (target : Option TagId)
    (category : Option CategoryId) : Directory :=
  directory.addEntry ⟨Text.lowercase name, id, target, category⟩

/-- The tag of a name in any case. -/
def tag? (directory : Directory) (name : String) : Option TagEntry :=
  directory.tags.find? (·.key = Text.lowercase name)

/-- The row for a name, if there is such a tag and the guardian lets it be seen. -/
def row? (directory : Directory) (guardian : Guardian) (name : String) :
    Consult (Option TagRow) :=
  match directory.tag? name with
  | none => pure none
  | some ⟨_, id, target, none⟩ => pure (some ⟨name, id, target⟩)
  | some ⟨_, id, target, some category⟩ => do
    let seen ← guardian.askCategory category
    pure (if seen then some ⟨name, id, target⟩ else none)

/-- The rows for some names, in their order. -/
def rows (directory : Directory) (guardian : Guardian) : List String → Consult (List TagRow)
  | [] => pure []
  | name :: rest => do
    let row ← directory.row? guardian name
    let others ← rows directory guardian rest
    pure (row.toList ++ others)

/-! ### Categories -/

/-- Adds a category. -/
def addCategory (directory : Directory) (entry : CategoryEntry) : Directory :=
  { directory with categories := directory.categories ++ [entry] }

/-- The first category of a slug directly below a parent, or at the top. -/
def below? (directory : Directory) (parent : Option CategoryId) (slug : String) :
    Option CategoryId :=
  (directory.categories.find? fun entry => entry.slug = slug ∧ entry.parent = parent).map (·.id)

/-- The first category of a slug. -/
def anywhere? (directory : Directory) (slug : String) : Option CategoryId :=
  (directory.categories.find? fun entry => entry.slug = slug).map (·.id)

/-- The category that a slug or a pair `parent:child` names. -/
def category? (directory : Directory) (slug : String) : Option CategoryId :=
  let cs := slug.toList
  match cs.dropWhile (· ≠ ':') with
  | _ :: child => do
    let parent ← directory.below? none (String.ofList (cs.takeWhile (· ≠ ':')))
    directory.below? (some parent) (String.ofList child)
  | [] => (directory.below? none slug).or (directory.anywhere? slug)

/-- The categories directly below one, in the order in which they were added. -/
def children (directory : Directory) (parent : CategoryId) : List CategoryId :=
  (directory.categories.filter (·.parent = some parent)).map (·.id)

/-- The resolver that answers from the directory. -/
def resolver (directory : Directory) : Resolver where
  tags guardian names := .ok <$> directory.rows guardian names
  categories slugs := .ok (slugs.filterMap directory.category?)
  children category := .ok (directory.children category)

end Directory

end ForumQuery
