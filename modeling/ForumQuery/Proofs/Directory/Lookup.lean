import ForumQuery.Directory
import ForumQuery.Proofs.Yield

/-!
# Lookup — what a directory answers

A name stands for the one tag that has it in lower case (`Directory.tag?_eq_some_iff`), and the row
for the name says what is kept about that tag, unless it belongs to a category that is hidden
(`Directory.value_row?`).

A slug is read in its parts (`slugParts`), and each part names the first of some categories: those
that stand directly below a parent or at the top (`Directory.allBelow`), and for a slug without a
colon after them all others of that slug (`Directory.allNamed`).  `Directory.category?_eq` says so.

A compilation against a directory (`Directory.context`) asks it for tags, for categories and for
children.  Two directories that answer the same to what a token asks make it yield the same
(`Directory.yield_congr`).
-/

namespace ForumQuery

open Query Contribution

/-! ### Tags -/

namespace TagEntry

/-- Whether a tag may be seen: its category may, if it belongs to one. -/
def visible (guardian : Guardian) (entry : TagEntry) : Bool :=
  entry.category.all guardian.seesCategory

/-- The row of a tag under the name that was asked for. -/
def row (name : String) (entry : TagEntry) : TagRow := ⟨name, entry.id, entry.target⟩

end TagEntry

namespace Directory

/-- A tag is found by its name in lower case. -/
theorem tag?_eq_some_iff {directory : Directory} {name : String} {entry : TagEntry} :
    directory.tag? name = some entry ↔
      entry ∈ directory.tags ∧ entry.key = Text.lowercase name := by
  have hunique : ∀ a ∈ directory.tags, ∀ b ∈ directory.tags,
      decide (a.key = Text.lowercase name) = true →
      decide (b.key = Text.lowercase name) = true → a = b := by
    intro a ha b hb hka hkb
    exact List.inj_on_of_nodup_map directory.distinct ha hb
      ((of_decide_eq_true hka).trans (of_decide_eq_true hkb).symm)
  rw [tag?, find?_eq_some_iff_of_unique hunique, decide_eq_true_eq]

/-- The row for a name is that of its tag, where the tag may be seen. -/
theorem value_row? (directory : Directory) (guardian : Guardian) (name : String) :
    (directory.row? guardian name).value =
      ((directory.tag? name).filter (TagEntry.visible guardian)).map (TagEntry.row name) := by
  rw [row?]
  split
  · next h => rw [h]; rfl
  · next h => rw [h]; rfl
  · next key id target category h =>
    rw [h, Option.filter_some]
    cases hsees : guardian.seesCategory category <;>
      simp [Guardian.askCategory, TagEntry.visible, TagEntry.row, hsees]

theorem value_rows (directory : Directory) (guardian : Guardian) (names : List String) :
    (directory.rows guardian names).value =
      names.filterMap fun name => (directory.row? guardian name).value := by
  induction names with
  | nil => rfl
  | cons name rest ih =>
      simp only [rows, Consult.value_bind, Consult.value_pure, ih, List.filterMap_cons]
      cases (directory.row? guardian name).value <;> rfl

end Directory

/-! ### Categories -/

/-- The characters of a slug up to the first colon, and those after it, if there is one. -/
def slugParts (slug : String) : String × Option String :=
  (String.ofList (slug.toList.takeWhile (· ≠ ':')),
    match slug.toList.dropWhile (· ≠ ':') with
    | [] => none
    | _ :: child => some (String.ofList child))

namespace Directory

variable (directory : Directory)

/-- The categories of a slug directly below a parent, or at the top. -/
def allBelow (parent : Option CategoryId) (slug : String) : List CategoryId :=
  (directory.categories.filter fun entry => entry.slug = slug ∧ entry.parent = parent).map (·.id)

/-- The categories of a slug. -/
def allNamed (slug : String) : List CategoryId :=
  (directory.categories.filter fun entry => entry.slug = slug).map (·.id)

/-- Tags do not touch the categories. -/
@[simp] theorem categories_addTag (name : String) (id : TagId) (target : Option TagId)
    (category : Option CategoryId) :
    (directory.addTag name id target category).categories = directory.categories := rfl

theorem below?_eq_head? (parent : Option CategoryId) (slug : String) :
    directory.below? parent slug = (directory.allBelow parent slug).head? := by
  rw [below?, allBelow, List.head?_map, List.head?_filter]

theorem anywhere?_eq_head? (slug : String) :
    directory.anywhere? slug = (directory.allNamed slug).head? := by
  rw [anywhere?, allNamed, List.head?_map, List.head?_filter]

/-- What a slug names. -/
theorem category?_eq (slug : String) :
    directory.category? slug =
      match slugParts slug with
      | (name, none) => (directory.allBelow none name ++ directory.allNamed name).head?
      | (name, some child) => (directory.allBelow none name).head?.bind fun parent =>
          (directory.allBelow (some parent) child).head? := by
  rw [category?, slugParts]
  simp only [below?_eq_head?, anywhere?_eq_head?]
  cases hd : slug.toList.dropWhile (· ≠ ':') with
  | nil =>
      have hname : slug.toList.takeWhile (· ≠ ':') = slug.toList := by
        have h := List.takeWhile_append_dropWhile (p := (· ≠ ':')) (l := slug.toList)
        rwa [hd, List.append_nil] at h
      simp only [hname, String.ofList_toList, List.head?_append]
  | cons colon child => rfl

end Directory

/-! ### Compilations against a directory -/

namespace Directory

/-- All that a compilation reads, where the directory answers for names. -/
def context (directory : Directory) (guardian : Guardian) (taggingEnabled : Bool) (now : Instant) :
    Context :=
  ⟨guardian, directory.resolver, taggingEnabled, now⟩

section Context

variable (directory : Directory) (guardian : Guardian) (taggingEnabled : Bool) (now : Instant)

@[simp] theorem guardian_context :
    (directory.context guardian taggingEnabled now).guardian = guardian := rfl

@[simp] theorem value_lookupTags_context (names : List String) :
    ((directory.context guardian taggingEnabled now).lookupTags names).value =
      (directory.rows guardian names).value := rfl

@[simp] theorem value_lookupCategories_context (slugs : List String) :
    ((directory.context guardian taggingEnabled now).lookupCategories slugs).value =
      slugs.filterMap directory.category? := rfl

@[simp] theorem value_lookupChildren_context (category : CategoryId) :
    ((directory.context guardian taggingEnabled now).lookupChildren category).value =
      directory.children category := rfl

end Context

/-- A token yields the same against two directories that answer the same to all that it asks. -/
theorem yield_congr {first second : Directory} {guardian : Guardian} {taggingEnabled : Bool}
    {now : Instant} {token : Token}
    (htags : ∀ names, (first.rows guardian names).value = (second.rows guardian names).value)
    (hslugs : ∀ slugs withSubtree,
      Clause.ofToken? token = some (.categories slugs withSubtree) →
        (ofSlugs (first.context guardian taggingEnabled now) slugs withSubtree).value =
          (ofSlugs (second.context guardian taggingEnabled now) slugs withSubtree).value) :
    (first.context guardian taggingEnabled now).yield token =
      (second.context guardian taggingEnabled now).yield token := by
  refine Context.yield_congr rfl rfl rfl (fun names _ _ _ => ?_) hslugs
  rw [value_lookupTags_context, value_lookupTags_context, htags]

end Directory

end ForumQuery
