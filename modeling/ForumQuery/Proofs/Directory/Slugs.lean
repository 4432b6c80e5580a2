import ForumQuery.Proofs.Alone
import ForumQuery.Proofs.Directory.Merging

/-!
# Slugs — what a clause for categories asks for

An entry of a directory may put one category directly below another (`Directory.IsParent`).  Entries
may share an identifier and lead round in a circle, and then there are several ways down or endless
ones; what lies below a category is what some way leads to (`Directory.mem_extent_context_iff`).

A clause for categories never looks at its slugs one by one: it compares how many categories may be
seen with how many slugs there are, those that stand twice counted once.  In a directory a slug
names one category at most, so the numbers agree exactly if every slug names a category that may be
seen; and then the clause asks for what the slugs name (`Directory.compile_slugs`).
-/

namespace ForumQuery

open Query Contribution

namespace Directory

variable {directory : Directory} {guardian : Guardian} {taggingEnabled : Bool} {now : Instant}

/-- Some entry puts a category directly below another. -/
def IsParent (directory : Directory) (parent child : CategoryId) : Prop :=
  ∃ entry ∈ directory.categories, entry.parent = some parent ∧ entry.id = child

/-- The children that a compilation finds are those that some entry puts below their parent. -/
theorem hasChild_context :
    (directory.context guardian taggingEnabled now).HasChild = directory.IsParent := by
  funext parent child
  rw [Context.HasChild, value_lookupChildren_context, children, IsParent]
  simp only [List.mem_map, List.mem_filter, decide_eq_true_eq, and_assoc]

theorem mem_extent_context_iff {withSubtree : Bool} {roots : RankedSet CategoryId}
    {category : CategoryId} :
    category ∈ (directory.context guardian taggingEnabled now).extent withSubtree roots ↔
      ∃ root ∈ roots, if withSubtree then Relation.ReflTransGen directory.IsParent root category
        else category = root := by
  cases withSubtree with
  | false => simp [Context.extent]
  | true => simp [Context.extent, Context.mem_subtree_iff, Context.Below, hasChild_context]

/-- A slug is not met if it names no category, or one that is hidden. -/
theorem seen?_eq_none_iff {slug : String} : directory.seen? guardian slug = none ↔
    ∀ category ∈ directory.category? slug, guardian.seesCategory category = false := by
  rw [seen?, Option.filter_eq_none_iff]
  simp only [Bool.not_eq_true, Option.mem_def]

/-- What may be seen of what some slugs name is all of it, if each of them is met. -/
theorem mem_filterMap_seen?_iff {slugs : List String}
    (h : ¬ ∃ slug ∈ slugs, directory.seen? guardian slug = none) {category : CategoryId} :
    category ∈ slugs.filterMap (directory.seen? guardian) ↔
      ∃ slug ∈ slugs, category ∈ directory.category? slug := by
  rw [List.mem_filterMap]
  refine exists_congr fun slug => and_congr_right fun hslug => ?_
  have hseen : directory.seen? guardian slug ≠ none := fun hnone => h ⟨slug, hslug, hnone⟩
  obtain ⟨named, hnamed⟩ := Option.ne_none_iff_exists'.1 hseen
  have hcategory : directory.category? slug = some named := (Option.filter_eq_some_iff.1 hnamed).1
  rw [hnamed, hcategory]
  rfl

/-- **What a clause for categories asks for.**  Nothing passes if and only if some slug of its list
names no category or a hidden one.  Otherwise the categories that the slugs name are asked for, with
the flag `=`, and without it these and all that lies below them. -/
theorem compile_slugs (directory : Directory) (guardian : Guardian) (taggingEnabled : Bool)
    (now : Instant) {flag : Option Flag} {key value : String} {list : ValueList}
    (hkey : key = "category" ∨ key = "categories") (hflag : flag = none ∨ flag = some .strict)
    (hlist : ValueList.parse? [.comma] Clause.isSlugChar value = some list) :
    let context := directory.context guardian taggingEnabled now
    let result := (context.compile (clauseText flag key value)).value
    (result = .nothing ↔ ∃ slug ∈ list.items, ∀ category ∈ directory.category? slug,
        guardian.seesCategory category = false) ∧
      (result ≠ .nothing → ∃ categories, result = .chain [.categoryIn categories] ∧
        ∀ category, category ∈ categories ↔
          ∃ slug ∈ list.items, ∃ root ∈ directory.category? slug,
            if flag = some .strict then category = root
            else Relation.ReflTransGen directory.IsParent root category) := by
  intro context result
  have hexclude : flag ≠ some .exclude := by rcases hflag with rfl | rfl <;> decide
  have hresult : result =
      (ofSlugs context list.items.eraseDups (flag ≠ some .strict)).value.filter :=
    context.value_compile_categories hkey hexclude hlist
  rw [value_ofSlugs_context] at hresult
  have hitems : (∃ slug ∈ list.items.eraseDups, directory.seen? guardian slug = none) ↔
      ∃ slug ∈ list.items, ∀ category ∈ directory.category? slug,
        guardian.seesCategory category = false := by
    simp only [List.mem_eraseDups, seen?_eq_none_iff]
  rw [← hitems]
  by_cases hlacking : ∃ slug ∈ list.items.eraseDups, directory.seen? guardian slug = none
  · rw [if_pos hlacking] at hresult
    exact ⟨iff_of_true hresult hlacking, fun hne => absurd hresult hne⟩
  · rw [if_neg hlacking] at hresult
    have hne : result ≠ .nothing := by
      rw [hresult]
      exact nofun
    refine ⟨iff_of_false hne hlacking, fun _ => ⟨_, hresult, fun category => ?_⟩⟩
    have hflag : ∀ root, (if decide (flag ≠ some .strict) = true then
          Relation.ReflTransGen directory.IsParent root category else category = root) ↔
        if flag = some .strict then category = root
          else Relation.ReflTransGen directory.IsParent root category := fun root => by
      simp only [decide_eq_true_eq, ite_not]
    simp only [mem_extent_context_iff, hflag, RankedSet.mem_ofList,
      mem_filterMap_seen?_iff hlacking, List.mem_eraseDups]
    constructor
    · rintro ⟨root, ⟨slug, hslug, hroot⟩, hbelow⟩
      exact ⟨slug, hslug, root, hroot, hbelow⟩
    · rintro ⟨slug, hslug, root, hroot, hbelow⟩
      exact ⟨root, ⟨slug, hslug, hroot⟩, hbelow⟩

/-- A slug that stands twice and another one for the same category, which leads round to a category
above it. -/
theorem compile_slugs_circle :
    let directory := (((∅ : Directory).addCategory ⟨⟨1⟩, "news", none⟩).addCategory
      ⟨⟨2⟩, "sports", some ⟨1⟩⟩).addCategory ⟨⟨1⟩, "round", some ⟨2⟩⟩
    let guardian := ({ hidden := .ofList [⟨3⟩] } : Permissions).guardian
    let context := directory.context guardian true ⟨0, 0, by decide, by decide⟩
    let value := "sports,news:sports,sports"
    let result := (context.compile (clauseText none "categories" value)).value
    ValueList.parse? [.comma] Clause.isSlugChar value =
        some ⟨["sports", "news:sports", "sports"], some .comma⟩ ∧
      result ≠ .nothing ∧
      ∃ categories, result = .chain [.categoryIn categories] ∧ ⟨1⟩ ∈ categories := by
  intro directory guardian context value result
  have hlist : ValueList.parse? [.comma] Clause.isSlugChar value =
      some ⟨["sports", "news:sports", "sports"], some .comma⟩ := by decide +kernel
  have hnamed : ∀ slug ∈ ["sports", "news:sports", "sports"],
      directory.category? slug = some ⟨2⟩ := by decide +kernel
  have hround : directory.IsParent ⟨2⟩ ⟨1⟩ := ⟨⟨⟨1⟩, "round", some ⟨2⟩⟩, by decide, rfl, rfl⟩
  obtain ⟨hnothing, hchain⟩ := compile_slugs directory guardian true
    ⟨0, 0, by decide, by decide⟩ (.inr rfl) (.inl rfl) hlist
  have hne : result ≠ .nothing := by
    intro h
    obtain ⟨slug, hslug, hhidden⟩ := hnothing.1 h
    exact absurd (hhidden ⟨2⟩ (hnamed slug hslug)) (by decide)
  obtain ⟨categories, hresult, hmem⟩ := hchain hne
  refine ⟨hlist, hne, categories, hresult, (hmem ⟨1⟩).2 ?_⟩
  exact ⟨"sports", List.mem_cons_self, ⟨2⟩, hnamed _ List.mem_cons_self, .single hround⟩

end Directory

end ForumQuery
