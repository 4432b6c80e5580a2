import ForumQuery.Directory.Permissions
import ForumQuery.Proofs.Directory.Lookup
import ForumQuery.Proofs.Exchange
import ForumQuery.Proofs.Names
import ForumQuery.Proofs.Subtree

/-!
# Merging — a list of slugs or levels is its items one by one

A slug of a list is met if the category that it names may be seen (`Directory.seen?`).  The guardian
is asked about the categories that were found and only their number is compared with that of the
slugs; but each slug finds one category at most, so this number falls short exactly if some slug is
not met (`Directory.value_ofSlugs_context`).  What the slugs ask for, with all that lies below it,
is what they ask for one by one (`Context.mem_extent_iff`).  So a list of slugs adds what its slugs
add (`Directory.equivalent_ofSlugs`), and in the same way a list of levels adds what its items add,
unknown names among them (`Clause.equivalent_levels`).

In a query, then, a clause with a list can be written as clauses with its items
(`Directory.compile_list_eq_compile_items`).
-/

namespace ForumQuery

open Query Contribution Text

/-! ### Categories -/

namespace Context

/-- Some categories, with all that lie below them if these are wanted too. -/
def extent (context : Context) (withSubtree : Bool) (roots : RankedSet CategoryId) :
    RankedSet CategoryId :=
  if withSubtree then (context.subtree roots).value else roots

/-- The extent of some categories is made of the extents of each. -/
theorem mem_extent_iff {context : Context} {withSubtree : Bool} {roots : RankedSet CategoryId}
    {category : CategoryId} : category ∈ context.extent withSubtree roots ↔
      ∃ root ∈ roots, category ∈ context.extent withSubtree (.ofList [root]) := by
  cases withSubtree with
  | false => simp [extent]
  | true => simp [extent, mem_subtree_iff]

end Context

namespace Directory

variable {directory : Directory} {guardian : Guardian} {taggingEnabled : Bool} {now : Instant}

/-- The category that a slug names, if it may be seen. -/
def seen? (directory : Directory) (guardian : Guardian) (slug : String) : Option CategoryId :=
  (directory.category? slug).filter guardian.seesCategory

/-- **What slugs add**: nothing can pass if some slug names no category that may be seen, or else
the extent of what they name. -/
theorem value_ofSlugs_context (slugs : List String) (withSubtree : Bool) :
    let context := directory.context guardian taggingEnabled now
    (ofSlugs context slugs withSubtree).value =
      if ∃ slug ∈ slugs, directory.seen? guardian slug = none then collapse
      else scope (.categories (context.extent withSubtree
        (.ofList (slugs.filterMap (directory.seen? guardian))))) := by
  intro context
  have hvisible : (slugs.filterMap directory.category?).filter guardian.seesCategory =
      slugs.filterMap (directory.seen? guardian) := List.filter_filterMap
  have hshort : (slugs.filterMap (directory.seen? guardian)).length < slugs.length ↔
      ∃ slug ∈ slugs, directory.seen? guardian slug = none := by
    simp only [List.length_filterMap_lt_length_iff_exists, exists_prop]
  simp only [Clause.value_ofSlugs, context, value_lookupCategories_context, guardian_context,
    hvisible, hshort]
  rfl

/-- **A list of slugs adds what its slugs add**, those that stand twice counted once. -/
theorem equivalent_ofSlugs {slugs : List String} (hne : slugs ≠ []) (withSubtree : Bool) :
    let context := directory.context guardian taggingEnabled now
    Equivalent [(ofSlugs context slugs.eraseDups withSubtree).value]
      (slugs.map fun slug => (ofSlugs context [slug] withSubtree).value) := by
  intro context
  by_cases h : ∃ slug ∈ slugs, directory.seen? guardian slug = none
  · obtain ⟨slug, hslug, hnone⟩ := h
    refine equivalent_of_collapse (List.mem_singleton.2 ?_) (List.mem_map.2 ⟨slug, hslug, ?_⟩)
    · rw [value_ofSlugs_context, if_pos ⟨slug, List.mem_eraseDups.2 hslug, hnone⟩]
    · rw [value_ofSlugs_context, if_pos ⟨slug, List.mem_singleton_self _, hnone⟩]
  · -- every slug is met, so each of them adds the scope of its extent
    have hsome : ∀ slug ∈ slugs, (ofSlugs context [slug] withSubtree).value =
        scope (.categories (context.extent withSubtree
          (.ofList ([slug].filterMap (directory.seen? guardian))))) := by
      intro slug hslug
      rw [value_ofSlugs_context, if_neg]
      rintro ⟨other, hother, hnone⟩
      rw [List.mem_singleton.1 hother] at hnone
      exact h ⟨slug, hslug, hnone⟩
    have hall : ¬ ∃ slug ∈ slugs.eraseDups, directory.seen? guardian slug = none := by
      rintro ⟨slug, hslug, hnone⟩
      exact h ⟨slug, List.mem_eraseDups.1 hslug, hnone⟩
    rw [value_ofSlugs_context, if_neg hall, List.map_congr_left hsome]
    refine equivalent_scopes Scope.categories (fun _ _ => rfl) _ hne fun category => ?_
    rw [Context.mem_extent_iff]
    constructor
    · rintro ⟨root, hroot, hcategory⟩
      rw [RankedSet.mem_ofList, List.mem_filterMap] at hroot
      obtain ⟨slug, hslug, hnamed⟩ := hroot
      refine ⟨slug, List.mem_eraseDups.1 hslug, ?_⟩
      rwa [List.filterMap_cons_some hnamed, List.filterMap_nil]
    · rintro ⟨slug, hslug, hcategory⟩
      obtain ⟨root, hnamed⟩ := Option.ne_none_iff_exists'.1 fun hnone => h ⟨slug, hslug, hnone⟩
      rw [List.filterMap_cons_some hnamed, List.filterMap_nil] at hcategory
      refine ⟨root, ?_, hcategory⟩
      rw [RankedSet.mem_ofList, List.mem_filterMap]
      exact ⟨slug, List.mem_eraseDups.2 hslug, hnamed⟩

end Directory

/-! ### Levels -/

/-- **A list of levels adds what its items add**, the unknown ones among them. -/
theorem Clause.equivalent_levels (context : Context) {items : List String} (hne : items ≠ []) :
    Equivalent [((levels (items.filterMap Level.ofName?)).contribution context).value]
      (items.map fun item =>
        ((levels ([item].filterMap Level.ofName?)).contribution context).value) := by
  simp only [value_contribution_levels]
  cases context.guardian.actor with
  | none =>
      obtain ⟨item, hitem⟩ := List.exists_mem_of_ne_nil _ hne
      exact equivalent_of_collapse List.mem_cons_self (List.mem_map.2 ⟨item, hitem, rfl⟩)
  | some actor =>
      refine equivalent_scopes (Scope.levels actor) (fun _ _ => rfl) _ hne fun level => ?_
      simp only [RankedSet.mem_ofList, List.mem_filterMap, List.mem_singleton, exists_eq_left]

/-! ### Queries -/

/-- **A clause with a list of slugs or levels can be written as clauses with its items**, wherever
it stands in a query. -/
theorem Directory.compile_list_eq_compile_items (directory : Directory) (guardian : Guardian)
    (taggingEnabled : Bool) (now : Instant) (first last : String) :
    let context := directory.context guardian taggingEnabled now
    (∀ flag slugs listed repeated, flag ≠ some .exclude → slugs ≠ [] →
      (∀ slug ∈ slugs, NameOver Clause.isSlugChar slug) →
      Spaced [first, clauseText flag "category" (",".intercalate slugs), last] listed →
      Spaced (first :: slugs.map (clauseText flag "category") ++ [last]) repeated →
        (context.compile listed).value = (context.compile repeated).value) ∧
      ∀ items listed repeated, items ≠ [] →
        (∀ item ∈ items, Solid item ∧ ',' ∉ item.toList ∧ item ≠ "pinned" ∧
          item ≠ "bookmarked") →
        Spaced [first, clauseText none "in" (",".intercalate items), last] listed →
        Spaced (first :: items.map (clauseText none "in") ++ [last]) repeated →
          (context.compile listed).value = (context.compile repeated).value := by
  intro context
  constructor
  · intro flag slugs listed repeated hflag hne hslugs hlisted hrepeated
    have hone : ∀ slug ∈ slugs, context.yields (clauseText flag "category" slug) =
        [(ofSlugs context [slug] (flag ≠ some .strict)).value] := by
      intro slug hslug
      have hyields := context.yields_categories hflag (List.cons_ne_nil slug [])
        (List.forall_mem_singleton.2 (hslugs slug hslug))
      rwa [String.intercalate_singleton] at hyields
    have hlist := context.yields_between hlisted
    rw [context.yields_categories hflag hne hslugs] at hlist
    exact Context.value_compile_eq_of_equivalent (equivalent_ofSlugs hne _) hlist
      (context.yields_between_map hone hrepeated)
  · intro items listed repeated hne hitems hlisted hrepeated
    have hsolid : ∀ item ∈ items, Solid item := fun item hitem => (hitems item hitem).1
    have hplain : ∀ item ∈ items, ',' ∉ item.toList ∧ item ≠ "pinned" ∧ item ≠ "bookmarked" :=
      fun item hitem => (hitems item hitem).2
    have hone : ∀ item ∈ items, context.yields (clauseText none "in" item) =
        [((Clause.levels ([item].filterMap Level.ofName?)).contribution context).value] := by
      intro item hitem
      have hyields := context.yields_levels (List.cons_ne_nil item [])
        (List.forall_mem_singleton.2 (hsolid item hitem))
        (List.forall_mem_singleton.2 (hplain item hitem))
      rwa [String.intercalate_singleton] at hyields
    have hlist := context.yields_between hlisted
    rw [context.yields_levels hne hsolid hplain] at hlist
    exact Context.value_compile_eq_of_equivalent (Clause.equivalent_levels context hne) hlist
      (context.yields_between_map hone hrepeated)

/-- A slug that stands twice and one below it, between clauses that merge with them, and a list of
levels with a name that is none. -/
theorem Directory.compile_list_eq_compile_items_nested :
    let directory := ((∅ : Directory).addCategory ⟨⟨1⟩, "tech", none⟩).addCategory
      ⟨⟨2⟩, "rust", some ⟨1⟩⟩
    let guardian := ({ actor := some ⟨42⟩ } : Permissions).guardian
    let context := directory.context guardian true ⟨0, 0, by decide, by decide⟩
    let first := "category:rust in:muted"
    let slugs := clauseText none "category" (",".intercalate ["tech", "tech:rust", "tech"])
    let levels := clauseText none "in" (",".intercalate ["watching", "none"])
    slugs = "category:tech,tech:rust,tech" ∧ levels = "in:watching,none" ∧
      (context.compile (first ++ " " ++ (slugs ++ " " ++ "in:tracking"))).value =
        (context.compile (first ++ " " ++ (clauseText none "category" "tech" ++ " " ++
          (clauseText none "category" "tech:rust" ++ " " ++
            (clauseText none "category" "tech" ++ " " ++ "in:tracking"))))).value ∧
      (context.compile (first ++ " " ++ (levels ++ " " ++ "in:tracking"))).value =
        (context.compile (first ++ " " ++ (clauseText none "in" "watching" ++ " " ++
          (clauseText none "in" "none" ++ " " ++ "in:tracking")))).value := by
  intro directory guardian context first slugs levels
  have hgap : IsGap " " := ⟨by decide, List.all_eq_true.1 (by decide)⟩
  have hnames : ∀ slug ∈ ["tech", "tech:rust", "tech"], NameOver Clause.isSlugChar slug := by
    decide
  have hitems : ∀ item ∈ ["watching", "none"], Solid item ∧ ',' ∉ item.toList ∧
      item ≠ "pinned" ∧ item ≠ "bookmarked" := by decide
  obtain ⟨hslugs, hlevels⟩ :=
    compile_list_eq_compile_items directory guardian true _ first "in:tracking"
  refine ⟨by decide +kernel, by decide +kernel, ?_, ?_⟩
  · exact hslugs none _ _ _ nofun (List.cons_ne_nil _ _) hnames
      (.cons _ hgap (.cons _ hgap (.single _)))
      (.cons _ hgap (.cons _ hgap (.cons _ hgap (.cons _ hgap (.single _)))))
  · exact hlevels _ _ _ (List.cons_ne_nil _ _) hitems
      (.cons _ hgap (.cons _ hgap (.single _)))
      (.cons _ hgap (.cons _ hgap (.cons _ hgap (.single _))))

end ForumQuery
