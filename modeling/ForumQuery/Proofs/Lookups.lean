import ForumQuery.Proofs.Substance

/-!
# Lookups — one that fails is one that finds nothing

Any of the lookups of a resolver may fail, for some names or categories and not for others.  The
*mended* resolver answers with an empty list wherever the other fails (`Resolver.mended`).  Contexts
in which every token adds the same, by the same questions, narrow every filter alike
(`Context.narrow_congr`); so a site and the mended one do (`narrow_mended`).

What a failure leads to is therefore what finding nothing leads to.  A clause that wants all of its
tags collapses, and so does one of categories; a clause that wants any of its tags is inert; and a
search among categories goes on without the children that a lookup failed to find
(`Context.mem_subtree_iff_finds`).
-/

namespace ForumQuery

open Query

/-! ### Mended sites -/

/-- What a lookup answers, with nothing found in place of a failure. -/
def mend {α : Type} : Except Failure (List α) → Except Failure (List α)
  | .ok rows => .ok rows
  | .error _ => .ok []

@[simp] theorem found_mend {α : Type} (answer : Except Failure (List α)) :
    found (mend answer) = found answer := by
  cases answer <;> rfl

/-- The resolver that finds nothing where another one fails. -/
def Resolver.mended (resolver : Resolver) : Resolver where
  tags guardian names := mend <$> resolver.tags guardian names
  categories slugs := mend (resolver.categories slugs)
  children category := mend (resolver.children category)

namespace Context

variable {context : Context}

/-- A context with its resolver mended. -/
def mended (context : Context) : Context := { context with resolver := context.resolver.mended }

theorem lookupTags_mended (names : List String) :
    context.mended.lookupTags names = context.lookupTags names := by
  refine Consult.ext (found_mend _) ?_
  simp [lookupTags, mended, Resolver.mended]

theorem lookupCategories_mended (slugs : List String) :
    context.mended.lookupCategories slugs = context.lookupCategories slugs :=
  congrArg (Consult.ask _) (found_mend _)

theorem lookupChildren_mended (category : CategoryId) :
    context.mended.lookupChildren category = context.lookupChildren category :=
  congrArg (Consult.ask _) (found_mend _)

end Context

/-- A search asks and finds the same, whichever of its steps fail. -/
theorem Frontier.search_mended (context : Context) (frontier : Frontier) :
    search context.mended frontier = search context frontier := by
  fun_induction search context frontier with
  | case1 seen => rw [search]
  | case2 seen category rest ih =>
      rw [search, Context.lookupChildren_mended]
      exact congrArg (context.lookupChildren category >>= ·) (funext ih)

/-- **A clause asks and adds the same.** -/
theorem Clause.contribution_mended (context : Context) (clause : Clause) :
    clause.contribution context.mended = clause.contribution context := by
  cases clause with
  | pinned | bookmarked | levels => rfl
  | status wanted => cases wanted <;> rfl
  | tags names mode exclude =>
      rw [contribution, contribution, Context.lookupTags_mended]
      rfl
  | categories slugs withSubtree =>
      simp only [contribution, Contribution.ofSlugs, Context.lookupCategories_mended,
        Context.subtree, Frontier.search_mended]
      rfl

namespace Context

theorem contribution_mended (context : Context) (token : Token) :
    context.mended.contribution token = context.contribution token := by
  unfold contribution
  split
  · exact Clause.contribution_mended context _
  · rfl

/-- **Contexts in which every token adds the same narrow alike.** -/
theorem narrow_congr {first second : Context}
    (h : ∀ token, first.contribution token = second.contribution token) (base : Filter)
    (query : String) : first.narrow base query = second.narrow base query := by
  have hrun : ∀ (tokens : List Token) (builder : Builder),
      builder.takeAll first tokens = builder.takeAll second tokens := by
    intro tokens
    induction tokens with
    | nil => exact fun _ => rfl
    | cons token rest ih =>
        intro builder
        rw [Builder.takeAll, Builder.takeAll, Builder.take, Builder.take, h]
        exact congrArg (_ >>= ·) (funext ih)
  rw [narrow, narrow, hrun]

end Context

/-! ### What a failure leads to -/

/-- Groups of tags none of which has a tag. -/
theorem Contribution.ofGroups_of_empty {groups : List (RankedSet TagId)} (hne : groups ≠ [])
    (h : ∀ tags ∈ groups, tags = ∅) (mode : MatchMode) (exclude : Bool) :
    ofGroups groups mode exclude = if mode = .all then collapse else inert := by
  cases mode with
  | all =>
      obtain ⟨tags, ht⟩ := List.exists_mem_of_ne_nil _ hne
      exact ofGroups_of_isEmpty ht (RankedSet.isEmpty_iff_eq_empty.2 (h tags ht)) exclude
  | any =>
      refine ofGroups_of_forall_notMem (fun tags ht tag htag => ?_) exclude
      exact RankedSet.not_mem_empty tag (h tags ht ▸ htag)

namespace Context

variable {context : Context}

/-- **What a clause for tags adds when their lookup fails.** -/
theorem yield_of_tags_error {token : Token} {names : List String} {mode : MatchMode}
    {exclude : Bool} (hclause : Clause.ofToken? token = some (.tags names mode exclude))
    {failure : Failure}
    (h : (context.resolver.tags context.guardian names).value = .error failure) :
    context.yield token =
      if context.taggingEnabled ∧ mode = .all then .collapse else .inert := by
  have hnames : names ≠ [] := Clause.listed_of_ofToken? hclause
  have hrows : (context.lookupTags names).value = [] := by
    rw [lookupTags, Consult.value_bind, Consult.value_bind, h]
    rfl
  have hempty : ∀ tags ∈ names.map (TagRow.group []), tags = ∅ :=
    List.forall_mem_map.2 fun _ _ => rfl
  rw [context.yield_of_ofToken? hclause, Clause.value_contribution_tags_of_ne_nil _ hnames,
    hrows, Contribution.ofGroups_of_empty (mt List.map_eq_nil_iff.1 hnames) hempty, ite_and]

/-- **What a clause for categories adds when their lookup fails.** -/
theorem yield_of_categories_error {token : Token} {slugs : List String} {withSubtree : Bool}
    (hclause : Clause.ofToken? token = some (.categories slugs withSubtree)) {failure : Failure}
    (h : context.resolver.categories slugs = .error failure) : context.yield token = .collapse := by
  have hslugs : slugs ≠ [] := Clause.listed_of_ofToken? hclause
  have hfound : (context.lookupCategories slugs).value = [] := by
    rw [lookupCategories, Consult.value_ask, h]
    rfl
  rw [context.yield_of_ofToken? hclause, Clause.contribution, Clause.value_ofSlugs, hfound]
  exact if_pos (List.length_pos_iff.2 hslugs)

/-- Nothing passes a query with a token that collapses. -/
theorem value_narrow_eq_nothing {query : String} {token : Token} (hmem : token ∈ Token.scan query)
    (h : context.yield token = .collapse) (base : Filter) :
    (context.narrow base query).value = .nothing := by
  cases base with
  | nothing => exact context.value_narrow_nothing query
  | chain base => exact value_narrow_eq_nothing_iff.2 (h ▸ List.mem_map_of_mem hmem)

/-- The lookup of the children of a category succeeds and finds another. -/
def Finds (context : Context) (parent child : CategoryId) : Prop :=
  ∃ children, context.resolver.children parent = .ok children ∧ child ∈ children

/-- **A search goes on where a lookup fails**: it finds what lies below its roots by lookups that
succeed. -/
theorem mem_subtree_iff_finds (roots : RankedSet CategoryId) (category : CategoryId) :
    category ∈ (context.subtree roots).value ↔
      ∃ root ∈ roots, Relation.ReflTransGen context.Finds root category := by
  have hfinds : context.HasChild = context.Finds := by
    funext parent child
    rw [HasChild, Finds, lookupChildren, Consult.value_ask]
    cases context.resolver.children parent <;> simp [found]
  rw [mem_subtree_iff, Below, hfinds]

end Context

/-- **A lookup that fails is one that finds nothing.**  Where the lookup of tags fails, a clause
that wants all of them lets nothing pass, if tags are in use, and any other clause for them changes
nothing; where the lookup of categories fails nothing passes; and where the lookup of the children
of a category fails, the search goes on from the others. -/
theorem narrow_mended (context : Context) :
    (∀ base query, context.mended.narrow base query = context.narrow base query) ∧
      (∀ query, ∀ token ∈ Token.scan query, ∀ names mode exclude failure,
        Clause.ofToken? token = some (.tags names mode exclude) →
        (context.resolver.tags context.guardian names).value = .error failure →
        (context.taggingEnabled = true ∧ mode = .all →
          ∀ base, (context.narrow base query).value = .nothing) ∧
        (¬ (context.taggingEnabled = true ∧ mode = .all) →
          ∀ builder : Builder, (builder.take context token).value = builder)) ∧
      (∀ query, ∀ token ∈ Token.scan query, ∀ slugs withSubtree failure,
        Clause.ofToken? token = some (.categories slugs withSubtree) →
        context.resolver.categories slugs = .error failure →
        ∀ base, (context.narrow base query).value = .nothing) ∧
      ∀ roots category, category ∈ (context.subtree roots).value ↔
        ∃ root ∈ roots, Relation.ReflTransGen context.Finds root category := by
  refine ⟨Context.narrow_congr context.contribution_mended, ?_, ?_,
    Context.mem_subtree_iff_finds⟩
  · intro query token hmem names mode exclude failure hclause hfailure
    have hyield := Context.yield_of_tags_error hclause hfailure
    refine ⟨fun hall base => ?_, fun hnot builder => ?_⟩
    · rw [if_pos hall] at hyield
      exact Context.value_narrow_eq_nothing hmem hyield base
    · rw [if_neg hnot] at hyield
      rw [Builder.value_take, hyield]
      split <;> rfl
  · intro query token hmem slugs withSubtree failure hclause hfailure base
    have hyield := Context.yield_of_categories_error hclause hfailure
    exact Context.value_narrow_eq_nothing hmem hyield base

/-- Where some lookups fail and others do not: a clause for all of its tags and one of categories
let nothing pass, one for any of its tags is passed over, and a search goes around the category
whose children are not found. -/
theorem narrow_mended_partly :
    let down {α : Type} : Except Failure α := .error (.lookup "down")
    let resolver : Resolver :=
      { tags _ names := pure (if names = ["here"] then .ok [⟨"here", ⟨1⟩, none⟩] else down)
        categories slugs := if slugs = ["here"] then .ok [⟨1⟩] else down
        children category :=
          if category = ⟨1⟩ then .ok [⟨2⟩, ⟨3⟩]
          else if category = ⟨3⟩ then .ok [⟨4⟩] else down }
    let context : Context := ⟨⟨none, fun _ => true, fun _ => false⟩, resolver, true,
      ⟨0, 0, by decide, by decide⟩⟩
    context.mended.compile "tags:here category:here" =
        context.compile "tags:here category:here" ∧
      (context.compile "tags:here -tags:here+lost").value = .nothing ∧
      (∀ builder : Builder,
        (builder.take context ⟨some .exclude, "tags", "here,lost", 0⟩).value = builder) ∧
      (context.compile "category:lost").value = .nothing ∧
      ⟨4⟩ ∈ (context.subtree (.ofList [⟨1⟩])).value := by
  intro down resolver context
  obtain ⟨hmended, htags, hcategories, hsubtree⟩ := narrow_mended context
  refine ⟨hmended .everything _, ?_, ?_, ?_, ?_⟩
  · exact (htags _ ⟨some .exclude, "tags", "here+lost", 10⟩ (by decide +kernel) ["here", "lost"]
      .all true _ (by decide +kernel) rfl).1 ⟨rfl, rfl⟩ .everything
  · exact (htags "-tags:here,lost" ⟨some .exclude, "tags", "here,lost", 0⟩ (by decide +kernel)
      ["here", "lost"] .any true _ (by decide +kernel) rfl).2 (by simp)
  · exact hcategories _ ⟨none, "category", "lost", 0⟩ (by decide +kernel) ["lost"] true _
      (by decide +kernel) rfl .everything
  · refine (hsubtree _ _).2 ⟨⟨1⟩, RankedSet.mem_ofList.2 List.mem_cons_self, ?_⟩
    have hfirst : context.Finds ⟨1⟩ ⟨3⟩ := ⟨[⟨2⟩, ⟨3⟩], rfl, by decide⟩
    have hsecond : context.Finds ⟨3⟩ ⟨4⟩ := ⟨[⟨4⟩], rfl, by decide⟩
    exact .tail (.single hfirst) hsecond

end ForumQuery
