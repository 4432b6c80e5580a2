import ForumQuery.Directory.Permissions
import ForumQuery.Proofs.Alone
import ForumQuery.Proofs.Directory.Lookup
import ForumQuery.Proofs.Rights

/-!
# Hidden — where a hidden category shows

A slug is resolved first, and only then is the guardian asked about the category that was found.  So
a hidden category takes the place of a visible one that comes after it, and it leads to a visible one
below it (`compile_parent_differs`).  A slug is *undisturbed* (`Directory.Undisturbed`) if that does
not happen, which is exactly if it names the same once the hidden categories are taken away, but for
these (`Directory.category?_withoutHidden_iff`).  So a query for undisturbed slugs alone compiles to
the same without the hidden categories, and a query for one slug does so only then
(`compile_withoutHidden`).
-/

namespace ForumQuery

open Query Contribution

/-! ### What a slug names without the hidden categories -/

/-- A hidden category does not come before one that may be seen. -/
def Guardian.SeesFirst (guardian : Guardian) (categories : List CategoryId) : Prop :=
  ∀ first ∈ categories.head?, guardian.seesCategory first = true ∨
    ∀ other ∈ categories, guardian.seesCategory other = false

/-- The first of some categories is also the first that may be seen, or hidden, only where a hidden
category does not come before one that may be seen. -/
theorem Guardian.find?_seesCategory_iff (guardian : Guardian) (categories : List CategoryId) :
    categories.find? guardian.seesCategory = categories.head?.filter guardian.seesCategory ↔
      guardian.SeesFirst categories := by
  cases categories with
  | nil => simp [SeesFirst]
  | cons first rest =>
      cases h : guardian.seesCategory first <;> simp [SeesFirst, h, Option.filter_some]

namespace Directory

/-- A directory with the hidden categories taken away. -/
def withoutHidden (directory : Directory) (guardian : Guardian) : Directory :=
  { directory with categories := directory.categories.filter (guardian.seesCategory ·.id) }

/-- Hidden categories do not come between a slug and what it names.  A hidden category of the slug
does not come before one that may be seen.  Nor does one of the second slug of a pair, below the
parent; and where the parent is hidden, the pair names below it, as far as that may be seen, what it
names below the first parent that may be seen. -/
def Undisturbed (directory : Directory) (guardian : Guardian) (slug : String) : Prop :=
  match slugParts slug with
  | (name, none) => guardian.SeesFirst (directory.allBelow none name ++ directory.allNamed name)
  | (name, some child) => ∀ parent ∈ (directory.allBelow none name).head?,
      if guardian.seesCategory parent then
        guardian.SeesFirst (directory.allBelow (some parent) child)
      else
        (directory.allBelow (some parent) child).head?.filter guardian.seesCategory =
          ((directory.allBelow none name).find? guardian.seesCategory).bind fun seen =>
            (directory.allBelow (some seen) child).find? guardian.seesCategory

variable (directory : Directory)

theorem allBelow_withoutHidden (guardian : Guardian) (parent : Option CategoryId) (slug : String) :
    (directory.withoutHidden guardian).allBelow parent slug =
      (directory.allBelow parent slug).filter guardian.seesCategory := by
  simp only [allBelow, withoutHidden, List.filter_map, List.filter_filter, Function.comp_def,
    Bool.and_comm]

theorem allNamed_withoutHidden (guardian : Guardian) (slug : String) :
    (directory.withoutHidden guardian).allNamed slug =
      (directory.allNamed slug).filter guardian.seesCategory := by
  simp only [allNamed, withoutHidden, List.filter_map, List.filter_filter, Function.comp_def,
    Bool.and_comm]

/-- What a slug names without the hidden categories: each part the first that may be seen. -/
theorem category?_withoutHidden (guardian : Guardian) (slug : String) :
    (directory.withoutHidden guardian).category? slug =
      match slugParts slug with
      | (name, none) => (directory.allBelow none name ++ directory.allNamed name).find?
          guardian.seesCategory
      | (name, some child) =>
          ((directory.allBelow none name).find? guardian.seesCategory).bind fun parent =>
            (directory.allBelow (some parent) child).find? guardian.seesCategory := by
  rw [category?_eq]
  obtain ⟨name, child⟩ := slugParts slug
  cases child with
  | none =>
      simp only [allBelow_withoutHidden, allNamed_withoutHidden, ← List.filter_append,
        List.head?_filter]
  | some child => simp only [allBelow_withoutHidden, List.head?_filter]

/-- **A slug is undisturbed if and only if it names the same without the hidden categories**, but
for these. -/
theorem category?_withoutHidden_iff (guardian : Guardian) (slug : String) :
    (directory.withoutHidden guardian).category? slug =
        (directory.category? slug).filter guardian.seesCategory ↔
      directory.Undisturbed guardian slug := by
  rw [category?_withoutHidden, category?_eq, Undisturbed]
  obtain ⟨name, child⟩ := slugParts slug
  cases child with
  | none => exact guardian.find?_seesCategory_iff _
  | some child =>
      dsimp only
      cases hall : directory.allBelow none name with
      | nil => simp
      | cons parent rest =>
          simp only [List.head?_cons, Option.bind_some, Option.mem_some_iff, forall_eq']
          cases hsees : guardian.seesCategory parent with
          | true => simp [hsees, guardian.find?_seesCategory_iff]
          | false => simp [hsees, eq_comm]

/-- What is named without the hidden categories may be seen. -/
theorem filter_category?_withoutHidden (guardian : Guardian) (slug : String) :
    ((directory.withoutHidden guardian).category? slug).filter guardian.seesCategory =
      (directory.withoutHidden guardian).category? slug := by
  cases h : (directory.withoutHidden guardian).category? slug with
  | none => rfl
  | some category =>
      rw [category?_withoutHidden] at h
      split at h
      · rw [Option.filter_some, if_pos (List.find?_some h)]
      · obtain ⟨parent, -, h⟩ := Option.bind_eq_some_iff.1 h
        rw [Option.filter_some, if_pos (List.find?_some h)]

variable {directory} {guardian : Guardian} {taggingEnabled : Bool} {now : Instant}

/-! ### Queries for categories alone -/

/-- Undisturbed slugs add the same without the hidden categories. -/
theorem value_ofSlugs_withoutHidden {slugs : List String}
    (h : ∀ slug ∈ slugs, directory.Undisturbed guardian slug) :
    (ofSlugs (directory.context guardian taggingEnabled now) slugs false).value =
      (ofSlugs ((directory.withoutHidden guardian).context guardian taggingEnabled now) slugs
        false).value := by
  have hvisible : (slugs.filterMap directory.category?).filter guardian.seesCategory =
      (slugs.filterMap (directory.withoutHidden guardian).category?).filter
        guardian.seesCategory := by
    rw [List.filter_filterMap, List.filter_filterMap]
    refine List.filterMap_congr fun slug hs => ?_
    rw [filter_category?_withoutHidden, (category?_withoutHidden_iff ..).2 (h slug hs)]
  simp only [Clause.value_ofSlugs, value_lookupCategories_context, guardian_context, hvisible,
    Bool.false_eq_true, if_false]

end Directory

/-- The slugs that a clause names. -/
def Clause.slugs : Clause → List String
  | categories slugs _ => slugs
  | pinned | bookmarked | levels _ | status _ | tags .. => []

/-- The slugs that the clauses of a query name. -/
def slugsNamed (query : String) : List String :=
  ((Token.scan query).filterMap Clause.ofToken?).flatMap Clause.slugs

/-- The filter of one category, or of none. -/
def Filter.inCategory : Option CategoryId → Filter
  | some category => .chain [.categoryIn (.ofList [category])]
  | none => .nothing

theorem Filter.inCategory_injective : Function.Injective inCategory := by
  intro a b h
  cases a with
  | none =>
      cases b with
      | none => rfl
      | some b => cases h
  | some a =>
      cases b with
      | none => cases h
      | some b =>
          simp only [inCategory, chain.injEq, List.cons.injEq, and_true,
            Predicate.categoryIn.injEq] at h
          have hmem : a ∈ RankedSet.ofList [b] := h ▸ RankedSet.mem_ofList.2 List.mem_cons_self
          rw [RankedSet.mem_ofList, List.mem_singleton] at hmem
          rw [hmem]

namespace Directory

variable {directory : Directory} {guardian : Guardian} {taggingEnabled : Bool} {now : Instant}

/-- One slug adds the category that it names, where that may be seen. -/
theorem value_ofSlugs_singleton (slug : String) :
    (ofSlugs (directory.context guardian taggingEnabled now) [slug] false).value =
      match (directory.category? slug).filter guardian.seesCategory with
      | some category => scope (.categories (.ofList [category]))
      | none => collapse := by
  have hvisible : ([slug].filterMap directory.category?).filter guardian.seesCategory =
      ((directory.category? slug).filter guardian.seesCategory).toList := by
    rw [List.filterMap_eq_flatMap_toList, List.flatMap_singleton, Option.toList_filter]
  simp only [Clause.value_ofSlugs, value_lookupCategories_context, guardian_context, hvisible]
  cases (directory.category? slug).filter guardian.seesCategory <;> rfl

/-- A query for one category alone compiles to that category, where it may be seen. -/
theorem value_compile_slug {query slug : String} {token : Token} (h : Token.scan query = [token])
    (hclause : Clause.ofToken? token = some (.categories [slug] false)) :
    ((directory.context guardian taggingEnabled now).compile query).value =
      .inCategory ((directory.category? slug).filter guardian.seesCategory) := by
  have hyields : (directory.context guardian taggingEnabled now).yields query =
      [(ofSlugs (directory.context guardian taggingEnabled now) [slug] false).value] := by
    rw [Context.yields, h, List.map_singleton, Context.yield_of_ofToken? _ hclause]
    rfl
  rw [Context.value_compile_of_yields hyields, value_ofSlugs_singleton]
  cases (directory.category? slug).filter guardian.seesCategory <;> rfl

end Directory

/-- **What slugs name is resolved before it is asked what may be seen.**  So hidden categories do
not show where they disturb no slug of a query, and they do where they disturb its only one. -/
theorem compile_withoutHidden (directory : Directory) (guardian : Guardian) (taggingEnabled : Bool)
    (now : Instant) :
    let all := directory.context guardian taggingEnabled now
    let bare := (directory.withoutHidden guardian).context guardian taggingEnabled now
    (∀ query,
      (∀ token ∈ Token.scan query, token.AsksForCategories → token.flag = some .strict) →
      (∀ slug ∈ slugsNamed query, directory.Undisturbed guardian slug) →
        (all.compile query).value = (bare.compile query).value) ∧
      ∀ query token slug, Token.scan query = [token] →
        Clause.ofToken? token = some (.categories [slug] false) →
          ((all.compile query).value = (bare.compile query).value ↔
            directory.Undisturbed guardian slug) := by
  intro all bare
  refine ⟨fun query hstrict hslugs => ?_, fun query token slug hscan hclause => ?_⟩
  · refine Context.value_narrow_congr (List.map_congr_left fun token ht => ?_) .everything
    refine Directory.yield_congr (fun names => ?_) fun slugs withSubtree hclause => ?_
    · simp only [Directory.value_rows, Directory.value_row?]
      rfl
    · obtain ⟨hkey, hflag⟩ := Clause.of_ofToken?_eq_categories hclause
      rw [hflag (hstrict token ht hkey)]
      refine Directory.value_ofSlugs_withoutHidden fun slug hs => hslugs slug ?_
      exact List.mem_flatMap.2 ⟨_, List.mem_filterMap.2 ⟨token, ht, hclause⟩, hs⟩
  · rw [Directory.value_compile_slug hscan hclause, Directory.value_compile_slug hscan hclause,
      Filter.inCategory_injective.eq_iff, Directory.filter_category?_withoutHidden, eq_comm,
      Directory.category?_withoutHidden_iff]

/-- A hidden category leads to a visible one below it, which is not found without it. -/
theorem compile_parent_differs : ¬ ∀ (directory : Directory) (permissions : Permissions)
    (taggingEnabled : Bool) (now : Instant) (query : String),
    (∀ token ∈ Token.scan query, token.AsksForCategories → token.flag = some .strict) →
      ((directory.context permissions.guardian taggingEnabled now).compile query).value =
        (((directory.withoutHidden permissions.guardian).context permissions.guardian
          taggingEnabled now).compile query).value := by
  intro h
  let directory := ((∅ : Directory).addCategory ⟨⟨1⟩, "staff", none⟩).addCategory
    ⟨⟨2⟩, "tech", some ⟨1⟩⟩
  let permissions : Permissions := { actor := some ⟨42⟩, hidden := .ofList [⟨1⟩] }
  let now : Instant := ⟨0, 0, by decide, by decide⟩
  have hflag : ∀ token ∈ Token.scan "=category:staff:tech", token.AsksForCategories →
      token.flag = some .strict := by
    have hscan : (Token.scan "=category:staff:tech").map Token.flag = [some .strict] := by
      decide +kernel
    intro token ht _
    exact List.mem_singleton.1 (hscan ▸ List.mem_map_of_mem ht)
  have hled : ((directory.context permissions.guardian true now).compile
      "=category:staff:tech").value = .chain [.categoryIn (.ofList [⟨2⟩])] := by decide +kernel
  have hlost : (((directory.withoutHidden permissions.guardian).context permissions.guardian true
      now).compile "=category:staff:tech").value = .nothing := by decide +kernel
  have heq := h directory permissions true now _ hflag
  rw [hled, hlost] at heq
  cases heq

end ForumQuery
