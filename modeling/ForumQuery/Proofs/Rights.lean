import ForumQuery.Proofs.Matching
import ForumQuery.Proofs.Subtree

/-!
# Rights — a query shows nobody more than they may see

A filter keeps *within the rights* of the one who is asking (`Filter.WithinRights`) if every
bookmark and every level in it is theirs, deleted topics are asked for only where they may be seen,
and every category lies below one that may be seen.  Every query compiles to such a filter
(`compile_withinRights`).  Below a category that may be seen there may be hidden ones; a query in
which every clause for categories has the flag `=` asks for none of them.  Where nobody is signed
in, a clause `in:` other than `in:pinned` lets nothing pass, wherever it stands.

What a filter asks for was asked for by some token, so each of these is a fact about what a token
adds.  For actors and deleted topics it is part of `Contribution.Allowed`; for categories it is
`Context.exists_root_of_hasCategory`.
-/

namespace ForumQuery

open Query Contribution

/-! ### What a token asks for -/

/-- A token has the keyword for categories. -/
def Query.Token.AsksForCategories (token : Token) : Prop :=
  token.key = "category" ∨ token.key = "categories"

namespace Clause

theorem ofState_ne_categories (value : String) (slugs : List String) (withSubtree : Bool) :
    ofState value ≠ categories slugs withSubtree := by
  unfold ofState
  split <;> exact nofun

/-- A clause for categories has their keyword, and with the flag `=` it leaves out what lies below
them. -/
theorem of_ofToken?_eq_categories {token : Token} {slugs : List String} {withSubtree : Bool}
    (h : ofToken? token = some (categories slugs withSubtree)) :
    token.AsksForCategories ∧ (token.flag = some .strict → withSubtree = false) := by
  have hstrict : ofCategories? token.flag token.value = some (categories slugs withSubtree) →
      token.flag = some .strict → withSubtree = false := by
    intro hc hflag
    rw [ofCategories?, if_neg (by simp [hflag]), Option.map_eq_some_iff] at hc
    obtain ⟨list, -, hlist⟩ := hc
    cases hlist
    simp [hflag]
  rw [ofToken?] at h
  split at h
  · exact absurd (Option.some.inj h) (ofState_ne_categories _ _ _)
  · simp at h
  · rw [ofTags?] at h
    split at h
    · cases h
    · simp at h
  · next hkey => exact ⟨.inl hkey, hstrict h⟩
  · next hkey => exact ⟨.inr hkey, hstrict h⟩
  · cases h

end Clause

theorem Contribution.scope?_ofGroups (groups : List (RankedSet TagId)) (mode : MatchMode)
    (exclude : Bool) : (ofGroups groups mode exclude).scope? = none := by
  cases mode <;> cases exclude <;> simp only [ofGroups] <;> split <;> rfl

namespace Context

/-- The categories that a clause for categories ends with lie below some that may be seen. -/
theorem exists_root_of_mem {context : Context} {withSubtree : Bool} {resolved : List CategoryId}
    {category : CategoryId} (h : category ∈
      if withSubtree then
        (context.subtree (.ofList (resolved.filter context.guardian.seesCategory))).value
      else .ofList (resolved.filter context.guardian.seesCategory)) :
    ∃ root, context.guardian.seesCategory root = true ∧ context.Below root category ∧
      (withSubtree = false → category = root) := by
  split at h
  · next hsubtree =>
    obtain ⟨root, hr, hbelow⟩ := (context.mem_subtree_iff _ _).1 h
    rw [RankedSet.mem_ofList, List.mem_filter] at hr
    exact ⟨root, hr.2, hbelow, fun hnot => absurd hsubtree (by simp [hnot])⟩
  · rw [RankedSet.mem_ofList, List.mem_filter] at h
    exact ⟨category, h.2, .refl, fun _ => rfl⟩

/-- A category that a token asks for lies below one that may be seen, and is that one where the
token has the flag `=`. -/
theorem exists_root_of_hasCategory {context : Context} {token : Token} {scope : Scope}
    {category : CategoryId} (hs : scope ∈ (context.yield token).scope?)
    (hc : scope.HasCategory category) :
    token.AsksForCategories ∧
      ∃ root, context.guardian.seesCategory root = true ∧ context.Below root category ∧
        (token.flag = some .strict → category = root) := by
  rw [yield, contribution] at hs
  split at hs
  case h_2 => cases hs
  case h_1 clause hclause =>
    cases clause with
    | pinned => cases hs
    | bookmarked =>
        rw [Clause.value_contribution_bookmarked] at hs
        split at hs <;> cases hs
    | levels names =>
        rw [Clause.value_contribution_levels] at hs
        split at hs
        · cases hs
          exact hc.elim
        · cases hs
    | status wanted =>
        rw [Clause.contribution, Clause.value_ofStatus] at hs
        split at hs <;> cases hs
    | tags names mode exclude =>
        rw [Clause.value_contribution_tags] at hs
        split at hs
        · rw [scope?_ofGroups] at hs
          cases hs
        · cases hs
    | categories slugs withSubtree =>
        rw [Clause.contribution, Clause.value_ofSlugs] at hs
        dsimp only at hs
        split at hs
        · cases hs
        · cases hs
          obtain ⟨hkey, hflag⟩ := Clause.of_ofToken?_eq_categories hclause
          obtain ⟨root, hsees, hbelow, hself⟩ := exists_root_of_mem hc
          exact ⟨hkey, root, hsees, hbelow, fun hstrict => hself (hflag hstrict)⟩

/-- Where nobody is signed in, a clause `in:` other than `in:pinned` collapses. -/
theorem yield_eq_collapse_of_visitor {context : Context} (hactor : context.guardian.actor = none)
    {token : Token} (hkey : token.key = "in") (hvalue : token.value ≠ "pinned") :
    context.yield token = .collapse := by
  have hclause : Clause.ofToken? token = some (Clause.ofState token.value) := by
    simp only [Clause.ofToken?, hkey]
  rw [context.yield_of_ofToken? hclause]
  unfold Clause.ofState
  split
  · next h => exact absurd h hvalue
  · rw [Clause.value_contribution_bookmarked, hactor]
  · rw [Clause.value_contribution_levels, hactor]

end Context

/-! ### What a filter asks for -/

namespace Contribution

variable {context : Context} {contributions : List Contribution}

/-- Deleted topics are asked for only where they may be seen. -/
theorem seesDeleted_of_mem_predicates
    (h : ∀ contribution ∈ contributions, contribution.Allowed context)
    (hp : .status .deleted ∈ predicates contributions) :
    context.guardian.seesDeleted none = true := by
  rcases List.mem_append.1 hp with hp | hp
  · obtain ⟨contribution, hc, number, hcondition⟩ := exists_of_mem_conditionsFrom hp
    cases h contribution hc with
    | status hdeleted =>
        cases hcondition
        exact hdeleted rfl
    | pinned | bookmarked | noTag | everyGroup | notEveryGroup | someTag => cases hcondition
    | inert | collapse | levels | categories => cases hcondition
  · obtain ⟨scope, -, hscope⟩ := List.mem_map.1 hp
    cases scope <;> cases hscope

/-- A category that is asked for in the end was asked for by some contribution. -/
theorem exists_hasCategory_of_mem_predicates
    (h : ∀ contribution ∈ contributions, contribution.Allowed context)
    {set : RankedSet CategoryId} (hp : .categoryIn set ∈ predicates contributions)
    {category : CategoryId} (hc : category ∈ set) :
    ∃ contribution ∈ contributions, ∃ scope ∈ contribution.scope?, scope.HasCategory category := by
  rcases List.mem_append.1 hp with hp | hp
  · obtain ⟨contribution, hmem, number, hcondition⟩ := exists_of_mem_conditionsFrom hp
    cases (h contribution hmem).scopeKind?_eq_none hcondition
  · obtain ⟨scope, hs, hscope⟩ := List.mem_map.1 hp
    rw [Scope.predicate_eq_categoryIn_iff.1 hscope] at hs
    rw [← exists_mem_filterMap_scope?]
    exact (Registry.unites_of_mem_registerAll hs category).1 hc

end Contribution

/-- A condition of a compiled query comes from what its tokens add. -/
theorem Context.mem_predicates_of_mem_compile {context : Context} {query : String}
    {predicate : Predicate} (h : predicate ∈ (context.compile query).value.predicates) :
    predicate ∈ predicates (context.yields query) := by
  by_cases hc : .collapse ∈ context.yields query
  · rw [value_compile_eq_nothing_iff.2 hc] at h
    exact absurd h List.not_mem_nil
  · rwa [value_compile hc] at h

/-- A filter asks for nothing that the one who is asking has no right to. -/
structure Filter.WithinRights (context : Context) (filter : Filter) : Prop where
  bookmarks : ∀ actor, .bookmarkedBy actor ∈ filter.predicates →
    context.guardian.actor = some actor
  levels : ∀ actor levels, .levelIn actor levels ∈ filter.predicates →
    context.guardian.actor = some actor
  deleted : .status .deleted ∈ filter.predicates → context.guardian.seesDeleted none = true
  categories : ∀ set, .categoryIn set ∈ filter.predicates → ∀ category ∈ set,
    ∃ root, context.guardian.seesCategory root = true ∧ context.Below root category

/-- **No query widens the rights of the one who is asking.** -/
theorem compile_withinRights (context : Context) (query : String) :
    let result := (context.compile query).value
    result.WithinRights context ∧
      (context.guardian.actor = none →
        (∀ predicate ∈ result.predicates, predicate.actor? = none) ∧
        ((∃ token ∈ Token.scan query, token.key = "in" ∧ token.value ≠ "pinned") →
          result = .nothing)) ∧
      ((∀ token ∈ Token.scan query, token.AsksForCategories → token.flag = some .strict) →
        ∀ set, .categoryIn set ∈ result.predicates → ∀ category ∈ set,
          context.guardian.seesCategory category = true) := by
  intro result
  have hallowed := context.allowed_yields query
  have hactor : ∀ predicate ∈ result.predicates, ∀ actor, predicate.actor? = some actor →
      context.guardian.actor = some actor := fun predicate hp actor =>
    actor_of_mem_predicates hallowed (Context.mem_predicates_of_mem_compile hp)
  -- whatever category there is, a token asked for it
  have hcategory : ∀ set, .categoryIn set ∈ result.predicates → ∀ category ∈ set,
      ∃ token ∈ Token.scan query, token.AsksForCategories ∧
        ∃ root, context.guardian.seesCategory root = true ∧ context.Below root category ∧
          (token.flag = some .strict → category = root) := by
    intro set hp category hc
    obtain ⟨contribution, hmem, scope, hs, hscope⟩ :=
      exists_hasCategory_of_mem_predicates hallowed (Context.mem_predicates_of_mem_compile hp) hc
    obtain ⟨token, ht, rfl⟩ := List.mem_map.1 hmem
    exact ⟨token, ht, Context.exists_root_of_hasCategory hs hscope⟩
  refine ⟨⟨?_, ?_, ?_, ?_⟩, fun hvisitor => ⟨?_, ?_⟩, fun hstrict set hp category hc => ?_⟩
  · exact fun actor hp => hactor _ hp actor rfl
  · exact fun actor levels hp => hactor _ hp actor rfl
  · exact fun hp =>
      seesDeleted_of_mem_predicates hallowed (Context.mem_predicates_of_mem_compile hp)
  · intro set hp category hc
    obtain ⟨-, -, -, root, hsees, hbelow, -⟩ := hcategory set hp category hc
    exact ⟨root, hsees, hbelow⟩
  · intro predicate hp
    cases ha : predicate.actor? with
    | none => rfl
    | some actor => exact absurd (hactor predicate hp actor ha) (by simp [hvisitor])
  · rintro ⟨token, ht, hkey, hvalue⟩
    refine Context.value_compile_eq_nothing_iff.2 (List.mem_map.2 ⟨token, ht, ?_⟩)
    exact Context.yield_eq_collapse_of_visitor hvisitor hkey hvalue
  · obtain ⟨token, ht, hkey, root, hsees, -, hself⟩ := hcategory set hp category hc
    exact hself (hstrict token ht hkey) ▸ hsees

end ForumQuery
