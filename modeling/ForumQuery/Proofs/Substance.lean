import ForumQuery.Proofs.Invariants
import ForumQuery.Proofs.Subtree
import ForumQuery.Proofs.ValueLists
import ForumQuery.Proofs.Yield

/-!
# Substance — no condition asks for one of nothing

A list that is read has an item, so a clause that is read names a tag or a slug at least
(`Clause.Listed`).  From there on nothing can get lost: a clause that wants all of its tags
collapses if one of the groups found for them is empty, one that wants any of them is inert if all
are, and a clause of categories collapses if fewer are visible than were named.  So whatever the
site answers, what a token adds is *substantial* (`Context.substantial_yield`): a condition on tags
or categories asks for one of some, and one that makes joins makes a join at least.

Scopes that merge only grow, so all conditions that a query ends as are substantial
(`substantial_of_mem_compileAcross`).
-/

namespace ForumQuery

open Query

namespace RankedSet

variable {α : Type} [Ranked α] {s t : RankedSet α}

theorem isEmpty_iff_eq_empty : s.isEmpty = true ↔ s = ∅ := by
  rw [isEmpty_iff]
  exact ⟨fun h => ext fun a => iff_of_false (h a) (not_mem_empty a), fun h a => h ▸ not_mem_empty a⟩

theorem ne_empty_iff : s ≠ ∅ ↔ ∃ a, a ∈ s := by
  rw [Ne, ← isEmpty_iff_eq_empty, isEmpty_iff, not_forall]
  exact exists_congr fun a => not_not

theorem toList_eq_nil_iff : s.toList = [] ↔ s = ∅ := by
  rw [← isEmpty_iff_eq_empty, isEmpty, List.isEmpty_iff]

theorem ne_empty_of_subset (h : ∀ a ∈ s, a ∈ t) (hs : s ≠ ∅) : t ≠ ∅ := by
  obtain ⟨a, ha⟩ := ne_empty_iff.1 hs
  exact ne_empty_iff.2 ⟨a, h a ha⟩

theorem ofList_ne_empty {l : List α} (h : l ≠ []) : ofList l ≠ ∅ := by
  obtain ⟨a, ha⟩ := List.exists_mem_of_ne_nil l h
  exact ne_empty_iff.2 ⟨a, mem_ofList.2 ha⟩

end RankedSet

/-! ### What a clause names -/

namespace Clause

/-- A clause with a list names something. -/
def Listed : Clause → Prop
  | tags names _ _ => names ≠ []
  | categories slugs _ => slugs ≠ []
  | pinned | bookmarked | levels _ | status _ => True

/-- A list that is read has an item, also when those that stand twice are counted once. -/
theorem eraseDups_items_ne_nil {permitted : List Separator} {alphabet : Char → Bool} {raw : String}
    {list : ValueList} (h : ValueList.parse? permitted alphabet raw = some list) :
    list.items.eraseDups ≠ [] := by
  have hitems := (ValueList.parse?_eq_some_iff.1 h).items_ne_nil
  obtain ⟨item, hitem⟩ := List.exists_mem_of_ne_nil _ hitems
  exact List.ne_nil_of_mem (List.mem_eraseDups.2 hitem)

/-- **A clause that is read names something.** -/
theorem listed_of_ofToken? {token : Token} {clause : Clause} (h : ofToken? token = some clause) :
    clause.Listed := by
  have htags : ∀ {flag value}, ofTags? flag value = some clause → clause.Listed := by
    intro flag value h
    unfold ofTags? at h
    split at h
    · cases h
    · obtain ⟨list, hlist, rfl⟩ := Option.map_eq_some_iff.1 h
      exact eraseDups_items_ne_nil hlist
  have hcategories : ∀ {flag value}, ofCategories? flag value = some clause → clause.Listed := by
    intro flag value h
    unfold ofCategories? at h
    split at h
    · cases h
    · obtain ⟨list, hlist, rfl⟩ := Option.map_eq_some_iff.1 h
      exact eraseDups_items_ne_nil hlist
  unfold ofToken? at h
  split at h
  · cases h
    unfold ofState
    split <;> trivial
  · obtain ⟨wanted, -, rfl⟩ := Option.map_eq_some_iff.1 h
    trivial
  · exact htags h
  · exact hcategories h
  · exact hcategories h
  · cases h

end Clause

/-! ### What a clause adds -/

/-- A condition that asks for one of some tags or categories, or makes a join, where it is about
tags or categories at all. -/
def Predicate.Substantial : Predicate → Prop
  | taggedWithAll joins | missingSomeTag joins => joins ≠ [] ∧ ∀ join ∈ joins, join.tags ≠ ∅
  | taggedWithAny join => join.tags ≠ ∅
  | taggedWithNone tags => tags ≠ ∅
  | categoryIn categories => categories ≠ ∅
  | status _ | activelyPinned _ | bookmarkedBy _ | levelIn .. => True

namespace Contribution

/-- A contribution that gives substantial conditions only, wherever its labels start. -/
abbrev Substantial (contribution : Contribution) : Prop := contribution.Gives Predicate.Substantial

theorem substantial_inert : Substantial inert := ⟨nofun, nofun⟩

theorem substantial_collapse : Substantial collapse := ⟨nofun, nofun⟩

theorem substantial_condition {predicate : Predicate} (h : predicate.Substantial) :
    Substantial (condition predicate) :=
  ⟨fun hp => Option.some.inj hp ▸ h, nofun⟩

theorem substantial_scope {opened : Scope} (h : opened.predicate.Substantial) :
    Substantial (scope opened) :=
  ⟨nofun, fun hs => Option.some.inj hs ▸ h⟩

/-- Joins for groups of tags, of which there is one at least and none is empty. -/
theorem joinsFrom_substantial {groups : List (RankedSet TagId)} (hne : groups ≠ [])
    (h : ∀ tags ∈ groups, tags ≠ ∅) (first : Nat) :
    Builder.joinsFrom first groups ≠ [] ∧
      ∀ join ∈ Builder.joinsFrom first groups, join.tags ≠ ∅ := by
  have htags := Builder.map_tags_joinsFrom first groups
  refine ⟨fun hnil => hne ?_, fun join hj => h _ ?_⟩
  · rw [← htags, hnil, List.map_nil]
  · rw [← htags]
    exact List.mem_map_of_mem hj

theorem substantial_everyGroup {groups : List (RankedSet TagId)} (hne : groups ≠ [])
    (h : ∀ tags ∈ groups, tags ≠ ∅) : Substantial (everyGroup groups) :=
  ⟨fun hp => Option.some.inj hp ▸ joinsFrom_substantial hne h _, nofun⟩

theorem substantial_notEveryGroup {groups : List (RankedSet TagId)} (hne : groups ≠ [])
    (h : ∀ tags ∈ groups, tags ≠ ∅) : Substantial (notEveryGroup groups) :=
  ⟨fun hp => Option.some.inj hp ▸ joinsFrom_substantial hne h _, nofun⟩

theorem substantial_someTag {tags : RankedSet TagId} (h : tags ≠ ∅) : Substantial (someTag tags) :=
  ⟨fun hp => Option.some.inj hp ▸ h, nofun⟩

/-- **Groups of tags add something substantial**, however many of them are empty. -/
theorem substantial_ofGroups {groups : List (RankedSet TagId)} (hne : groups ≠ [])
    (mode : MatchMode) (exclude : Bool) : (ofGroups groups mode exclude).Substantial := by
  cases mode with
  | all =>
      rw [ofGroups]
      split
      · exact substantial_collapse
      · next hany =>
        have hgroups : ∀ tags ∈ groups, tags ≠ ∅ := by
          intro tags ht he
          exact hany (List.any_eq_true.2 ⟨tags, ht, RankedSet.isEmpty_iff_eq_empty.2 he⟩)
        cases exclude
        · exact substantial_everyGroup hne hgroups
        · exact substantial_notEveryGroup hne hgroups
  | any =>
      dsimp only [ofGroups]
      split
      · exact substantial_inert
      · next hany =>
        have htags := mt RankedSet.isEmpty_iff_eq_empty.2 hany
        cases exclude
        · exact substantial_someTag htags
        · exact substantial_condition htags

/-- **Slugs add something substantial**: as many categories are visible as slugs were named. -/
theorem substantial_ofSlugs (context : Context) {slugs : List String} (hne : slugs ≠ [])
    (withSubtree : Bool) : (ofSlugs context slugs withSubtree).value.Substantial := by
  rw [Clause.value_ofSlugs]
  dsimp only
  split
  · exact substantial_collapse
  · next hlength =>
    refine substantial_scope ?_
    have hslugs := List.length_pos_iff.2 hne
    have hroots := RankedSet.ofList_ne_empty (List.length_pos_iff.1
      (Nat.lt_of_lt_of_le hslugs (Nat.le_of_not_lt hlength)))
    cases withSubtree
    · exact hroots
    · -- the roots are in their subtree
      refine RankedSet.ne_empty_of_subset (fun root hr => ?_) hroots
      exact (context.mem_subtree_iff _ root).2 ⟨root, hr, .refl⟩

end Contribution

open Contribution

/-- A clause that names something adds something substantial. -/
theorem Clause.Listed.substantial_contribution {clause : Clause} (h : clause.Listed)
    (context : Context) : (clause.contribution context).value.Substantial := by
  cases clause with
  | pinned => exact substantial_condition trivial
  | bookmarked =>
      rw [value_contribution_bookmarked]
      split
      · exact substantial_condition trivial
      · exact substantial_collapse
  | levels names =>
      rw [value_contribution_levels]
      split
      · exact substantial_scope trivial
      · exact substantial_collapse
  | status wanted =>
      rw [contribution, value_ofStatus]
      split
      · exact substantial_inert
      · exact substantial_condition trivial
  | tags names mode exclude =>
      rw [value_contribution_tags]
      split
      · exact substantial_ofGroups (mt List.map_eq_nil_iff.1 h) mode exclude
      · exact substantial_inert
  | categories slugs withSubtree => exact substantial_ofSlugs context h withSubtree

/-- **What a token adds is substantial**, whatever the site answers. -/
theorem Context.substantial_yield (context : Context) (token : Token) :
    (context.yield token).Substantial := by
  rw [yield, contribution]
  split
  · next clause hclause =>
    exact (Clause.listed_of_ofToken? hclause).substantial_contribution context
  · exact substantial_inert

/-! ### What a query ends as -/

/-- Scopes that are substantial merge into one that is. -/
theorem Scope.substantial_merge : KeptByMerge Predicate.Substantial := by
  intro older newer merged hm hold hnew
  cases older <;> cases newer <;> simp only [merge?, Option.some.injEq, reduceCtorEq] at hm <;>
    subst hm
  · trivial
  · exact RankedSet.ne_empty_of_subset (fun _ hc => RankedSet.mem_union.2 (.inr hc)) hnew

/-- **All conditions of a query are substantial.** -/
theorem substantial_of_mem_compileAcross (contexts : Token → Context) (query : String) :
    ∀ predicate ∈ (compileAcross contexts query).predicates, predicate.Substantial :=
  forall_mem_compileAcross Scope.substantial_merge fun token _ =>
    (contexts token).substantial_yield token

end ForumQuery
