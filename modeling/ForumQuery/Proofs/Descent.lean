import ForumQuery.Proofs.Lookups
import Mathlib.Data.List.Nodup
import Mathlib.Data.List.Perm.Subperm

/-!
# Descent — a search asks about each category that it sees, once

A search goes by steps: it asks about the category on top of its stack and meets the children that
the lookup found.  What was asked about, in the order of the steps, and the frontier that is left
make a *run* (`Frontier.Run`).

The categories asked about and those still to ask about are the ones seen, none of them twice
(`Frontier.Enumerates`).  Starting from some roots this is so, meeting a category keeps it, and so
does a step (`Enumerates.ask`); all that a run sees is below its roots besides
(`Run.goesDownFrom`).  So no run asks more questions than there are categories below its roots
(`Run.length_le`), and one that has nothing left to ask is the search itself
(`Run.search_eq`, `exists_run`).  Together they say what a clause for categories with their subtrees
finds and what it asks on the way (`Context.subtree_exact`).
-/

namespace ForumQuery

namespace Frontier

/-- The runs from a frontier: the categories asked about, the first one first, and what is left. -/
inductive Run (context : Context) (first : Frontier) : List CategoryId → Frontier → Prop where
  | refl : Run context first [] first
  /-- asks about the category on top and meets its children -/
  | ask {asked : List CategoryId} {seen : RankedSet CategoryId} {category : CategoryId}
      {rest : List CategoryId} (h : Run context first asked ⟨seen, category :: rest⟩) :
      Run context first (asked ++ [category])
        ((context.lookupChildren category).value.foldl meet ⟨seen, rest⟩)

/-- The categories asked about and those still to ask about are the ones seen, each of them once. -/
structure Enumerates (asked : List CategoryId) (frontier : Frontier) : Prop where
  nodup : (asked ++ frontier.pending).Nodup
  mem_seen_iff : ∀ category, category ∈ frontier.seen ↔ category ∈ asked ++ frontier.pending

variable {context : Context} {roots : RankedSet CategoryId} {first frontier : Frontier}
  {asked : List CategoryId}

/-! ### Each category once -/

theorem enumerates_start (roots : RankedSet CategoryId) : (start roots).Enumerates [] where
  nodup := List.nodup_reverse.2 roots.nodup_toList
  mem_seen_iff _ := List.mem_reverse.symm

/-- A category that is met joins both what was seen and the stack, unless it was seen before. -/
theorem Enumerates.meet (h : frontier.Enumerates asked) (category : CategoryId) :
    (frontier.meet category).Enumerates asked := by
  unfold Frontier.meet
  split
  · exact h
  · next hnew =>
    constructor
    case nodup =>
      exact List.nodup_middle.2 (List.nodup_cons.2 ⟨mt (h.mem_seen_iff category).2 hnew, h.nodup⟩)
    case mem_seen_iff =>
      intro other
      rw [RankedSet.mem_insert, h.mem_seen_iff, List.mem_append, List.mem_append, List.mem_cons,
        or_left_comm]

theorem Enumerates.foldl_meet (h : frontier.Enumerates asked) (categories : List CategoryId) :
    (categories.foldl Frontier.meet frontier).Enumerates asked := by
  induction categories generalizing frontier with
  | nil => exact h
  | cons category rest ih => exact ih (h.meet category)

/-- **A step keeps the count**: what it asks about moves from the stack to what was asked. -/
theorem Enumerates.ask {seen : RankedSet CategoryId} {category : CategoryId}
    {rest : List CategoryId} (h : Enumerates asked ⟨seen, category :: rest⟩)
    (children : List CategoryId) :
    (children.foldl Frontier.meet ⟨seen, rest⟩).Enumerates (asked ++ [category]) := by
  have hmoved : Enumerates (asked ++ [category]) ⟨seen, rest⟩ := by
    constructor
    case nodup => exact List.append_cons asked category rest ▸ h.nodup
    case mem_seen_iff => exact List.append_cons asked category rest ▸ h.mem_seen_iff
  exact hmoved.foldl_meet children

theorem Run.enumerates (h : Run context first asked frontier) (hfirst : first.Enumerates []) :
    frontier.Enumerates asked := by
  induction h with
  | refl => exact hfirst
  | ask _ ih => exact ih.ask _

/-! ### Runs and the search -/

theorem Run.goesDownFrom (h : Run context (start roots) asked frontier) :
    frontier.GoesDownFrom context roots := by
  induction h with
  | refl => exact goesDownFrom_start context roots
  | ask _ ih => exact ih.step

/-- **A search goes on from wherever a run has got to**, its questions behind those of the run. -/
theorem Run.search_eq (h : Run context first asked frontier) :
    search context first = ⟨(search context frontier).value,
      asked.map .children ++ (search context frontier).calls⟩ := by
  induction h with
  | refl => rfl
  | ask _ ih =>
      rw [ih, search, Consult.value_bind, Consult.calls_bind, List.map_append, List.append_assoc]
      rfl

/-- **Every run can be carried to its end**, which is where the search ends. -/
theorem exists_run (h : Run context first asked frontier) :
    ∃ all, Run context first all ⟨(search context frontier).value, []⟩ := by
  fun_induction search context frontier generalizing asked with
  | case1 seen => exact ⟨asked, h⟩
  | case2 seen category rest ih => exact ih _ h.ask

/-- **A run asks no more questions than there are categories below its roots.** -/
theorem Run.length_le (h : Run context (start roots) asked frontier) :
    asked.length ≤ (context.subtree roots).value.size := by
  have henum := h.enumerates (enumerates_start roots)
  refine (henum.nodup.of_append_left.subperm fun category hc => ?_).length_le
  have hseen := (henum.mem_seen_iff category).2 (List.mem_append_left _ hc)
  exact (context.mem_subtree_iff roots category).2 (h.goesDownFrom.below category hseen)

end Frontier

namespace Context

open Frontier

variable (context : Context) (roots : RankedSet CategoryId)

/-- A search is a run that has nothing left to ask about. -/
theorem exists_run_subtree :
    ∃ asked, Run context (start roots) asked ⟨(context.subtree roots).value, []⟩ :=
  exists_run .refl

variable {context roots}

/-- Any run that has nothing left to ask about is the search. -/
theorem subtree_eq_of_run {asked : List CategoryId} {seen : RankedSet CategoryId}
    (h : Run context (start roots) asked ⟨seen, []⟩) :
    context.subtree roots = ⟨seen, asked.map .children⟩ := by
  rw [subtree, h.search_eq, search]
  exact Consult.ext rfl (List.append_nil _)

/-- No category is asked about twice. -/
theorem nodup_calls_subtree : (context.subtree roots).calls.Nodup := by
  obtain ⟨asked, hrun⟩ := context.exists_run_subtree roots
  have hnodup := (hrun.enumerates (enumerates_start roots)).nodup.of_append_left
  rw [subtree_eq_of_run hrun]
  exact hnodup.map fun _ _ => Call.children.inj

/-- The categories asked about are the ones found. -/
theorem mem_calls_subtree_iff {call : Call} : call ∈ (context.subtree roots).calls ↔
    ∃ category ∈ (context.subtree roots).value, call = .children category := by
  obtain ⟨asked, hrun⟩ := context.exists_run_subtree roots
  have hseen : ∀ category, category ∈ (context.subtree roots).value ↔ category ∈ asked := by
    intro category
    rw [(hrun.enumerates (enumerates_start roots)).mem_seen_iff, List.append_nil]
  have hcalls := congrArg Consult.calls (subtree_eq_of_run hrun)
  simp only [hseen, hcalls, List.mem_map, eq_comm]

/-- A search finds its roots and all that they lead to by one lookup that succeeds or more. -/
theorem mem_subtree_iff_transGen {category : CategoryId} :
    category ∈ (context.subtree roots).value ↔
      category ∈ roots ∨ ∃ root ∈ roots, Relation.TransGen context.Finds root category := by
  rw [mem_subtree_iff_finds]
  constructor
  · rintro ⟨root, hr, hbelow⟩
    rcases Relation.reflTransGen_iff_eq_or_transGen.1 hbelow with rfl | hbelow
    · exact .inl hr
    · exact .inr ⟨root, hr, hbelow⟩
  · rintro (hr | ⟨root, hr, hbelow⟩)
    · exact ⟨category, hr, .refl⟩
    · exact ⟨root, hr, hbelow.to_reflTransGen⟩

/-- What a clause for categories with their subtrees adds, if all of its slugs can be seen: the
subtree of what they name, and the questions of that search come last. -/
theorem contribution_categories_of_visible {slugs : List String}
    (h : slugs.length ≤
      ((context.lookupCategories slugs).value.filter context.guardian.seesCategory).length) :
    (Clause.categories slugs true).contribution context =
      let resolved := (context.lookupCategories slugs).value
      let subtree := context.subtree (.ofList (resolved.filter context.guardian.seesCategory))
      ⟨.scope (.categories subtree.value),
        .categories slugs :: (resolved.map .seesCategory ++ subtree.calls)⟩ := by
  have hnot := Nat.not_lt.2 h
  refine Consult.ext ?_ ?_
  · simp only [Clause.contribution, Contribution.ofSlugs, Consult.value_bind,
      Guardian.value_visible, if_neg hnot, if_true, Consult.value_pure]
  · simp only [Clause.contribution, Contribution.ofSlugs, Consult.calls_bind,
      Guardian.value_visible, Guardian.calls_visible, if_neg hnot, if_true, Consult.calls_pure,
      List.append_nil]
    rfl

end Context

/-- **What a search finds and asks.**  From any roots, however their children lead on or back to
them and whichever lookups fail, a search finds the roots and all that they lead to by one lookup
that succeeds or more; it asks about each of these once and about nothing else.  It ends: no run of
it asks more questions than there are categories to find, one run gets to an end, and any that does
has found the same by the same questions.  This is the search of a clause for categories with their
subtrees. -/
theorem Context.subtree_exact (context : Context) (roots : RankedSet CategoryId) :
    (∀ category, category ∈ (context.subtree roots).value ↔
        category ∈ roots ∨ ∃ root ∈ roots, Relation.TransGen context.Finds root category) ∧
      ((context.subtree roots).calls.Nodup ∧
        ∀ call, call ∈ (context.subtree roots).calls ↔
          ∃ category ∈ (context.subtree roots).value, call = .children category) ∧
      (∀ asked frontier, Frontier.Run context (.start roots) asked frontier →
        asked.length ≤ (context.subtree roots).value.size ∧
          (frontier.pending = [] →
            context.subtree roots = ⟨frontier.seen, asked.map .children⟩)) ∧
      (∃ asked, Frontier.Run context (.start roots) asked ⟨(context.subtree roots).value, []⟩) ∧
      ∀ slugs, let resolved := (context.lookupCategories slugs).value
        let visible := resolved.filter context.guardian.seesCategory
        let subtree := context.subtree (.ofList visible)
        slugs.length ≤ visible.length → (Clause.categories slugs true).contribution context =
          ⟨.scope (.categories subtree.value),
            .categories slugs :: (resolved.map .seesCategory ++ subtree.calls)⟩ := by
  refine ⟨fun _ => mem_subtree_iff_transGen, ⟨nodup_calls_subtree, fun _ => mem_calls_subtree_iff⟩,
    ?_, context.exists_run_subtree roots, ?_⟩
  · rintro asked ⟨seen, pending⟩ hrun
    refine ⟨hrun.length_le, ?_⟩
    rintro (rfl : pending = [])
    exact subtree_eq_of_run hrun
  · intro slugs resolved visible subtree hlength
    exact contribution_categories_of_visible hlength

/-- A category that is its own child, one child named twice, a way that leads back to its start and
a lookup that fails, all below the category of two slugs. -/
theorem Context.subtree_exact_cycle :
    let resolver : Resolver :=
      { tags _ _ := pure (.ok [])
        categories slugs := .ok (slugs.map fun _ => ⟨1⟩)
        children category :=
          if category = ⟨1⟩ then .ok [⟨2⟩, ⟨1⟩, ⟨2⟩]
          else if category = ⟨2⟩ then .ok [⟨3⟩, ⟨4⟩]
          else if category = ⟨3⟩ then .ok [⟨1⟩]
          else .error (.lookup "down") }
    let context : Context := ⟨⟨none, fun _ => true, fun _ => false⟩, resolver, true,
      ⟨0, 0, by decide, by decide⟩⟩
    let roots : RankedSet CategoryId := .ofList [⟨1⟩, ⟨1⟩]
    ⟨4⟩ ∈ (context.subtree roots).value ∧
      .children ⟨4⟩ ∈ (context.subtree roots).calls ∧
      (∃ asked : List CategoryId, context.subtree roots =
        ⟨(context.subtree roots).value, asked.map .children⟩ ∧
        asked.length ≤ (context.subtree roots).value.size) ∧
      ((Clause.categories ["a", "b"] true).contribution context).value =
        .scope (.categories (context.subtree roots).value) := by
  intro resolver context roots
  obtain ⟨hfound, ⟨-, hcalls⟩, hruns, ⟨asked, hrun⟩, hclause⟩ := subtree_exact context roots
  have hfirst : context.Finds ⟨1⟩ ⟨2⟩ := ⟨[⟨2⟩, ⟨1⟩, ⟨2⟩], rfl, by decide⟩
  have hsecond : context.Finds ⟨2⟩ ⟨4⟩ := ⟨[⟨3⟩, ⟨4⟩], rfl, by decide⟩
  have hmem : ⟨4⟩ ∈ (context.subtree roots).value :=
    (hfound ⟨4⟩).2 (.inr ⟨⟨1⟩, RankedSet.mem_ofList.2 List.mem_cons_self,
      .tail (.single hfirst) hsecond⟩)
  refine ⟨hmem, (hcalls _).2 ⟨⟨4⟩, hmem, rfl⟩, ⟨asked, ?_⟩, ?_⟩
  · obtain ⟨hlength, hend⟩ := hruns asked _ hrun
    exact ⟨hend rfl, hlength⟩
  · exact congrArg Consult.value (hclause ["a", "b"] (by decide))

end ForumQuery
