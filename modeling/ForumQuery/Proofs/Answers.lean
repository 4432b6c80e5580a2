import ForumQuery.Proofs.Alone
import ForumQuery.Proofs.Directory.Merging
import ForumQuery.Proofs.Lookups
import ForumQuery.Proofs.Matching

/-!
# Answers — when part of an answer is enough

A resolver answers a clause for categories with one list for all of its slugs, as long as it likes.
What may be seen of it is asked for, unless that is shorter than the list of slugs; so a hidden
category in the answer shows in nothing but a number.  It is certain to be missed only if the answer
has no more categories than there are slugs (`compile_answer`).  A slug that is answered with two
categories makes up for another one whose category is hidden (`compile_answer_makes_up`).
-/

namespace ForumQuery

open Query Contribution

/-- **What a clause for categories makes of an answer.**  Nothing passes if and only if less may be
seen of it than there are slugs, and otherwise all that may be seen is asked for.  If the answer is
not longer than the list of slugs and has a hidden category in it, then nothing passes a query with
the clause in it. -/
theorem compile_answer (context : Context) {flag : Option Flag} {key value : String}
    {list : ValueList} (hkey : key = "category" ∨ key = "categories")
    (hflag : flag ≠ some .exclude)
    (hlist : ValueList.parse? [.comma] Clause.isSlugChar value = some list) :
    let slugs := list.items.eraseDups
    let answer := (context.lookupCategories slugs).value
    let visible := answer.filter context.guardian.seesCategory
    let result := (context.compile (clauseText flag key value)).value
    (result = .nothing ↔ visible.length < slugs.length) ∧
      (result ≠ .nothing → result = .chain
        [.categoryIn (context.extent (flag ≠ some .strict) (.ofList visible))]) ∧
      (answer.length ≤ slugs.length →
        (∃ category ∈ answer, context.guardian.seesCategory category = false) →
        ∀ query, ∀ token ∈ Token.scan query, token.written = (flag, key, value) →
          ∀ base, (context.narrow base query).value = .nothing) := by
  intro slugs answer visible result
  have hslugs : (ofSlugs context slugs (flag ≠ some .strict)).value =
      if visible.length < slugs.length then collapse
      else scope (.categories (context.extent (flag ≠ some .strict) (.ofList visible))) :=
    Clause.value_ofSlugs context slugs _
  have hresult : result = (ofSlugs context slugs (flag ≠ some .strict)).value.filter :=
    context.value_compile_categories hkey hflag hlist
  rw [hslugs] at hresult
  have hnothing : result = .nothing ↔ visible.length < slugs.length := by
    rw [hresult]
    split
    · next h => exact iff_of_true rfl h
    · next h => exact iff_of_false nofun h
  refine ⟨hnothing, fun hne => ?_, fun hlength hhidden query token hmem hwritten => ?_⟩
  · rw [hresult, if_neg (mt hnothing.2 hne)]
    rfl
  · -- what is hidden is dropped, and so less is left than there are slugs
    have hless : visible.length < answer.length := by
      simpa only [visible, List.length_filter_lt_length_iff_exists, Bool.not_eq_true] using hhidden
    have hclause : Clause.ofToken? ⟨flag, key, value, 0⟩ =
        some (.categories slugs (flag ≠ some .strict)) :=
      Clause.ofToken?_categories hkey hflag hlist
    have hyield : context.yield token = context.yield ⟨flag, key, value, 0⟩ :=
      context.yield_eq_of_written_eq hwritten
    refine Context.value_narrow_eq_nothing hmem ?_
    rw [hyield, context.yield_of_ofToken? hclause]
    exact hslugs.trans (if_pos (Nat.lt_of_lt_of_le hless hlength))

/-- Each of two slugs is answered with a category, and one of these is hidden. -/
theorem compile_answer_hidden :
    let resolver : Resolver :=
      { tags _ _ := pure (.ok [])
        categories slugs := .ok (slugs.map fun slug => if slug = "staff" then ⟨2⟩ else ⟨1⟩)
        children _ := .ok [⟨3⟩] }
    let context : Context := ⟨({ hidden := .ofList [⟨2⟩] } : Permissions).guardian, resolver, true,
      ⟨0, 0, by decide, by decide⟩⟩
    let value := "news,staff,news"
    ValueList.parse? [.comma] Clause.isSlugChar value =
        some ⟨["news", "staff", "news"], some .comma⟩ ∧
      (context.lookupCategories (List.eraseDups ["news", "staff", "news"])).value = [⟨1⟩, ⟨2⟩] ∧
      context.guardian.seesCategory ⟨2⟩ = false ∧
      ∀ base, (context.narrow base ("in:pinned " ++ clauseText none "category" value)).value =
        .nothing := by
  intro resolver context value
  have hlist : ValueList.parse? [.comma] Clause.isSlugChar value =
      some ⟨["news", "staff", "news"], some .comma⟩ := by decide +kernel
  have hanswer : (context.lookupCategories (List.eraseDups ["news", "staff", "news"])).value =
      [⟨1⟩, ⟨2⟩] := by decide +kernel
  have hhidden : context.guardian.seesCategory ⟨2⟩ = false := by decide
  have htoken : ⟨none, "category", value, 10⟩ ∈
      Token.scan ("in:pinned " ++ clauseText none "category" value) := by decide +kernel
  have hflag : (none : Option Flag) ≠ some .exclude := nofun
  obtain ⟨-, -, hnothing⟩ := compile_answer context (.inl rfl) hflag hlist
  refine ⟨hlist, hanswer, hhidden, hnothing ?_ ⟨⟨2⟩, ?_, hhidden⟩ _ _ htoken rfl⟩
  · exact hanswer ▸ by decide
  · exact hanswer ▸ by decide

/-- A slug that is answered with two categories makes up for one whose category is hidden. -/
theorem compile_answer_makes_up :
    let resolver : Resolver :=
      { tags _ _ := pure (.ok [])
        categories slugs := .ok (slugs.flatMap fun slug =>
          if slug = "staff" then [⟨2⟩] else [⟨1⟩, ⟨3⟩])
        children _ := .ok [] }
    let context : Context := ⟨({ hidden := .ofList [⟨2⟩] } : Permissions).guardian, resolver, true,
      ⟨0, 0, by decide, by decide⟩⟩
    let value := "news,staff"
    (ValueList.parse? [.comma] Clause.isSlugChar value = some ⟨["news", "staff"], some .comma⟩ ∧
      (context.lookupCategories ["news", "staff"]).value = [⟨1⟩, ⟨3⟩, ⟨2⟩] ∧
      context.guardian.seesCategory ⟨2⟩ = false) ∧
      (context.compile (clauseText (some .strict) "category" value)).value =
        .chain [.categoryIn (.ofList [⟨1⟩, ⟨3⟩])] := by
  intro resolver context value
  refine ⟨⟨?_, ?_, ?_⟩, ?_⟩
  all_goals decide +kernel

end ForumQuery
