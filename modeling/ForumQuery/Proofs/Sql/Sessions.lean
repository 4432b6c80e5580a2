import ForumQuery.Directory
import ForumQuery.Directory.Permissions
import ForumQuery.Proofs.Narrowing
import ForumQuery.Proofs.Sql.Drafts

/-!
# Sessions — the labels of a running filter

Labels are counted afresh in every step of a session (`Step.exists_labels_alone`), and a step that
narrows the running filter keeps the labels that it carries.  So the labels of the running filter
are those of the live steps one after the other, and they are all different only if at most one of
these steps makes joins (`labels_running`); otherwise the statement of the running filter declares
one name twice, as where two steps in a row look for one tag (`labels_running_repeated`).
-/

namespace ForumQuery

open Query Contribution Sql

/-- A step labels its joins from `tags_0` on. -/
theorem Step.exists_labels_alone (context : Context) (step : Step) :
    ∃ count, labels (step.alone context).predicates =
      (List.range count).map Builder.label := by
  have hcompile : ∀ query, ∃ count, labels (context.compile query).value.predicates =
      (List.range count).map Builder.label := by
    intro query
    by_cases hc : .collapse ∈ context.yields query
    · exact ⟨0, by rw [Context.value_compile_eq_nothing_iff.2 hc]; rfl⟩
    · refine ⟨labelTotal (context.yields query), ?_⟩
      rw [Context.value_compile hc]
      exact labels_predicates (context.allowed_yields query)
  have hstatus : ∀ name category, ∃ count,
      labels (context.ofStatus name category).value.predicates =
        (List.range count).map Builder.label := by
    intro name category
    refine ⟨0, ?_⟩
    rw [Context.ofStatus, Context.value_narrowToStatus, Filter.everything_meet]
    cases Status.ofName? name with
    | none => rfl
    | some wanted => dsimp only; split <;> rfl
  cases step with
  | compile query | narrow query => exact hcompile query
  | ofStatus name category | narrowToStatus name category => exact hstatus name category

theorem labels_flatMap_predicates (parts : List Filter) :
    labels (parts.flatMap Filter.predicates) =
      parts.flatMap fun part => labels part.predicates := by
  simp only [labels, List.flatMap_assoc, List.map_flatMap]

/-- Parts that each count their labels from `tags_0` on share none only if no two have any. -/
theorem nodup_flatMap_labels_iff {parts : List Filter}
    (h : ∀ part ∈ parts, ∃ count, labels part.predicates = (List.range count).map Builder.label) :
    (parts.flatMap fun part => labels part.predicates).Nodup ↔
      parts.Pairwise fun a b => labels a.predicates = [] ∨ labels b.predicates = [] := by
  have hnodup : ∀ part ∈ parts, (labels part.predicates).Nodup := by
    intro part hp
    obtain ⟨count, hcount⟩ := h part hp
    rw [hcount, List.range_eq_range']
    exact Builder.nodup_map_label 0 count
  rw [List.nodup_flatMap, and_iff_right hnodup]
  refine List.Pairwise.iff_of_mem fun {a b} ha hb => ?_
  obtain ⟨m, hm⟩ := h a ha
  obtain ⟨n, hn⟩ := h b hb
  simp only [Function.onFun, hm, hn]
  -- two parts that make joins both have the label of zero
  cases m with
  | zero => simp
  | succ m =>
      cases n with
      | zero => simp
      | succ n =>
          have hzero : ∀ k, Builder.label 0 ∈ (List.range (k + 1)).map Builder.label :=
            fun k => List.mem_map_of_mem (List.mem_range.2 (Nat.succ_pos k))
          exact iff_of_false (fun hd => hd (hzero m) (hzero n)) (by simp)

/-- **The labels of a running filter** are those of the live steps, each counted from `tags_0` on.
They are all different, and a statement declares no name twice, if and only if nothing passes or no
two live steps make joins. -/
theorem labels_running (context : Context) (steps : List Step) :
    let parts := (Step.live steps).map (Step.alone context)
    let running := context.running steps
    (∀ part ∈ parts, ∃ count, labels part.predicates = (List.range count).map Builder.label) ∧
      labels running.predicates =
        (if .nothing ∈ parts then [] else parts.flatMap fun part => labels part.predicates) ∧
      ((labels running.predicates).Nodup ↔ .nothing ∈ parts ∨
        parts.Pairwise fun a b => labels a.predicates = [] ∨ labels b.predicates = []) ∧
      (((Draft.ofFilter running).select.joins.map Join.name).Nodup ↔
        (labels running.predicates).Nodup) := by
  intro parts running
  have hparts : ∀ part ∈ parts,
      ∃ count, labels part.predicates = (List.range count).map Builder.label := by
    intro part hp
    obtain ⟨step, -, rfl⟩ := List.mem_map.1 hp
    exact step.exists_labels_alone context
  have hrunning : running = if .nothing ∈ parts then .nothing
      else .chain (parts.flatMap Filter.predicates) :=
    (context.running_eq_meetAll steps).trans (Filter.meetAll_eq parts)
  by_cases hn : .nothing ∈ parts
  -- a part that nothing passes takes the labels of all the others with it
  · rw [if_pos hn] at hrunning
    have hlabels : labels running.predicates = [] := by rw [hrunning]; rfl
    have hjoins : (Draft.ofFilter running).select.joins = [] := by rw [hrunning]; rfl
    refine ⟨hparts, ?_⟩
    simp [hn, hlabels, hjoins]
  · rw [if_neg hn] at hrunning
    have hlabels : labels running.predicates =
        parts.flatMap fun part => labels part.predicates := by
      rw [hrunning]
      exact labels_flatMap_predicates parts
    have hjoins : (Draft.ofFilter running).select.joins =
        Draft.joinsOf (parts.flatMap Filter.predicates) := by
      rw [hrunning, Draft.joins_select_chain]
    refine ⟨hparts, by rw [hlabels, if_neg hn], ?_, ?_⟩
    · rw [hlabels, nodup_flatMap_labels_iff hparts, or_iff_right hn]
    · rw [hjoins, hlabels, ← labels_flatMap_predicates]
      refine Draft.nodup_map_name_joinsOf_iff fun label hlabel => ?_
      rw [labels_flatMap_predicates] at hlabel
      obtain ⟨part, hp, hlabel⟩ := List.mem_flatMap.1 hlabel
      obtain ⟨count, hcount⟩ := hparts part hp
      obtain ⟨n, -, rfl⟩ := List.mem_map.1 (hcount ▸ hlabel)
      exact Builder.label_notMem_tables n

/-- The labels of a session may repeat: two steps that each look for one tag. -/
theorem labels_running_repeated : ¬ ∀ (context : Context) (steps : List Step),
    (labels (context.running steps).predicates).Nodup := by
  intro h
  have htwice : labels (Context.running ⟨({ actor := some ⟨42⟩ } : Permissions).guardian,
      ((∅ : Directory).addTag "a" ⟨1⟩ none none).resolver, true, ⟨0, 0, by decide, by decide⟩⟩
      [.narrow "tags:a", .narrow "tags:a"]).predicates = ["tags_0", "tags_0"] := by
    decide +kernel
  have hnodup := htwice ▸ h _ _
  exact absurd hnodup (by decide)

end ForumQuery
