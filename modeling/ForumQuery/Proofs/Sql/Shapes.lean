import ForumQuery.Proofs.Sql.Fragments
import Mathlib.Data.List.Forall2

/-!
# Shapes — the text of a statement shows no value

Two conditions are of one *shape* if they are of one kind, about one status, with the same labels,
and their sets are of one size (`Predicate.SameShape`); the tags, categories, actors, levels and
instants that they ask for may differ.  Two filters are of one shape if both are the one that
nothing passes, or if their conditions are of one shape each (`Filter.SameShape`).

Drafts are of one shape if their joins and conditions read the same but for the values that they
bind (`Sql.Draft.SameShape`).  A condition on topics, applied to both, leaves them so
(`Draft.SameShape.apply`), and therefore a chain does; so filters of one shape are selected by one
text and with the same flags.  The one part of a condition that the text takes over as it is are its
labels, and in a compiled query these are made of `tags_` and digits (`text_hides_values`).
-/

namespace ForumQuery

open Query Sql

/-! ### Shapes of filters -/

/-- Joins under one label, for as many tags. -/
structure TagJoin.SameShape (first second : TagJoin) : Prop where
  label : first.label = second.label
  size : first.tags.size = second.tags.size

/-- Conditions that differ in the values they ask for at most. -/
inductive Predicate.SameShape : Predicate → Predicate → Prop
  | status (wanted : Status) : SameShape (.status wanted) (.status wanted)
  | activelyPinned (now now' : Instant) : SameShape (.activelyPinned now) (.activelyPinned now')
  | bookmarkedBy (actor actor' : ActorId) : SameShape (.bookmarkedBy actor) (.bookmarkedBy actor')
  | levelIn (actor actor' : ActorId) {levels levels' : RankedSet Level}
      (h : levels.size = levels'.size) : SameShape (.levelIn actor levels) (.levelIn actor' levels')
  | categoryIn {ids ids' : RankedSet CategoryId} (h : ids.size = ids'.size) :
      SameShape (.categoryIn ids) (.categoryIn ids')
  | taggedWithAll {joins joins' : List TagJoin} (h : List.Forall₂ TagJoin.SameShape joins joins') :
      SameShape (.taggedWithAll joins) (.taggedWithAll joins')
  | taggedWithAny {join join' : TagJoin} (h : join.SameShape join') :
      SameShape (.taggedWithAny join) (.taggedWithAny join')
  | missingSomeTag {joins joins' : List TagJoin} (h : List.Forall₂ TagJoin.SameShape joins joins') :
      SameShape (.missingSomeTag joins) (.missingSomeTag joins')
  | taggedWithNone {tags tags' : RankedSet TagId} (h : tags.size = tags'.size) :
      SameShape (.taggedWithNone tags) (.taggedWithNone tags')

/-- Filters whose conditions differ in the values they ask for at most. -/
inductive Filter.SameShape : Filter → Filter → Prop
  | nothing : SameShape .nothing .nothing
  | chain {first second : List Predicate} (h : List.Forall₂ Predicate.SameShape first second) :
      SameShape (.chain first) (.chain second)

theorem RankedSet.isEmpty_congr {α : Type} [Ranked α] {s t : RankedSet α} (h : s.size = t.size) :
    s.isEmpty = t.isEmpty := by
  have hiff : s.isEmpty = false ↔ t.isEmpty = false := by
    rw [← size_pos_iff, ← size_pos_iff, h]
  cases hs : s.isEmpty <;> cases ht : t.isEmpty <;> simp_all

namespace TagJoin

variable {first second : List TagJoin}

theorem map_label_of_sameShape (h : List.Forall₂ SameShape first second) :
    first.map label = second.map label := by
  induction h with
  | nil => rfl
  | cons h _ ih => rw [List.map_cons, List.map_cons, h.label, ih]

theorem map_size_of_sameShape (h : List.Forall₂ SameShape first second) :
    first.map (fun join => join.tags.size) = second.map fun join => join.tags.size := by
  induction h with
  | nil => rfl
  | cons h _ ih => rw [List.map_cons, List.map_cons, h.size, ih]

end TagJoin

/-! ### Texts -/

namespace Sql

/-- A list of placeholders shows how many there are. -/
theorem text_renderParams (params : List Param) :
    (renderParams params).text =
      "(" ++ ", ".intercalate (List.replicate params.length "?") ++ ")" := by
  have htexts : (params.map Fragment.placeholder).map Fragment.text =
      List.replicate params.length "?" := by
    rw [List.map_map, ← List.map_const']
    rfl
  rw [← htexts, ← Fragment.text_separated]
  rfl

theorem length_idParams {kind : RecordKind} (ids : RankedSet (RecordId kind)) :
    (idParams ids).length = ids.size :=
  List.length_map _

/-- The text of a join of the taggings. -/
theorem text_taggingJoin_congr (kind : JoinKind) {first second : TagJoin}
    (h : first.SameShape second) :
    (taggingJoin kind first).render.text = (taggingJoin kind second).render.text := by
  simp only [Join.render, Fragment.text_append, text_renderAll, taggingJoin, List.map_cons,
    Condition.render, text_renderParams, length_idParams, h.label, h.size]

/-! ### Shapes of drafts -/

/-- Joins of tables that differ in the values they bind at most. -/
inductive Join.SameShape : Join → Join → Prop
  | refl (join : Join) : SameShape join join
  | tagging (kind : JoinKind) {first second : TagJoin} (h : first.SameShape second) :
      SameShape (taggingJoin kind first) (taggingJoin kind second)

theorem Join.SameShape.text {first second : Join} (h : first.SameShape second) :
    first.render.text = second.render.text := by
  cases h with
  | refl => rfl
  | tagging kind h => exact text_taggingJoin_congr kind h

/-- A table that is joined under its own name is among joins of one shape or not. -/
theorem mem_iff_of_sameShape {join : Join} (hlabel : join.label = none) {first second : List Join}
    (h : List.Forall₂ Join.SameShape first second) : join ∈ first ↔ join ∈ second := by
  induction h with
  | nil => exact Iff.rfl
  | cons hhead _ ih =>
      rw [List.mem_cons, List.mem_cons, ih]
      refine or_congr_left ?_
      cases hhead with
      | refl => exact Iff.rfl
      | tagging =>
          -- no join of the taggings is one of a table under its own name
          exact iff_of_false (fun e => by rw [e] at hlabel; cases hlabel)
            (fun e => by rw [e] at hlabel; cases hlabel)

/-- Drafts that differ in the values they bind at most. -/
structure Draft.SameShape (first second : Draft) : Prop where
  joins : List.Forall₂ Join.SameShape first.joins second.joins
  conditions : first.conditions.map (fun condition => condition.render.text) =
    second.conditions.map fun condition => condition.render.text
  distinct : first.distinct = second.distinct
  includesDeleted : first.includesDeleted = second.includesDeleted
  matchesNothing : first.matchesNothing = second.matchesNothing

theorem sameShape_linked {join : Join} (hlabel : join.label = none) {first second : List Join}
    (h : List.Forall₂ Join.SameShape first second) :
    List.Forall₂ Join.SameShape (Draft.linked first join) (Draft.linked second join) := by
  simp only [Draft.linked, mem_iff_of_sameShape hlabel h]
  split
  · exact h
  · exact List.rel_append h (.cons (.refl join) .nil)

end Sql

/-! ### One condition -/

/-- A table that conditions share is joined under its own name. -/
theorem Predicate.label_of_shared? {predicate : Predicate} {join : Join}
    (h : predicate.shared? = some join) : join.label = none := by
  rcases eq_of_shared? h with rfl | rfl <;> rfl

namespace Predicate.SameShape

variable {first second : Predicate}

theorem shared? (h : first.SameShape second) : first.shared? = second.shared? := by
  cases h with
  | levelIn _ _ h => rw [Predicate.shared?, Predicate.shared?, RankedSet.isEmpty_congr h]
  | _ => rfl

theorem taggings (h : first.SameShape second) :
    List.Forall₂ Join.SameShape first.taggings second.taggings := by
  have hjoins : ∀ (kind : JoinKind) {joins joins' : List TagJoin},
      List.Forall₂ TagJoin.SameShape joins joins' →
        List.Forall₂ Join.SameShape (joins.map (taggingJoin kind))
          (joins'.map (taggingJoin kind)) :=
    fun kind _ _ h => List.rel_map (fun _ _ h => .tagging kind h) h
  cases h with
  | taggedWithAll h => exact hjoins .inner h
  | taggedWithAny h => exact hjoins .inner (.cons h .nil)
  | missingSomeTag h => exact hjoins .left h
  | _ => exact .nil

/-- **Conditions of one shape demand the same texts.** -/
theorem demands (h : first.SameShape second) :
    first.demands.map (fun condition => condition.render.text) =
      second.demands.map fun condition => condition.render.text := by
  cases h with
  | status | taggedWithAll | taggedWithAny => rfl
  | activelyPinned now now' =>
      simp only [Predicate.demands, List.map_cons, Condition.render, Operand.render,
        Fragment.text_append, Fragment.placeholder]
  | bookmarkedBy actor actor' =>
      simp only [Predicate.demands, List.map_cons, memberIs, Condition.render, Operand.render,
        Fragment.text_append, Fragment.placeholder]
  | levelIn actor actor' h =>
      simp only [Predicate.demands, RankedSet.isEmpty_congr h]
      split
      · rfl
      · rw [RankedSet.size, RankedSet.size] at h
        simp only [List.map_cons, memberIs, Condition.render, Operand.render, Fragment.text_append,
          Fragment.placeholder, text_renderParams, List.length_map, h]
  | categoryIn h =>
      simp only [Predicate.demands, RankedSet.isEmpty_congr h]
      split
      · rfl
      · simp only [List.map_cons, List.map_nil, Condition.render, Fragment.text_append,
          text_renderParams, length_idParams, h]
  | missingSomeTag h =>
      have hcolumns := congrArg (List.map fun label => (⟨label, "topic_id"⟩ : Column))
        (TagJoin.map_label_of_sameShape h)
      rw [List.map_map, List.map_map] at hcolumns
      exact congrArg (fun columns => [(Condition.someNull columns).render.text]) hcolumns
  | taggedWithNone h =>
      simp only [Predicate.demands, List.map_cons, List.map_nil, Condition.render,
        Fragment.text_append, text_renderParams, length_idParams, h]

theorem repeats (h : first.SameShape second) : first.repeats = second.repeats := by
  have hany : ∀ {joins joins' : List TagJoin}, List.Forall₂ TagJoin.SameShape joins joins' →
      (joins.any fun join => 1 < join.tags.size) = joins'.any fun join => 1 < join.tags.size := by
    intro joins joins' h
    have hsizes := congrArg (List.any · (1 < ·)) (TagJoin.map_size_of_sameShape h)
    rwa [List.any_map, List.any_map] at hsizes
  cases h with
  | taggedWithAll h | missingSomeTag h => exact hany h
  | _ => rfl

theorem eq_status_iff (h : first.SameShape second) (wanted : Status) :
    first = .status wanted ↔ second = .status wanted := by
  cases h <;> simp

end Predicate.SameShape

/-! ### A chain of them -/

namespace Sql.Draft

variable {first second : Draft}

/-- **Conditions of one shape leave drafts of one shape.** -/
theorem SameShape.apply (hdraft : first.SameShape second) {predicate predicate' : Predicate}
    (h : predicate.SameShape predicate') :
    (first.apply predicate).SameShape (second.apply predicate') := by
  rw [apply_eq, apply_eq]
  refine ⟨List.rel_append ?_ h.taggings, ?_, ?_, ?_, hdraft.matchesNothing⟩
  · rw [← h.shared?]
    cases hs : predicate.shared? with
    | none => exact hdraft.joins
    | some join => exact sameShape_linked (Predicate.label_of_shared? hs) hdraft.joins
  · simp only [List.map_append, hdraft.conditions, h.demands]
  · simp only [hdraft.distinct, h.repeats]
  · simp only [hdraft.includesDeleted, h.eq_status_iff]

/-- **Filters of one shape have drafts of one shape.** -/
theorem sameShape_ofFilter {filter filter' : Filter} (h : filter.SameShape filter') :
    (ofFilter filter).SameShape (ofFilter filter') := by
  have hempty : (∅ : Draft).SameShape ∅ := ⟨.nil, rfl, rfl, rfl, rfl⟩
  cases h with
  | nothing => exact ⟨.nil, rfl, rfl, rfl, rfl⟩
  | chain h =>
      refine List.rel_foldl (P := SameShape) (fun _ _ hdraft _ _ h => ?_) hempty h
      exact hdraft.apply h

/-- Drafts of one shape have statements of one text. -/
theorem SameShape.text_statement (h : first.SameShape second) :
    first.statement.text = second.statement.text := by
  have hjoins : first.joins.map (fun join => join.render.text) =
      second.joins.map fun join => join.render.text := by
    rw [← List.forall₂_eq_eq_eq]
    exact List.rel_map (fun _ _ h => Join.SameShape.text h) h.joins
  rw [statement, statement, text_render, text_render, select, select, h.matchesNothing]
  split
  · rfl
  · simp only [h.distinct, h.includesDeleted, hjoins, List.map_append, h.conditions]

end Sql.Draft

/-- **The text of a statement shows no value.**  Filters of one shape are selected by one text and
with the same flags, and the labels of a compiled query are `tags_` with digits after it, whatever
the site answers, also where its answers change from one token to the next. -/
theorem text_hides_values :
    (∀ first second : Filter, first.SameShape second →
      (Draft.ofFilter first).statement.text = (Draft.ofFilter second).statement.text ∧
        (Draft.ofFilter first).distinct = (Draft.ofFilter second).distinct ∧
        (Draft.ofFilter first).includesDeleted = (Draft.ofFilter second).includesDeleted) ∧
      ∀ query : String,
        (∀ context : Context, ∀ label ∈ labels (context.compile query).value.predicates,
          Numbered label) ∧
        ∀ contexts : Token → Context, ∀ label ∈ labels (compileAcross contexts query).predicates,
          Numbered label := by
  refine ⟨fun first second h => ?_, fun query => ⟨fun context => ?_, fun contexts => ?_⟩⟩
  · have hdraft := Draft.sameShape_ofFilter h
    exact ⟨hdraft.text_statement, hdraft.distinct, hdraft.includesDeleted⟩
  · rw [← compileAcross_const]
    exact numbered_of_mem_labels_compileAcross (fun _ => context) query
  · exact numbered_of_mem_labels_compileAcross contexts query

/-- The bookmarks of two actors and the tags of two queries differ in their values alone. -/
theorem text_hides_values_bookmarks :
    let first : Filter :=
      .chain [.bookmarkedBy ⟨1⟩, .taggedWithAll [⟨"tags_0", .ofList [⟨3⟩, ⟨4⟩]⟩]]
    let second : Filter :=
      .chain [.bookmarkedBy ⟨7⟩, .taggedWithAll [⟨"tags_0", .ofList [⟨9⟩, ⟨5⟩]⟩]]
    first.SameShape second ∧
      (Draft.ofFilter first).statement.text = (Draft.ofFilter second).statement.text ∧
      (Draft.ofFilter first).statement.params = [.int 3, .int 4, .int 1] ∧
      (Draft.ofFilter second).statement.params = [.int 5, .int 9, .int 7] := by
  intro first second
  have hshape : first.SameShape second :=
    .chain (.cons (.bookmarkedBy ⟨1⟩ ⟨7⟩)
      (.cons (.taggedWithAll (.cons ⟨rfl, by decide⟩ .nil)) .nil))
  exact ⟨hshape, (text_hides_values.1 first second hshape).1, by decide, by decide⟩

end ForumQuery
