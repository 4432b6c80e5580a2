import ForumQuery.Proofs.Sql.Drafts
import ForumQuery.Proofs.Sql.Placeholders

/-!
# Fragments — what the statement of a chain is made of

The statement of a chain is made of fragments: one for each join (`Draft.joinFragments`), then one
for what each condition on topics demands of the rows, if it demands anything (`Draft.clauses`).  Its
text is theirs with the words of a selection between them (`Draft.text_statement_chain`), and its
values are theirs in the order in which they stand (`Draft.params_statement_chain`).

The fragments of the joins bind the tags of the conditions (`Draft.params_joinFragments`), those of
the conditions all other values (`Draft.params_clauses`), each in the order of the chain.  The
columns in them are those of the tables and those of the taggings under the labels of the condition
(`Predicate.Names`), so each fragment has a value for each placeholder if no label has a question
mark in it (`Draft.inStep_of_mem_fragments`).
-/

namespace ForumQuery

open Sql Fragment

/-! ### Conditions that stand together -/

namespace Sql

/-- The fragment of conditions that stand together, if there are any. -/
def together? (conditions : List Condition) : Option Fragment :=
  if conditions = [] then none else some (renderAll conditions)

theorem together?_eq_some_iff {conditions : List Condition} {fragment : Fragment} :
    together? conditions = some fragment ↔ conditions ≠ [] ∧ renderAll conditions = fragment := by
  rw [together?]
  split <;> simp_all

theorem params_together? (conditions : List Condition) :
    (together? conditions).toList.flatMap Fragment.params =
      conditions.flatMap Condition.params := by
  rw [together?]
  split
  · next h =>
    rw [h]
    rfl
  · rw [Option.toList_some, List.flatMap_singleton, params_renderAll]

/-- Groups of conditions bind what their fragments do. -/
theorem params_filterMap_together? (groups : List (List Condition)) :
    (groups.filterMap together?).flatMap Fragment.params =
      groups.flatten.flatMap Condition.params := by
  rw [List.filterMap_eq_flatMap_toList, List.flatMap_assoc, List.flatten_eq_flatMap,
    List.flatMap_assoc]
  exact List.flatMap_congr fun group _ => params_together? group

theorem filterMap_together?_eq_nil_iff {groups : List (List Condition)} :
    groups.filterMap together? = [] ↔ groups.flatten = [] := by
  rw [List.filterMap_eq_nil_iff, List.flatten_eq_nil_iff]
  refine forall₂_congr fun group _ => ?_
  rw [together?]
  split <;> simp_all

theorem text_renderAll (conditions : List Condition) :
    (renderAll conditions).text =
      " AND ".intercalate (conditions.map fun condition => condition.render.text) := by
  rw [renderAll, text_separated, List.map_map]
  rfl

/-- Groups of conditions read as their fragments do. -/
theorem text_renderAll_flatten (groups : List (List Condition)) :
    (renderAll groups.flatten).text =
      " AND ".intercalate ((groups.filterMap together?).map Fragment.text) := by
  induction groups with
  | nil => rfl
  | cons group rest ih =>
      by_cases hgroup : group = []
      · rw [hgroup, List.flatten_cons, List.nil_append, ih]
        rfl
      · have hsome : together? group = some (renderAll group) := if_neg hgroup
        rw [List.flatten_cons, List.filterMap_cons_some hsome, List.map_cons]
        by_cases hrest : rest.flatten = []
        · rw [hrest, List.append_nil, filterMap_together?_eq_nil_iff.2 hrest, List.map_nil,
            String.intercalate_singleton]
        · have hfragments : (rest.filterMap together?).map Fragment.text ≠ [] :=
            mt List.map_eq_nil_iff.1 (mt filterMap_together?_eq_nil_iff.1 hrest)
          rw [String.intercalate_cons_of_ne_nil hfragments, ← ih, text_renderAll, text_renderAll,
            text_renderAll, List.map_append,
            String.intercalate_append_of_ne_nil (mt List.map_eq_nil_iff.1 hgroup)
              (mt List.map_eq_nil_iff.1 hrest)]

end Sql

/-! ### One condition on topics -/

/-- The columns of the tables that conditions on topics read. -/
def Sql.columns : List Column :=
  ["id", "category_id", "closed", "archived", "visible", "deleted_at", "pinned_at",
    "pinned_until"].map topics ++
  ["topic_id", "user_id", "bookmarked", "notification_level"].map members ++
  ["id", "read_restricted"].map categories ++ ["topic_id", "tag_id"].map taggings

namespace Predicate

/-- The fragment of what a condition on topics demands, if it demands anything. -/
def clause? (predicate : Predicate) : Option Fragment := together? predicate.demands

/-- The values that the fragment of a condition on topics binds. -/
def bound : Predicate → List Param
  | activelyPinned now => [.timestamp now]
  | bookmarkedBy actor => [.int actor.toInt]
  | levelIn actor levels =>
      if levels.isEmpty then []
      else levels.toList.map (fun level => .int level.stored) ++ [.int actor.toInt]
  | categoryIn ids => idParams ids
  | taggedWithNone tags => idParams tags
  | status _ | taggedWithAll _ | taggedWithAny _ | missingSomeTag _ => []

theorem params_demands (predicate : Predicate) :
    predicate.demands.flatMap Condition.params = predicate.bound := by
  cases predicate with
  | status wanted => cases wanted <;> rfl
  | activelyPinned | bookmarkedBy | taggedWithAll | taggedWithAny | missingSomeTag => rfl
  | levelIn actor levels =>
      rw [demands, bound]
      split
      · rfl
      · simp [Condition.params, memberIs, Operand.params]
  | categoryIn ids =>
      rw [demands, bound]
      split
      · next h =>
        have hnil : ids.toList = [] := List.isEmpty_iff.1 h
        simp [idParams, hnil, Condition.params]
      · simp [Condition.params]
  | taggedWithNone tags => simp [demands, bound, Condition.params]

theorem params_clause? {predicate : Predicate} {fragment : Fragment}
    (h : fragment ∈ predicate.clause?) : fragment.params = predicate.bound := by
  obtain ⟨-, rfl⟩ := together?_eq_some_iff.1 h
  rw [params_renderAll, params_demands]

/-- The columns that a condition on topics can name. -/
inductive Names (predicate : Predicate) : Column → Prop
  /-- a column of a table -/
  | table {column : Column} (h : column ∈ columns) : Names predicate column
  /-- a column of the taggings under a label of the condition -/
  | label {group : TagJoin} (hg : group ∈ predicate.joins) {name : String}
      (hn : name ∈ ["topic_id", "tag_id"]) : Names predicate ⟨group.label, name⟩

/-- The names in what a condition on topics demands. -/
theorem names_of_mem_demands {predicate : Predicate} {condition : Condition}
    (hc : condition ∈ predicate.demands) {column : Column} (hcolumn : column ∈ condition.named) :
    predicate.Names column := by
  have htables : (∀ condition ∈ predicate.demands, ∀ column ∈ condition.named, column ∈ columns) →
      predicate.Names column := fun h => .table (h condition hc column hcolumn)
  cases predicate with
  | status wanted => exact htables (by cases wanted <;> decide)
  | activelyPinned now =>
      exact htables (by simp +decide [demands, Condition.named, Operand.columns])
  | bookmarkedBy actor =>
      exact htables (by simp +decide [demands, Condition.named, Operand.columns, memberIs])
  | levelIn actor levels =>
      refine htables ?_
      rw [demands]
      split
      · decide
      · simp +decide [Condition.named, Operand.columns, memberIs]
  | categoryIn ids =>
      refine htables ?_
      rw [demands]
      split
      · decide
      · simp +decide [Condition.named]
  | taggedWithAll | taggedWithAny => exact absurd hc List.not_mem_nil
  | missingSomeTag groups =>
      rw [List.mem_singleton.1 hc] at hcolumn
      obtain ⟨group, hgroup, rfl⟩ := List.mem_map.1 hcolumn
      exact .label hgroup (by decide)
  | taggedWithNone tags => exact htables (by simp +decide [demands, Condition.named])

/-- The names in what a condition on topics joins by. -/
theorem names_of_mem_links {predicate : Predicate} {join : Join} (hjoin : join ∈ predicate.links)
    {condition : Condition} (hc : condition ∈ join.conditions) {column : Column}
    (hcolumn : column ∈ condition.named) : predicate.Names column := by
  rcases List.mem_append.1 hjoin with hshared | htaggings
  · have htables : ∀ join ∈ [memberJoin, categoryJoin], ∀ condition ∈ join.conditions,
        ∀ column ∈ condition.named, column ∈ columns := by decide
    have hmem : join ∈ [memberJoin, categoryJoin] := by
      simpa using eq_of_shared? (Option.mem_toList.1 hshared)
    exact .table (htables join hmem condition hc column hcolumn)
  · obtain ⟨kind, group, hgroup, rfl⟩ := exists_of_mem_taggings htaggings
    have hnamed : column ∈ [⟨group.label, "topic_id"⟩, topics "id", ⟨group.label, "tag_id"⟩] := by
      have hall := List.mem_flatMap.2 ⟨condition, hc, hcolumn⟩
      simpa [taggingJoin, matching, Condition.named, Operand.columns, or_assoc] using hall
    simp only [List.mem_cons, List.not_mem_nil, or_false] at hnamed
    rcases hnamed with rfl | rfl | rfl
    · exact .label hgroup (by decide)
    · exact .table (by decide)
    · exact .label hgroup (by decide)

theorem Names.unmarked {predicate : Predicate} {column : Column} (hn : predicate.Names column)
    (h : ∀ group ∈ predicate.joins, Unmarked group.label) : column.Unmarked := by
  cases hn with
  | table hcolumn =>
      have hall : ∀ column ∈ columns, column.Unmarked := by decide
      exact hall column hcolumn
  | label hg hn =>
      have hall : ∀ name ∈ ["topic_id", "tag_id"], Unmarked name := by decide
      exact Column.unmarked_iff.2 ⟨h _ hg, hall _ hn⟩

theorem unmarked_links {predicate : Predicate}
    (h : ∀ group ∈ predicate.joins, Unmarked group.label) {join : Join}
    (hjoin : join ∈ predicate.links) : join.Unmarked := by
  have hnamed : ∀ condition ∈ join.conditions, ∀ column ∈ condition.named, column.Unmarked :=
    fun condition hc column hcolumn => (names_of_mem_links hjoin hc hcolumn).unmarked h
  rcases List.mem_append.1 hjoin with hshared | htaggings
  · rcases eq_of_shared? (Option.mem_toList.1 hshared) with rfl | rfl
    · exact ⟨by decide, nofun, hnamed⟩
    · exact ⟨by decide, nofun, hnamed⟩
  · obtain ⟨kind, group, hgroup, rfl⟩ := exists_of_mem_taggings htaggings
    have htable : Unmarked "topic_tags" := by decide
    exact ⟨htable, fun label hl => Option.some.inj hl ▸ h group hgroup, hnamed⟩

end Predicate

/-! ### A chain of them -/

namespace Sql.Draft

/-- The fragments of the joins of a chain. -/
def joinFragments (predicates : List Predicate) : List Fragment :=
  (joinsOf predicates).map Join.render

/-- The fragments of the conditions of a chain. -/
def clauses (predicates : List Predicate) : List Fragment :=
  (if .status .deleted ∈ predicates then [] else [plain "topics.deleted_at IS NULL"]) ++
    predicates.filterMap Predicate.clause?

/-- The conditions of a chain, grouped as its fragments are. -/
def groups (predicates : List Predicate) : List (List Condition) :=
  (if .status .deleted ∈ predicates then [] else [.isNull false (topics "deleted_at")]) ::
    predicates.map Predicate.demands

theorem flatten_groups (predicates : List Predicate) :
    (groups predicates).flatten = (ofFilter (.chain predicates)).select.conditions := by
  rw [select_chain, groups, List.flatten_cons, List.flatMap_def]

theorem filterMap_groups (predicates : List Predicate) :
    (groups predicates).filterMap together? = clauses predicates := by
  rw [groups, clauses, List.filterMap_cons, List.filterMap_map]
  by_cases h : .status .deleted ∈ predicates
  · rw [if_pos h, if_pos h]
    rfl
  · rw [if_neg h, if_neg h]
    rfl

/-! ### The values -/

/-- A shared table binds nothing. -/
theorem flatMap_params_linked {joins : List Join} {join : Join} (h : join.render.params = []) :
    (linked joins join).flatMap (fun join => join.render.params) =
      joins.flatMap fun join => join.render.params := by
  rw [linked]
  split
  · rfl
  · rw [List.flatMap_append, List.flatMap_singleton, h, List.append_nil]

theorem params_render_taggingJoin (kind : JoinKind) (group : TagJoin) :
    (taggingJoin kind group).render.params = idParams group.tags := by
  rw [Join.params_render]
  simp [taggingJoin, matching, Condition.params, Operand.params]

theorem params_render_of_shared? {predicate : Predicate} {join : Join}
    (h : predicate.shared? = some join) : join.render.params = [] := by
  rcases Predicate.eq_of_shared? h with rfl | rfl <;> rfl

theorem params_taggings (predicate : Predicate) :
    predicate.taggings.flatMap (fun join => join.render.params) =
      predicate.joins.flatMap fun group => idParams group.tags := by
  cases predicate <;>
    simp [Predicate.taggings, Predicate.joins, List.flatMap_map, params_render_taggingJoin]

/-- **The joins of a chain bind the tags of its conditions**, in the order of the conditions. -/
theorem params_joinFragments (predicates : List Predicate) :
    (joinFragments predicates).flatMap Fragment.params =
      predicates.flatMap fun predicate => predicate.joins.flatMap fun group =>
        idParams group.tags := by
  rw [joinFragments, List.flatMap_map]
  induction predicates using List.reverseRecOn with
  | nil => rfl
  | append_singleton predicates predicate ih =>
      rw [joinsOf_concat, List.flatMap_append, params_taggings, List.flatMap_append,
        List.flatMap_singleton, ← ih]
      refine congrArg (· ++ _) ?_
      cases hs : predicate.shared? with
      | none => rfl
      | some join => exact flatMap_params_linked (params_render_of_shared? hs)

/-- **The conditions of a chain bind their values** in the order of the conditions. -/
theorem params_clauses (predicates : List Predicate) :
    (clauses predicates).flatMap Fragment.params = predicates.flatMap Predicate.bound := by
  have hdefault : (if .status .deleted ∈ predicates then []
      else [Condition.isNull false (topics "deleted_at")]).flatMap Condition.params = [] := by
    split <;> rfl
  rw [← filterMap_groups, params_filterMap_together?, flatten_groups, select_chain,
    List.flatMap_append, hdefault, List.nil_append, List.flatMap_assoc]
  exact List.flatMap_congr fun predicate _ => predicate.params_demands

/-- **The values of the statement of a chain** are those of its fragments. -/
theorem params_statement_chain (predicates : List Predicate) :
    (ofFilter (.chain predicates)).statement.params =
      (joinFragments predicates ++ clauses predicates).flatMap Fragment.params := by
  have hjoins : (joinFragments predicates).flatMap Fragment.params =
      (joinsOf predicates).flatMap fun join => join.conditions.flatMap Condition.params := by
    rw [joinFragments, List.flatMap_map]
    exact List.flatMap_congr fun join _ => join.params_render
  rw [statement, Select.params_render, Select.params, joins_select_chain, ← flatten_groups,
    ← params_filterMap_together?, filterMap_groups, ← hjoins, List.flatMap_append]

/-! ### The text -/

/-- The text of a statement, from the texts of its joins and its conditions. -/
def textOf (distinct : Bool) (joins conditions : List String) : String :=
  "SELECT " ++ (if distinct then "DISTINCT " else "") ++ "topics.* FROM topics" ++
    String.join (joins.map (" " ++ ·)) ++
    if conditions = [] then "" else " WHERE " ++ " AND ".intercalate conditions

theorem text_render (select : Select) :
    select.render.text = textOf select.distinct (select.joins.map fun join => join.render.text)
      (select.conditions.map fun condition => condition.render.text) := by
  rw [Select.render, text_append, text_append, text_concat, textOf, List.map_map, List.map_map]
  refine congrArg _ ?_
  simp only [List.map_eq_nil_iff]
  split
  · rfl
  · rw [text_append, text_renderAll]
    rfl

/-- Two ways to cut conditions into texts that read the same. -/
theorem textOf_congr {distinct : Bool} {joins first second : List String}
    (hnil : first = [] ↔ second = [])
    (h : " AND ".intercalate first = " AND ".intercalate second) :
    textOf distinct joins first = textOf distinct joins second := by
  simp only [textOf, hnil, h]

/-- **The text of the statement of a chain**, from the texts of its fragments. -/
theorem text_statement_chain (predicates : List Predicate) :
    (ofFilter (.chain predicates)).statement.text =
      textOf (predicates.any Predicate.repeats) ((joinFragments predicates).map Fragment.text)
        ((clauses predicates).map Fragment.text) := by
  have hdistinct : (ofFilter (.chain predicates)).select.distinct =
      predicates.any Predicate.repeats := by
    rw [select_chain]
  rw [statement, text_render, hdistinct, joins_select_chain, joinFragments, List.map_map,
    ← flatten_groups, ← filterMap_groups]
  refine textOf_congr ?_ ?_
  · rw [List.map_eq_nil_iff, List.map_eq_nil_iff, filterMap_together?_eq_nil_iff]
  · rw [← text_renderAll, text_renderAll_flatten]

/-! ### The placeholders -/

section

variable {predicates : List Predicate} (h : ∀ label ∈ labels predicates, Unmarked label)
include h

theorem unmarked_of_mem_joins {predicate : Predicate} (hp : predicate ∈ predicates) :
    ∀ group ∈ predicate.joins, Unmarked group.label :=
  fun _ hg => h _ (List.mem_map_of_mem (List.mem_flatMap.2 ⟨predicate, hp, hg⟩))

theorem unmarked_of_mem_joinsOf {join : Join} (hj : join ∈ joinsOf predicates) :
    join.Unmarked := by
  obtain ⟨predicate, hp, hlink⟩ := mem_joinsOf_iff.1 hj
  exact Predicate.unmarked_links (unmarked_of_mem_joins h hp) hlink

theorem unmarked_of_mem_groups {group : List Condition} (hg : group ∈ groups predicates) :
    ∀ condition ∈ group, ∀ column ∈ condition.named, column.Unmarked := by
  rcases List.mem_cons.1 hg with rfl | hg
  · split <;> decide
  · obtain ⟨predicate, hp, rfl⟩ := List.mem_map.1 hg
    exact fun condition hc column hcolumn =>
      (Predicate.names_of_mem_demands hc hcolumn).unmarked (unmarked_of_mem_joins h hp)

/-- **Every fragment of a chain has a value for each placeholder.** -/
theorem inStep_of_mem_fragments {fragment : Fragment}
    (hf : fragment ∈ joinFragments predicates ++ clauses predicates) : fragment.InStep := by
  rcases List.mem_append.1 hf with hf | hf
  · obtain ⟨join, hj, rfl⟩ := List.mem_map.1 hf
    exact Join.inStep_render (unmarked_of_mem_joinsOf h hj)
  · rw [← filterMap_groups] at hf
    obtain ⟨group, hg, hf⟩ := List.mem_filterMap.1 hf
    obtain ⟨-, rfl⟩ := together?_eq_some_iff.1 hf
    exact inStep_renderAll (unmarked_of_mem_groups h hg)

/-- So has its statement. -/
theorem inStep_statement_chain : (ofFilter (.chain predicates)).statement.InStep := by
  refine Select.inStep_render (fun join hj => ?_) fun condition hc => ?_
  · rw [joins_select_chain] at hj
    exact unmarked_of_mem_joinsOf h hj
  · rw [← flatten_groups] at hc
    obtain ⟨group, hg, hc⟩ := List.mem_flatten.1 hc
    exact unmarked_of_mem_groups h hg condition hc

end

/-- What the fragment of a join binds. -/
theorem params_of_mem_joinsOf {predicates : List Predicate} {join : Join}
    (hj : join ∈ joinsOf predicates) :
    (join = memberJoin ∨ join = categoryJoin) ∧ join.render.params = [] ∨
      ∃ kind, ∃ group ∈ predicates.flatMap Predicate.joins, join = taggingJoin kind group ∧
        join.render.params = idParams group.tags := by
  obtain ⟨predicate, hp, hlink⟩ := mem_joinsOf_iff.1 hj
  rcases List.mem_append.1 hlink with hshared | htaggings
  · have hshared := Option.mem_toList.1 hshared
    exact .inl ⟨Predicate.eq_of_shared? hshared, params_render_of_shared? hshared⟩
  · obtain ⟨kind, group, hg, rfl⟩ := Predicate.exists_of_mem_taggings htaggings
    exact .inr ⟨kind, group, List.mem_flatMap.2 ⟨predicate, hp, hg⟩, rfl,
      params_render_taggingJoin kind group⟩

end Sql.Draft

end ForumQuery
