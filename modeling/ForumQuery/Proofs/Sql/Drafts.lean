import ForumQuery.Sql.Draft
import ForumQuery.Proofs.Labels
import ForumQuery.Proofs.Sql.Combinations

/-!
# Drafts — what a chain of conditions asks of a statement

Each condition is lowered on its own: it makes *links*, which are at most one table that it shares
with other conditions (`Predicate.shared?`) and the joins of its taggings (`Predicate.taggings`), it
*demands* conditions of the statement, and it may find a topic several times
(`Predicate.repeats`).  `Draft.foldl_apply` and `Draft.joinsOf_perm` say what a whole chain
makes of the draft: the demands of all of them in their order, the joins of all taggings, and each
shared table once.

The conditions are `Labelled` if their labels are all different and none is the name of a table;
then the joins of the draft are apart (`Draft.apart_joinsOf`).
-/

namespace ForumQuery

open Sql

/-! ### One condition -/

namespace Predicate

/-- The table that a condition joins together with others. -/
def shared? : Predicate → Option Join
  | status .unrestricted => some categoryJoin
  | bookmarkedBy _ => some memberJoin
  | levelIn _ levels => if levels.isEmpty then none else some memberJoin
  | status .ongoing | status .closed | status .archived | status .listed | status .unlisted
  | status .deleted | activelyPinned _ | categoryIn _ | taggedWithAll _ | taggedWithAny _
  | missingSomeTag _ | taggedWithNone _ => none

/-- The joins of the taggings that a condition makes for itself. -/
def taggings : Predicate → List Join
  | taggedWithAll joins => joins.map (taggingJoin .inner)
  | taggedWithAny join => [taggingJoin .inner join]
  | missingSomeTag joins => joins.map (taggingJoin .left)
  | status _ | activelyPinned _ | bookmarkedBy _ | levelIn .. | categoryIn _
  | taggedWithNone _ => []

/-- All the joins of a condition. -/
def links (predicate : Predicate) : List Join := predicate.shared?.toList ++ predicate.taggings

/-- What a condition on topics demands of the rows. -/
def demands : Predicate → List Condition
  | status .ongoing => [.flag true (topics "closed"), .flag true (topics "archived")]
  | status .closed => [.flag false (topics "closed")]
  | status .archived => [.flag false (topics "archived")]
  | status .listed => [.flag false (topics "visible")]
  | status .unlisted => [.flag true (topics "visible")]
  | status .unrestricted => [.flag true (categories "read_restricted")]
  | status .deleted => [.isNull true (topics "deleted_at")]
  | activelyPinned now =>
      [.isNull true (topics "pinned_at"),
        .compare .greater (.column (topics "pinned_until")) (.column (topics "pinned_at")),
        .compare .less (.bound (.timestamp now)) (.column (topics "pinned_until"))]
  | bookmarkedBy actor => [.flag false (members "bookmarked"), memberIs actor]
  | levelIn actor levels =>
      if levels.isEmpty then [.never]
      else
        [.oneOf (members "notification_level") (levels.toList.map fun level => .int level.stored),
          memberIs actor]
  | categoryIn ids =>
      if ids.isEmpty then [.never] else [.oneOf (topics "category_id") (idParams ids)]
  | taggedWithAll _ | taggedWithAny _ => []
  | missingSomeTag joins => [.someNull (joins.map fun join => ⟨join.label, "topic_id"⟩)]
  | taggedWithNone tags =>
      [.notSelected (topics "id") (Sql.taggings "topic_id") (Sql.taggings "tag_id") (idParams tags)]

/-- Whether the joins of a condition may find a topic several times. -/
def repeats : Predicate → Bool
  | taggedWithAll joins | missingSomeTag joins => joins.any fun join => 1 < join.tags.size
  | taggedWithAny _ => true
  | status _ | activelyPinned _ | bookmarkedBy _ | levelIn .. | categoryIn _ | taggedWithNone _ =>
      false

theorem map_name_taggings (predicate : Predicate) :
    predicate.taggings.map Join.name = predicate.joins.map TagJoin.label := by
  cases predicate <;> simp [taggings, joins, taggingJoin, Join.name, Function.comp_def]

theorem exists_of_mem_taggings {predicate : Predicate} {join : Join}
    (h : join ∈ predicate.taggings) :
    ∃ kind, ∃ group ∈ predicate.joins, taggingJoin kind group = join := by
  cases predicate with
  | taggedWithAll groups => exact ⟨.inner, List.mem_map.1 h⟩
  | taggedWithAny group =>
      exact ⟨.inner, group, List.mem_singleton_self _, (List.mem_singleton.1 h).symm⟩
  | missingSomeTag groups => exact ⟨.left, List.mem_map.1 h⟩
  | _ => exact absurd h List.not_mem_nil

theorem size_le_one {predicate : Predicate} (h : ¬ predicate.repeats = true) {group : TagJoin}
    (hg : group ∈ predicate.joins) : group.tags.size ≤ 1 := by
  cases predicate with
  | taggedWithAll groups | missingSomeTag groups =>
      simp only [repeats, List.any_eq_true, decide_eq_true_eq, not_exists, not_and, Nat.not_lt] at h
      exact h group hg
  | taggedWithAny _ => exact absurd rfl h
  | _ => exact absurd hg List.not_mem_nil

theorem eq_of_shared? {predicate : Predicate} {join : Join} (h : predicate.shared? = some join) :
    join = memberJoin ∨ join = categoryJoin := by
  unfold shared? at h
  split at h
  case h_3 => split at h <;> simp_all
  all_goals simp_all

end Predicate

namespace Sql

/-! ### A chain of conditions -/

namespace Draft

theorem foldl_linkTags (kind : JoinKind) (joins : List TagJoin) (draft : Draft) :
    joins.foldl (linkTags · kind ·) draft =
      { draft with
        joins := draft.joins ++ joins.map (taggingJoin kind)
        distinct := draft.distinct || joins.any fun join => 1 < join.tags.size } := by
  induction joins generalizing draft with
  | nil => simp
  | cons join rest ih => rw [List.foldl_cons, ih]; simp [linkTags, Bool.or_assoc]

/-- Joins with one more, unless the very same is there. -/
def linked (joins : List Join) (join : Join) : List Join :=
  if join ∈ joins then joins else joins ++ [join]

theorem link_eq (draft : Draft) (join : Join) :
    draft.link join = { draft with joins := linked draft.joins join } := by
  rw [link, linked]
  split <;> rfl

/-- **What a condition makes of a draft.** -/
theorem apply_eq (draft : Draft) (predicate : Predicate) :
    draft.apply predicate =
      { joins := predicate.shared?.elim draft.joins (linked draft.joins) ++ predicate.taggings
        conditions := draft.conditions ++ predicate.demands
        distinct := draft.distinct || predicate.repeats
        includesDeleted := draft.includesDeleted || decide (predicate = .status .deleted)
        matchesNothing := draft.matchesNothing } := by
  cases predicate with
  | status wanted =>
      cases wanted <;>
        simp [apply, requireStatus, require, link_eq, Predicate.shared?, Predicate.taggings,
          Predicate.demands, Predicate.repeats]
  | activelyPinned | taggedWithNone | bookmarkedBy =>
      simp [apply, require, link_eq, Predicate.shared?, Predicate.taggings, Predicate.demands,
        Predicate.repeats]
  | levelIn actor levels =>
      by_cases he : levels.isEmpty = true <;>
        simp [apply, require, link_eq, Predicate.shared?, Predicate.taggings, Predicate.demands,
          Predicate.repeats, he]
  | categoryIn ids =>
      by_cases he : ids.isEmpty = true <;>
        simp [apply, require, Predicate.shared?, Predicate.taggings, Predicate.demands,
          Predicate.repeats, he]
  | taggedWithAll groups =>
      rw [apply, foldl_linkTags]
      simp [Predicate.shared?, Predicate.taggings, Predicate.demands, Predicate.repeats]
  | taggedWithAny group =>
      simp [apply, linkTags, Predicate.shared?, Predicate.taggings, Predicate.demands,
        Predicate.repeats]
  | missingSomeTag groups =>
      rw [apply, foldl_linkTags]
      simp [require, Predicate.shared?, Predicate.taggings, Predicate.demands, Predicate.repeats]

/-- **What a chain makes of a draft**, but for the joins. -/
theorem foldl_apply (draft : Draft) (predicates : List Predicate) :
    predicates.foldl apply draft =
      { joins := (predicates.foldl apply draft).joins
        conditions := draft.conditions ++ predicates.flatMap Predicate.demands
        distinct := draft.distinct || predicates.any Predicate.repeats
        includesDeleted := draft.includesDeleted || decide (.status .deleted ∈ predicates)
        matchesNothing := draft.matchesNothing } := by
  induction predicates generalizing draft with
  | nil => simp
  | cons predicate rest ih =>
      rw [List.foldl_cons, ih]
      simp [apply_eq, Bool.or_assoc, eq_comm (b := predicate)]

/-- The joins of a chain. -/
def joinsOf (predicates : List Predicate) : List Join := (predicates.foldl apply ∅).joins

theorem joinsOf_concat (predicates : List Predicate) (predicate : Predicate) :
    joinsOf (predicates ++ [predicate]) =
      predicate.shared?.elim (joinsOf predicates) (linked (joinsOf predicates)) ++
        predicate.taggings := by
  rw [joinsOf, List.foldl_append, List.foldl_cons, List.foldl_nil, apply_eq]
  rfl

/-- The draft of a chain. -/
theorem ofFilter_chain (predicates : List Predicate) :
    ofFilter (.chain predicates) =
      { joins := joinsOf predicates
        conditions := predicates.flatMap Predicate.demands
        distinct := predicates.any Predicate.repeats
        includesDeleted := decide (.status .deleted ∈ predicates)
        matchesNothing := false } :=
  foldl_apply ∅ predicates

/-- The selection of a chain. -/
theorem select_chain (predicates : List Predicate) :
    (ofFilter (.chain predicates)).select =
      ⟨predicates.any Predicate.repeats, joinsOf predicates,
        (if .status .deleted ∈ predicates then [] else [.isNull false (topics "deleted_at")]) ++
          predicates.flatMap Predicate.demands⟩ := by
  rw [ofFilter_chain, select]
  by_cases h : .status .deleted ∈ predicates <;> simp [h]

theorem joins_select_chain (predicates : List Predicate) :
    (ofFilter (.chain predicates)).select.joins = joinsOf predicates := by
  rw [select_chain]

/-- The tables that some conditions share. -/
def sharedJoins (predicates : List Predicate) : List Join :=
  (predicates.filterMap Predicate.shared?).eraseDups

theorem mem_sharedJoins {predicates : List Predicate} {join : Join} :
    join ∈ sharedJoins predicates ↔ ∃ predicate ∈ predicates, predicate.shared? = some join := by
  rw [sharedJoins, List.mem_eraseDups, List.mem_filterMap]

theorem sharedJoins_concat (predicates : List Predicate) (predicate : Predicate) :
    sharedJoins (predicates ++ [predicate]) =
      predicate.shared?.elim (sharedJoins predicates) (linked (sharedJoins predicates)) := by
  rw [sharedJoins, List.filterMap_append]
  cases hs : predicate.shared? with
  | none => simp [hs, sharedJoins]
  | some join => simp [hs, eraseDups_concat, linked, sharedJoins, List.mem_eraseDups]

theorem linked_perm {joins first second : List Join} {join : Join}
    (h : joins.Perm (first ++ second)) (hjoin : join ∉ second) :
    (linked joins join).Perm (linked first join ++ second) := by
  have hmem : join ∈ joins ↔ join ∈ first := by simp [h.mem_iff, hjoin]
  simp only [linked, hmem]
  split
  · exact h
  · refine (h.append_right [join]).trans ?_
    rw [List.append_assoc, List.append_assoc]
    exact List.perm_append_comm.append_left first

/-- **The joins of a chain**: each shared table once, and the taggings of every condition. -/
theorem joinsOf_perm (predicates : List Predicate) :
    (joinsOf predicates).Perm
      (sharedJoins predicates ++ predicates.flatMap Predicate.taggings) := by
  induction predicates using List.reverseRecOn with
  | nil => exact .nil
  | append_singleton predicates predicate ih =>
      rw [joinsOf_concat, List.flatMap_append, List.flatMap_singleton, ← List.append_assoc,
        sharedJoins_concat]
      refine List.Perm.append_right _ ?_
      cases hs : predicate.shared? with
      | none => exact ih
      | some join =>
          -- a shared table is none of the taggings, so only another condition can have joined it
          refine linked_perm ih fun hmem => ?_
          obtain ⟨other, -, ho⟩ := List.mem_flatMap.1 hmem
          obtain ⟨kind, group, -, he⟩ := Predicate.exists_of_mem_taggings ho
          rcases Predicate.eq_of_shared? hs with rfl | rfl <;>
            simp [taggingJoin, memberJoin, categoryJoin] at he

end Draft

end Sql

/-! ### Labels -/

/-- The tables whose rows go by the name of the table. -/
def Sql.tables : List String := ["topics", "topic_users", "categories"]

/-- No label is the name of a table. -/
theorem Builder.label_notMem_tables (n : Nat) : label n ∉ tables := by
  have hne : ∀ name ∈ tables, name.toList.take 2 ≠ ['t', 'a'] := by decide
  exact fun hmem => label_ne (hne _ hmem) n rfl

/-- Conditions whose labels are all different, and none the name of a table. -/
structure Labelled (predicates : List Predicate) : Prop where
  nodup : (labels predicates).Nodup
  notMem_tables : ∀ label ∈ labels predicates, label ∉ tables

namespace Sql

theorem map_name_taggings (predicates : List Predicate) :
    (predicates.flatMap Predicate.taggings).map Join.name = labels predicates := by
  rw [labels, List.map_flatMap, List.map_flatMap]
  exact List.flatMap_congr fun predicate _ => predicate.map_name_taggings

namespace Draft

variable {predicates : List Predicate}

theorem nodup_map_name_sharedJoins : ((sharedJoins predicates).map Join.name).Nodup := by
  refine (nodup_eraseDups _).map_on fun join hj other ho hname => ?_
  obtain ⟨_, -, hp⟩ := mem_sharedJoins.1 hj
  obtain ⟨_, -, hq⟩ := mem_sharedJoins.1 ho
  rcases Predicate.eq_of_shared? hp with rfl | rfl <;>
    rcases Predicate.eq_of_shared? hq with rfl | rfl
  · rfl
  · exact absurd hname (by decide)
  · exact absurd hname (by decide)
  · rfl

theorem name_mem_of_mem_sharedJoins {join : Join} (h : join ∈ sharedJoins predicates) :
    join.name ∈ tables := by
  obtain ⟨_, -, hp⟩ := mem_sharedJoins.1 h
  rcases Predicate.eq_of_shared? hp with rfl | rfl <;> decide

/-- **A statement declares no name twice if and only if no label stands twice in the chain**, the
labels not being names of tables. -/
theorem nodup_map_name_joinsOf_iff
    (htable : ∀ label ∈ labels predicates, label ∉ tables) :
    ((joinsOf predicates).map Join.name).Nodup ↔ (labels predicates).Nodup := by
  rw [((joinsOf_perm predicates).map Join.name).nodup_iff, List.map_append,
    map_name_taggings, List.nodup_append]
  refine ⟨fun h => h.2.1, fun h => ⟨nodup_map_name_sharedJoins, h, ?_⟩⟩
  rintro _ hname _ hlabel rfl
  obtain ⟨join, hj, rfl⟩ := List.mem_map.1 hname
  exact htable _ hlabel (name_mem_of_mem_sharedJoins hj)

theorem alone_taggingJoin (kind : JoinKind) {group : TagJoin} (h : group.label ≠ "topics") :
    (taggingJoin kind group).Alone :=
  ⟨h, by simp [Reads, taggingJoin, matching, Condition.columns, Operand.columns, topics, Join.name]⟩

theorem alone_of_mem_sharedJoins {join : Join} (h : join ∈ sharedJoins predicates) :
    join.Alone := by
  obtain ⟨_, -, hp⟩ := mem_sharedJoins.1 h
  rcases Predicate.eq_of_shared? hp with rfl | rfl
  · exact ⟨by decide, by simp [Reads, memberJoin, matching, Condition.columns, Operand.columns,
      topics, members, Join.name]⟩
  · exact ⟨by decide, by simp [Reads, categoryJoin, matching, Condition.columns, Operand.columns,
      topics, categories, Join.name]⟩

theorem label_ne_topics (h : Labelled predicates) {predicate : Predicate}
    (hp : predicate ∈ predicates) : ∀ group ∈ predicate.joins, group.label ≠ "topics" := by
  intro group hg hlabel
  refine h.notMem_tables group.label (List.mem_map_of_mem ?_) (hlabel ▸ List.mem_cons_self)
  exact List.mem_flatMap.2 ⟨predicate, hp, hg⟩

/-- **The joins of a labelled chain are apart.** -/
theorem apart_joinsOf (h : Labelled predicates) : Apart (joinsOf predicates) := by
  refine ⟨fun join hj => ?_, (nodup_map_name_joinsOf_iff h.notMem_tables).2 h.nodup⟩
  rcases List.mem_append.1 ((joinsOf_perm predicates).mem_iff.1 hj) with hj | hj
  · exact alone_of_mem_sharedJoins hj
  · obtain ⟨predicate, hp, hj⟩ := List.mem_flatMap.1 hj
    obtain ⟨kind, group, hg, rfl⟩ := Predicate.exists_of_mem_taggings hj
    exact alone_taggingJoin kind (label_ne_topics h hp group hg)

theorem mem_joinsOf_iff {join : Join} : join ∈ joinsOf predicates ↔
    ∃ predicate ∈ predicates, join ∈ predicate.links := by
  rw [(joinsOf_perm predicates).mem_iff, List.mem_append, mem_sharedJoins,
    List.mem_flatMap, ← exists_or]
  refine exists_congr fun predicate => ?_
  rw [← and_or_left, Predicate.links, List.mem_append, Option.mem_toList]

end Draft

end Sql

end ForumQuery
