import ForumQuery.Directory
import ForumQuery.Directory.Permissions
import ForumQuery.Proofs.Sql.Demands
import ForumQuery.Proofs.Sql.Parameters

/-!
# Lowering — what the statement of a chain selects

`Draft.mem_run_chain_iff` says exactly which topics the statement of a labelled chain selects: those
that meet every condition and are not deleted, unless the chain asks for deleted ones; but the
conditions on memberships share one join, so where they name different actors nothing is selected
(`OneActor`).  `Draft.nodup_run_chain` says that no topic is selected twice.

The chain that a query compiles to is labelled (`labelled_predicates`) and about one actor
(`oneActor_predicates`), so its statement selects what passes the query, where no flag is null
(`run_compile`).
-/

namespace ForumQuery

open Sql

/-- Conditions all of which that are about an actor are about the same. -/
def OneActor (predicates : List Predicate) : Prop :=
  ∀ p ∈ predicates, ∀ q ∈ predicates, ∀ a ∈ p.actor?, ∀ b ∈ q.actor?, a = b

namespace Sql.Draft

variable {database : Database} {predicates : List Predicate}

/-! ### The selection -/

theorem meets_select_chain {c : Combination} :
    meets database (ofFilter (.chain predicates)).select.conditions c = true ↔
      (c.topic.deletedAt = none ∨ .status .deleted ∈ predicates) ∧
        ∀ predicate ∈ predicates, meets database predicate.demands c = true := by
  rw [select_chain, meets, List.all_append, Bool.and_eq_true, List.all_flatMap]
  refine and_congr ?_ List.all_eq_true
  by_cases h : .status .deleted ∈ predicates
  · simp [h]
  · simp [h, Condition.truth, Combination.cell, Combination.row, topics, TopicRow.cells]

/-- The statement of the filter that nothing passes selects nothing. -/
theorem run_nothing (database : Database) : (ofFilter .nothing).select.run database = [] := by
  have hselect : (ofFilter .nothing).select = ⟨false, [], [.never]⟩ := rfl
  simp [hselect, Select.run, meets, Condition.truth]

/-! ### The topics -/

section

variable (hkeyed : database.Keyed) (h : Labelled predicates)
include hkeyed h

/-- The demands of one condition of a chain, when every join has found its partner. -/
theorem meets_demands_ofRows_iff {row : TopicRow} {rows : String → Row}
    (hrows : ∀ join ∈ joinsOf predicates, rows join.name ∈ join.partners database row)
    {predicate : Predicate} (hp : predicate ∈ predicates) :
    meets database predicate.demands (.ofRows row (joinsOf predicates) rows) = true ↔
      row.Meets database predicate ∧ ∀ actor ∈ predicate.actor?,
        rows "topic_users" "user_id" = some (.int actor.toInt) := by
  have hrow : ∀ join ∈ predicate.links,
      (Combination.ofRows row (joinsOf predicates) rows).row join.name = rows join.name := by
    intro join hj
    have hj := mem_joinsOf_iff.2 ⟨predicate, hp, hj⟩
    exact Combination.row_ofRows ((apart_joinsOf h).alone join hj).name_ne hj
  refine (Predicate.meets_demands_iff hkeyed (label_ne_topics h hp) fun join hj => ?_).trans ?_
  · rw [hrow join hj]
    exact hrows join (mem_joinsOf_iff.2 ⟨predicate, hp, hj⟩)
  · refine and_congr_right fun hmeets => forall₂_congr fun actor ha => ?_
    have hmember : (Combination.ofRows row (joinsOf predicates) rows).row "topic_users" =
        rows "topic_users" := hrow memberJoin (Predicate.memberJoin_mem_links ha hmeets.holds)
    rw [hmember]

/-- A row that meets conditions about one actor has partners in all their joins, and one row of the
memberships serves all the conditions. -/
theorem exists_rows_of_meets {row : TopicRow}
    (hall : ∀ predicate ∈ predicates, row.Meets database predicate)
    (hone : OneActor predicates) :
    ∃ rows : String → Row,
      (∀ join ∈ joinsOf predicates, rows join.name ∈ join.partners database row) ∧
        ∀ predicate ∈ predicates, ∀ actor ∈ predicate.actor?,
          rows "topic_users" "user_id" = some (.int actor.toInt) := by
  have hpartner : ∀ join ∈ joinsOf predicates, ∃ partner,
      partner ∈ join.partners database row ∧ (join = memberJoin → ∀ predicate ∈ predicates,
        ∀ actor ∈ predicate.actor?, partner "user_id" = some (.int (RecordId.toInt actor))) := by
    intro join hj
    obtain ⟨predicate, hp, hlink⟩ := mem_joinsOf_iff.1 hj
    obtain ⟨partner, hpartner, huser⟩ := Predicate.exists_partner hkeyed (label_ne_topics h hp)
      (hall predicate hp).holds hlink
    refine ⟨partner, hpartner, ?_⟩
    -- the membership that this condition finds is the one that all the others ask for
    rintro rfl other ho actor ha
    obtain ⟨asked, hasked⟩ := Predicate.exists_actor_of_memberJoin_mem_links hlink
    rw [hone other ho predicate hp actor ha asked hasked]
    exact huser asked hasked
  obtain ⟨rows, hrows⟩ := exists_rows (apart_joinsOf h).nodup hpartner
  refine ⟨rows, fun join hj => (hrows join hj).1, fun predicate hp actor ha => ?_⟩
  have hmember := mem_joinsOf_iff.2
    ⟨predicate, hp, Predicate.memberJoin_mem_links ha (hall predicate hp).holds⟩
  exact (hrows memberJoin hmember).2 rfl predicate hp actor ha

/-- **What the statement of a chain selects.** -/
theorem mem_run_chain_iff {row : TopicRow} :
    row ∈ (ofFilter (.chain predicates)).select.run database ↔
      row ∈ database.topics ∧ (row.deletedAt = none ∨ .status .deleted ∈ predicates) ∧
        (∀ predicate ∈ predicates, row.Meets database predicate) ∧ OneActor predicates := by
  have hjoins := joins_select_chain predicates
  rw [Select.mem_run_iff (hjoins ▸ apart_joinsOf h), hjoins]
  refine and_congr_right fun _ => ⟨?_, ?_⟩
  · rintro ⟨rows, hrows, hmeets⟩
    obtain ⟨hdeleted, hall⟩ := meets_select_chain.1 hmeets
    have hboth := fun predicate hp =>
      (meets_demands_ofRows_iff hkeyed h hrows hp).1 (hall predicate hp)
    refine ⟨hdeleted, fun predicate hp => (hboth predicate hp).1, fun p hp q hq a ha b hb => ?_⟩
    have huser := ((hboth p hp).2 a ha).symm.trans ((hboth q hq).2 b hb)
    exact RecordId.toInt_injective (Value.int.inj (Option.some.inj huser))
  · rintro ⟨hdeleted, hall, hone⟩
    obtain ⟨rows, hrows, huser⟩ := exists_rows_of_meets hkeyed h hall hone
    refine ⟨rows, hrows, meets_select_chain.2 ⟨hdeleted, fun predicate hp => ?_⟩⟩
    exact (meets_demands_ofRows_iff hkeyed h hrows hp).2 ⟨hall predicate hp, huser predicate hp⟩

/-! ### Once at most -/

/-- A row that the conditions on memberships all allow. -/
def Fit (predicates : List Predicate) (name : String) (row : Row) : Prop :=
  name = memberJoin.name → ∀ predicate ∈ predicates, memberJoin ∈ predicate.links →
    ∀ actor ∈ predicate.actor?, row "user_id" = some (.int (RecordId.toInt actor))

omit h in
/-- Where no condition repeats topics, a topic has at most one partner that is fit. -/
theorem pairwise_partners (hrepeats : predicates.any Predicate.repeats = false)
    (hlabels : Labelled predicates) {topic : TopicRow} {join : Join}
    (hj : join ∈ joinsOf predicates) :
    (join.partners database topic).Pairwise fun a b =>
      ¬ (Fit predicates join.name a ∧ Fit predicates join.name b) := by
  obtain ⟨predicate, hp, hlink⟩ := mem_joinsOf_iff.1 hj
  rcases List.mem_append.1 hlink with hshared | htaggings
  · rcases Predicate.eq_of_shared? (Option.mem_toList.1 hshared) with rfl | rfl
    · obtain ⟨actor, ha⟩ := Predicate.exists_actor_of_memberJoin_mem_links hlink
      refine (pairwise_partners_memberJoin hkeyed actor).imp fun hne hfit => hne ?_
      exact ⟨hfit.1 rfl predicate hp hlink actor ha, hfit.2 rfl predicate hp hlink actor ha⟩
    · exact pairwise_of_length_le_one (length_partners_categoryJoin hkeyed)
  · obtain ⟨kind, group, hg, rfl⟩ := Predicate.exists_of_mem_taggings htaggings
    refine pairwise_of_length_le_one (length_partners_taggingJoin hkeyed
      (label_ne_topics hlabels hp group hg) kind ?_)
    exact Predicate.size_le_one (List.any_eq_false.1 hrepeats predicate hp) hg

/-- **The statement of a chain selects no topic twice.** -/
theorem nodup_run_chain :
    (((ofFilter (.chain predicates)).select.run database).map TopicRow.id).Nodup := by
  have hjoins := joins_select_chain predicates
  refine Select.nodup_run hkeyed.topics (hjoins ▸ apart_joinsOf h) ?_
  -- where some condition may repeat a topic, the selection is distinct
  cases hrepeats : predicates.any Predicate.repeats with
  | true => exact .inl (by rw [select_chain, hrepeats])
  | false =>
      refine .inr ⟨Fit predicates, fun topic join hj => ?_, fun topic rows hmeets join hj => ?_⟩
      · exact pairwise_partners hkeyed hrepeats h (hjoins ▸ hj)
      · intro hname predicate hp hlink actor ha
        rw [hjoins] at hmeets hj
        have hdemands := (meets_select_chain.1 hmeets).2 predicate hp
        have huser := truth_memberIs_iff.1 (of_decide_eq_true
          (List.all_eq_true.1 hdemands _ (Predicate.memberIs_mem_demands hlink ha)))
        have hrow : (Combination.ofRows topic _ rows).row join.name = rows join.name :=
          Combination.row_ofRows ((apart_joinsOf h).alone join hj).name_ne hj
        rw [← hrow, hname]
        exact huser

end

end Sql.Draft

/-! ### Compiled queries -/

section

open Contribution

variable {context : Context} {contributions : List Contribution}

theorem labelled_predicates (h : ∀ contribution ∈ contributions, contribution.Allowed context) :
    Labelled (predicates contributions) := by
  refine ⟨?_, fun label hlabel => ?_⟩
  · rw [labels_predicates h, List.range_eq_range']
    exact Builder.nodup_map_label 0 _
  · rw [labels_predicates h] at hlabel
    obtain ⟨n, -, rfl⟩ := List.mem_map.1 hlabel
    exact Builder.label_notMem_tables n

theorem oneActor_predicates (h : ∀ contribution ∈ contributions, contribution.Allowed context) :
    OneActor (predicates contributions) := by
  intro p hp q hq a ha b hb
  exact Option.some.inj ((actor_of_mem_predicates h hp ha).symm.trans
    (actor_of_mem_predicates h hq hb))

end

/-- **The statement of a compiled query selects the topics that pass it**, each once, but for
deleted topics that the query does not ask for, where no flag of a topic is null; and it binds its
values from left to right. -/
theorem run_compile (context : Context) (query : String) {database : Database}
    (hkeyed : database.Keyed) (hdefinite : ∀ row ∈ database.topics, row.Definite) :
    let filter := (context.compile query).value
    let select := (Draft.ofFilter filter).select
    (Draft.ofFilter filter).statement = ⟨select.render.text, select.params⟩ ∧
      ((select.run database).map TopicRow.id).Nodup ∧
      (∀ row, row ∈ select.run database ↔ row ∈ database.topics ∧
        filter.Passes (database.topic row) ∧
          (row.deletedAt = none ∨ .status .deleted ∈ filter.predicates)) ∧
      (filter = .nothing → select.run database = []) := by
  intro filter select
  have hstatement : (Draft.ofFilter filter).statement = ⟨select.render.text, select.params⟩ := by
    rw [← Select.params_render]
    rfl
  refine ⟨hstatement, ?_⟩
  by_cases hc : .collapse ∈ context.yields query
  · have hnothing : filter = .nothing := Context.value_compile_eq_nothing_iff.2 hc
    simp [select, hnothing, Draft.run_nothing, Filter.Passes]
  · have hallowed := context.allowed_yields query
    have hlabelled := labelled_predicates hallowed
    have hchain : filter = .chain (Contribution.predicates (context.yields query)) :=
      Context.value_compile hc
    simp only [select, hchain, Filter.Passes, Filter.predicates, Filter.chain?, Option.getD_some]
    refine ⟨Draft.nodup_run_chain hkeyed hlabelled, fun row => ?_, nofun⟩
    rw [Draft.mem_run_chain_iff hkeyed hlabelled, and_iff_left (oneActor_predicates hallowed)]
    refine and_congr_right fun hrow => and_comm.trans (and_congr_left fun _ => ?_)
    exact forall₂_congr fun predicate _ => (hdefinite row hrow).meets_iff

/-- Of two tagged topics the one that is bookmarked. -/
theorem run_compile_bookmarked :
    let context : Context := ⟨({ actor := some ⟨42⟩ } : Permissions).guardian,
      ((∅ : Directory).addTag "a" ⟨1⟩ none none).resolver, true, ⟨0, 0, by decide, by decide⟩⟩
    let bookmarked : TopicRow :=
      ⟨1, some false, some false, some true, none, none, none, none⟩
    let other : TopicRow := ⟨2, some false, some false, some true, none, none, none, none⟩
    let database : Database := ⟨[bookmarked, other],
      [⟨some 1, some ⟨42⟩, some 2, some true⟩, ⟨some 2, some ⟨42⟩, none, none⟩],
      [⟨1, ⟨1⟩⟩, ⟨2, ⟨1⟩⟩], []⟩
    let select := (Draft.ofFilter (context.compile "tags:a in:bookmarked").value).select
    (database.Keyed ∧ ∀ row ∈ database.topics, row.Definite) ∧
      bookmarked ∈ select.run database ∧ other ∉ select.run database := by
  intro context bookmarked other database select
  have hmembers : database.members.Pairwise fun a b =>
      ∀ topic actor, a.topic = some topic → a.actor = some actor →
        ¬ (b.topic = some topic ∧ b.actor = some actor) := by
    refine List.pairwise_pair.2 fun topic actor hfirst _ hsecond => ?_
    exact absurd (hfirst.trans hsecond.1.symm) (by decide)
  have hkeyed : database.Keyed := ⟨by decide, hmembers, by decide, .nil⟩
  have hdefinite : ∀ row ∈ database.topics, row.Definite :=
    List.forall_mem_cons.2 ⟨⟨nofun, nofun, nofun⟩,
      List.forall_mem_singleton.2 ⟨nofun, nofun, nofun⟩⟩
  obtain ⟨-, -, hmem, -⟩ := run_compile context "tags:a in:bookmarked" hkeyed hdefinite
  refine ⟨⟨hkeyed, hdefinite⟩, (hmem bookmarked).2 ?_, fun h => absurd ((hmem other).1 h) ?_⟩
  · decide +kernel
  · decide +kernel

/-! ### The words of a statement -/

/-- Deleted topics are left out unless a filter asks for them. -/
example :
    (Draft.ofFilter .everything).statement =
        ⟨"SELECT topics.* FROM topics WHERE topics.deleted_at IS NULL", []⟩ ∧
      (Draft.ofFilter .nothing).statement =
        ⟨"SELECT topics.* FROM topics WHERE FALSE", []⟩ ∧
      (Draft.ofFilter (.chain [.status .deleted])).statement =
        ⟨"SELECT topics.* FROM topics WHERE topics.deleted_at IS NOT NULL", []⟩ := by
  decide +kernel

/-- A query with tags, a status and a category. -/
example :
    let tagged := ((∅ : Directory).addTag "a" ⟨1⟩ none none).addTag "b" ⟨2⟩ none none
    let directory := tagged.addCategory ⟨⟨10⟩, "news", none⟩
    let context : Context := ⟨({ actor := some ⟨42⟩ } : Permissions).guardian, directory.resolver,
      true, ⟨0, 0, by decide, by decide⟩⟩
    (Draft.ofFilter (context.compile "tags:a+b status:closed =category:news").value).statement =
      ⟨"SELECT topics.* FROM topics " ++
        "INNER JOIN topic_tags tags_0 ON tags_0.topic_id = topics.id AND tags_0.tag_id IN (?) " ++
        "INNER JOIN topic_tags tags_1 ON tags_1.topic_id = topics.id AND tags_1.tag_id IN (?) " ++
        "WHERE topics.deleted_at IS NULL AND topics.closed AND topics.category_id IN (?)",
        [.int 1, .int 2, .int 10]⟩ := by
  decide +kernel

/-- Two conditions on memberships share a join. -/
example :
    (Draft.ofFilter (.chain [.bookmarkedBy ⟨7⟩,
      .levelIn ⟨7⟩ (.ofList [.tracking, .watching])])).statement =
      ⟨"SELECT topics.* FROM topics " ++
        "INNER JOIN topic_users ON topic_users.topic_id = topics.id " ++
        "WHERE topics.deleted_at IS NULL " ++
        "AND topic_users.bookmarked AND topic_users.user_id = ? " ++
        "AND topic_users.notification_level IN (?, ?) AND topic_users.user_id = ?",
        [.int 7, .int 2, .int 3, .int 7]⟩ := by
  decide +kernel

/-- Tags that are excluded. -/
example :
    (Draft.ofFilter (.chain [
      .missingSomeTag [⟨"tags_0", .ofList [⟨1⟩]⟩, ⟨"tags_1", .ofList [⟨2⟩]⟩],
      .taggedWithNone (.ofList [⟨5⟩])])).statement =
      ⟨"SELECT topics.* FROM topics " ++
        "LEFT JOIN topic_tags tags_0 ON tags_0.topic_id = topics.id AND tags_0.tag_id IN (?) " ++
        "LEFT JOIN topic_tags tags_1 ON tags_1.topic_id = topics.id AND tags_1.tag_id IN (?) " ++
        "WHERE topics.deleted_at IS NULL " ++
        "AND (tags_0.topic_id IS NULL OR tags_1.topic_id IS NULL) " ++
        "AND topics.id NOT IN (SELECT topic_tags.topic_id FROM topic_tags " ++
        "WHERE topic_tags.tag_id IN (?))",
        [.int 1, .int 2, .int 5]⟩ := by
  decide +kernel

/-- Any of two tags, pinned, and where everyone may read. -/
example :
    let now : Instant := ⟨0, 0, by decide, by decide⟩
    (Draft.ofFilter (.chain [.taggedWithAny ⟨"tags_0", .ofList [⟨1⟩, ⟨2⟩]⟩, .activelyPinned now,
      .status .unrestricted])).statement =
      ⟨"SELECT DISTINCT topics.* FROM topics " ++
        "INNER JOIN topic_tags tags_0 ON tags_0.topic_id = topics.id " ++
        "AND tags_0.tag_id IN (?, ?) " ++
        "INNER JOIN categories ON categories.id = topics.category_id " ++
        "WHERE topics.deleted_at IS NULL " ++
        "AND topics.pinned_at IS NOT NULL AND topics.pinned_until > topics.pinned_at " ++
        "AND ? < topics.pinned_until AND NOT categories.read_restricted",
        [.int 1, .int 2, .timestamp now]⟩ := by
  decide +kernel

end ForumQuery
