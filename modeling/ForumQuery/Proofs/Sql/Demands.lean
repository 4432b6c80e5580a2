import ForumQuery.Proofs.Sql.Partners

/-!
# Demands — what the rows of a combination tell about a topic

A row of topics meets a condition if the topic does, and no flag is null that a status wants to be
false (`TopicRow.Meets`): a statement does not select what is unknown.  When the joins of a
condition have found their partners, the demands of the condition are met if and only if the row
meets the condition and, where the condition is about an actor, the row of the memberships is the
actor's (`Predicate.meets_demands_iff`).  Conversely a row that meets a condition has partners in
all its joins (`Predicate.exists_partner`).
-/

namespace ForumQuery

open Sql

namespace Sql

/-! ### Rows that meet a condition -/

/-- The flags that a status wants to be false are not null. -/
def TopicRow.Settles (row : TopicRow) : Status → Prop
  | .ongoing => row.closed ≠ none ∧ row.archived ≠ none
  | .unlisted => row.visible ≠ none
  | .closed | .archived | .listed | .unrestricted | .deleted => True

/-- A row of topics meets a condition. -/
structure TopicRow.Meets (database : Database) (row : TopicRow) (predicate : Predicate) :
    Prop where
  holds : predicate.Holds (database.topic row)
  settles : ∀ wanted, predicate = .status wanted → row.Settles wanted

variable {database : Database} {topic : TopicRow} {c : Combination}

theorem meets_iff_holds_of_ne_status {predicate : Predicate}
    (h : ∀ wanted, predicate ≠ .status wanted) :
    topic.Meets database predicate ↔ predicate.Holds (database.topic topic) :=
  ⟨TopicRow.Meets.holds, fun hholds => ⟨hholds, fun wanted hw => absurd hw (h wanted)⟩⟩

theorem meets_status_iff_has {wanted : Status} :
    topic.Meets database (.status wanted) ↔
      (database.topic topic).Has wanted ∧ topic.Settles wanted := by
  constructor
  · rintro ⟨hholds, hsettles⟩
    exact ⟨hholds, hsettles wanted rfl⟩
  · rintro ⟨hhas, hsettles⟩
    exact ⟨hhas, fun other ho => Predicate.status.inj ho ▸ hsettles⟩

/-- Where no flag is null, a row meets what the topic meets. -/
theorem TopicRow.Definite.meets_iff (h : topic.Definite) {predicate : Predicate} :
    topic.Meets database predicate ↔ predicate.Holds (database.topic topic) := by
  refine ⟨Meets.holds, fun hholds => ⟨hholds, fun wanted _ => ?_⟩⟩
  cases wanted with
  | ongoing => exact ⟨h.closed, h.archived⟩
  | unlisted => exact h.visible
  | closed | archived | listed | unrestricted | deleted => trivial

/-! ### The facts of a topic -/

theorem hasSome_topic_iff {tags : RankedSet TagId} :
    (database.topic topic).HasSome tags ↔
      ∃ tagging ∈ database.taggings, tagging.topic = topic.id ∧ tagging.tag ∈ tags := by
  simp [Topic.HasSome, Database.topic, and_assoc]

theorem levelOf_eq_some_iff {n : Int} {level : Level} :
    Database.levelOf n = some level ↔ (level.stored : Int) = n := by
  constructor
  · intro h
    have hstored := List.find?_some h
    exact of_decide_eq_true hstored
  · rintro rfl
    cases level <;> rfl

/-! ### Tags -/

theorem mem_keep_left_iff {found : List Row} {row : Row} :
    row ∈ JoinKind.left.keep found ↔ row ∈ found ∨ found = [] ∧ row = fun _ => none := by
  cases found with
  | nil => simp [JoinKind.keep]
  | cons first rest => simp [JoinKind.keep]

/-- An inner join finds a topic if and only if the topic has one of the label's tags. -/
theorem exists_mem_partners_inner_iff {group : TagJoin} (h : group.label ≠ "topics") :
    (∃ row, row ∈ (taggingJoin .inner group).partners database topic) ↔
      (database.topic topic).HasSome group.tags := by
  rw [partners_taggingJoin h, hasSome_topic_iff]
  simp [JoinKind.keep]

/-- A left join finds a row of nulls if and only if the topic has none of the label's tags. -/
theorem eq_none_iff_of_mem_partners_left {group : TagJoin} (h : group.label ≠ "topics")
    {row : Row} (hrow : row ∈ (taggingJoin .left group).partners database topic) :
    row "topic_id" = none ↔ ¬ (database.topic topic).HasSome group.tags := by
  rw [partners_taggingJoin h, mem_keep_left_iff] at hrow
  rw [hasSome_topic_iff]
  rcases hrow with hrow | ⟨hnil, rfl⟩
  · obtain ⟨tagging, ht, rfl⟩ := List.mem_map.1 hrow
    obtain ⟨ht, hkey⟩ := List.mem_filter.1 ht
    -- a tagging that was found has a topic
    exact iff_of_false nofun fun hnone => hnone ⟨tagging, ht, of_decide_eq_true hkey⟩
  · refine iff_of_true rfl fun ⟨tagging, ht, hkey⟩ => ?_
    rw [List.map_eq_nil_iff, List.filter_eq_nil_iff] at hnil
    exact hnil tagging ht (decide_eq_true hkey)

theorem exists_mem_partners_left (group : TagJoin) :
    ∃ row, row ∈ (taggingJoin .left group).partners database topic := by
  rw [Join.partners]
  cases hf : List.filter _ (database.rows (taggingJoin .left group).table) with
  | nil => exact ⟨_, List.mem_singleton_self _⟩
  | cons first rest => exact ⟨first, List.mem_cons_self⟩

/-- One of the labels finds a row of nulls if and only if the topic has none of its tags. -/
theorem meets_missingSomeTag_iff {groups : List TagJoin}
    (hlabels : ∀ group ∈ groups, group.label ≠ "topics")
    (hrows : ∀ group ∈ groups,
      c.row group.label ∈ (taggingJoin .left group).partners database c.topic) :
    meets database (Predicate.missingSomeTag groups).demands c = true ↔
      (Predicate.missingSomeTag groups).Holds (database.topic c.topic) := by
  have hnull : ∀ group ∈ groups, c.cell ⟨group.label, "topic_id"⟩ = none ↔
      ¬ (database.topic c.topic).HasSome group.tags := fun group hg =>
    eq_none_iff_of_mem_partners_left (hlabels group hg) (hrows group hg)
  simp only [meets, Predicate.demands, Condition.truth, List.any_map, List.all_cons, List.all_nil,
    Bool.and_true, decide_eq_true_eq, Option.some.injEq, List.any_eq_true, Function.comp_apply,
    Option.isNone_iff_eq_none, Predicate.Holds]
  exact exists_congr fun group => and_congr_right fun hg => hnull group hg

theorem Cell.outside_eq_true_iff {value : Value} {cells : List Cell} (h : none ∉ cells) :
    Cell.outside (some value) cells = some true ↔ some value ∉ cells := by
  cases cells with
  | nil => simp [Cell.outside]
  | cons first rest =>
      rw [Cell.outside]
      · by_cases hmem : some value ∈ first :: rest <;> simp [hmem, h]
      · exact nofun

/-- A topic is outside the chosen taggings if and only if it has none of the tags. -/
theorem truth_notSelected_iff {tags : RankedSet TagId} :
    Condition.truth database c (.notSelected (topics "id") (taggings "topic_id")
        (taggings "tag_id") (idParams tags)) = some true ↔
      ¬ (database.topic c.topic).HasSome tags := by
  have hcells : ∀ cell, cell ∈ (((database.rows (taggings "topic_id").table).filter fun row =>
      Cell.among (row (taggings "tag_id").name) ((idParams tags).map Param.value) = some true).map
        fun row => row (taggings "topic_id").name) ↔
      ∃ tagging ∈ database.taggings, tagging.tag ∈ tags ∧ some (.int tagging.topic) = cell := by
    intro cell
    simp [Database.rows, taggings, TaggingRow.cells, Cell.among, exists_mem_idParams, and_assoc]
  rw [Condition.truth, hasSome_topic_iff]
  -- no tagging is without a topic, so the answer is never unknown
  refine (Cell.outside_eq_true_iff (fun hnone => ?_)).trans (not_congr ?_)
  · obtain ⟨_, -, -, he⟩ := (hcells none).1 hnone
    cases he
  · rw [hcells]
    refine exists_congr fun tagging => and_congr_right fun _ => ?_
    rw [Option.some.injEq, Value.int.injEq, and_comm]

/-! ### Dates, categories and statuses -/

theorem meets_activelyPinned_iff {now : Instant} :
    meets database (Predicate.activelyPinned now).demands c = true ↔
      (Predicate.activelyPinned now).Holds (database.topic c.topic) := by
  cases hat : c.topic.pinnedAt <;> cases huntil : c.topic.pinnedUntil <;>
    simp [meets, Predicate.demands, Condition.truth, Operand.cell, Combination.cell,
      Combination.row, topics, TopicRow.cells, Predicate.Holds, Database.topic, Param.value,
      Comparison.holds, Value.before, hat, huntil]

theorem meets_categoryIn_iff {ids : RankedSet CategoryId} :
    meets database (Predicate.categoryIn ids).demands c = true ↔
      (Predicate.categoryIn ids).Holds (database.topic c.topic) := by
  by_cases he : ids.isEmpty = true
  · have hnone := RankedSet.isEmpty_iff.1 he
    simp [meets, Predicate.demands, he, Condition.truth, Predicate.Holds, hnone]
  · cases hc : c.topic.category <;>
      simp [meets, Predicate.demands, he, Condition.truth, Predicate.Holds, Database.topic,
        Combination.cell, Combination.row, topics, TopicRow.cells, hc, Cell.among,
        exists_mem_idParams]

theorem truth_flag_iff {negated : Bool} {column : Column} {value : Option Bool}
    (h : c.cell column = value.map .truth) :
    (Condition.flag negated column).truth database c = some true ↔ value = some !negated := by
  rw [Condition.truth, h]
  cases value with
  | none => simp
  | some value => cases value <;> cases negated <;> decide

theorem getD_eq_true_iff {value : Option Bool} : value.getD false = true ↔ value = some true := by
  cases value <;> simp

theorem getD_eq_false_and_ne_none_iff {value : Option Bool} :
    value.getD false = false ∧ value ≠ none ↔ value = some false := by
  cases value <;> simp

theorem meets_status_iff (hkeyed : database.Keyed) {wanted : Status}
    (hlinks : ∀ join ∈ (Predicate.status wanted).links,
      c.row join.name ∈ join.partners database c.topic) :
    meets database (Predicate.status wanted).demands c = true ↔
      c.topic.Meets database (.status wanted) := by
  have hclosed : c.cell (topics "closed") = c.topic.closed.map .truth := rfl
  have harchived : c.cell (topics "archived") = c.topic.archived.map .truth := rfl
  have hvisible : c.cell (topics "visible") = c.topic.visible.map .truth := rfl
  rw [meets_status_iff_has]
  cases wanted with
  | unrestricted =>
      have hrow := hlinks categoryJoin (by simp [Predicate.links, Predicate.shared?])
      rw [partners_categoryJoin] at hrow
      obtain ⟨category, hc, he⟩ := List.mem_map.1 hrow
      obtain ⟨hc, hid⟩ := List.mem_filter.1 hc
      have hrestricted := restricted_eq_of_mem hkeyed hc (of_decide_eq_true hid)
      have hcell : c.cell (categories "read_restricted") = category.restricted.map .truth :=
        (congrFun he "read_restricted").symm
      simp [meets, Predicate.demands, truth_flag_iff hcell, Topic.Has, TopicRow.Settles,
        hrestricted]
  | ongoing =>
      rw [Topic.Has, TopicRow.Settles, and_and_and_comm]
      simp only [Database.topic, getD_eq_false_and_ne_none_iff]
      simp [meets, Predicate.demands, truth_flag_iff hclosed, truth_flag_iff harchived]
  | closed =>
      simp [meets, Predicate.demands, truth_flag_iff hclosed, Topic.Has, TopicRow.Settles,
        Database.topic, getD_eq_true_iff]
  | archived =>
      simp [meets, Predicate.demands, truth_flag_iff harchived, Topic.Has, TopicRow.Settles,
        Database.topic, getD_eq_true_iff]
  | listed =>
      simp [meets, Predicate.demands, truth_flag_iff hvisible, Topic.Has, TopicRow.Settles,
        Database.topic, getD_eq_true_iff]
  | unlisted =>
      rw [Topic.Has, TopicRow.Settles]
      simp only [Database.topic, getD_eq_false_and_ne_none_iff]
      simp [meets, Predicate.demands, truth_flag_iff hvisible]
  | deleted =>
      simp [meets, Predicate.demands, Condition.truth, Combination.cell, Combination.row, topics,
        TopicRow.cells, Topic.Has, TopicRow.Settles, Database.topic]

/-! ### Memberships -/

/-- The row of the memberships tells whether it is an actor's, and then what the actor's membership
of the topic is. -/
theorem exists_membership (hkeyed : database.Keyed) (actor : ActorId)
    (hrow : c.row memberJoin.name ∈ memberJoin.partners database c.topic) :
    ∃ member : MemberRow, c.row "topic_users" = member.cells ∧
      (member.actor = some actor → database.membership c.topic.id actor =
        some ⟨member.level.bind Database.levelOf, member.bookmarked.getD false⟩) := by
  rw [partners_memberJoin] at hrow
  obtain ⟨member, hm, he⟩ := List.mem_map.1 hrow
  obtain ⟨hm, hid⟩ := List.mem_filter.1 hm
  refine ⟨member, he.symm, fun hactor => ?_⟩
  exact (membership_eq_some_iff hkeyed).2 ⟨member, hm, ⟨of_decide_eq_true hid, hactor⟩, rfl⟩

theorem truth_memberIs_iff {actor : ActorId} :
    (memberIs actor).truth database c = some true ↔
      c.row "topic_users" "user_id" = some (.int actor.toInt) := by
  rw [memberIs, Condition.truth]
  cases hc : c.row "topic_users" "user_id" <;>
    simp [Operand.cell, Combination.cell, members, Param.value, Comparison.holds, hc]

/-- A condition on an actor's membership is met by a row that is the actor's. -/
theorem meets_memberIs_iff {actor : ActorId} {condition : Condition} {p : Prop}
    (h : c.row "topic_users" "user_id" = some (.int actor.toInt) →
      (condition.truth database c = some true ↔ p)) :
    meets database [condition, memberIs actor] c = true ↔
      p ∧ c.row "topic_users" "user_id" = some (.int actor.toInt) := by
  rw [meets, List.all_cons, List.all_cons, List.all_nil, Bool.and_true, Bool.and_eq_true,
    decide_eq_true_eq, decide_eq_true_eq, truth_memberIs_iff]
  exact and_congr_left h

theorem meets_bookmarkedBy_iff (hkeyed : database.Keyed) {actor : ActorId}
    (hrow : c.row memberJoin.name ∈ memberJoin.partners database c.topic) :
    meets database (Predicate.bookmarkedBy actor).demands c = true ↔
      (Predicate.bookmarkedBy actor).Holds (database.topic c.topic) ∧
        c.row "topic_users" "user_id" = some (.int actor.toInt) := by
  obtain ⟨member, hcells, hmember⟩ := exists_membership hkeyed actor hrow
  refine meets_memberIs_iff fun huser => ?_
  rw [hcells, user_eq_iff] at huser
  have hcell : c.cell (members "bookmarked") = member.bookmarked.map .truth := congrFun hcells _
  rw [truth_flag_iff hcell, Bool.not_false, ← getD_eq_true_iff]
  simp [Predicate.Holds, Database.topic, hmember huser]

theorem among_levels_iff {level? : Option Int} {levels : RankedSet Level} :
    Cell.among (level?.map Value.int)
        ((levels.toList.map fun level => Param.int level.stored).map Param.value) = some true ↔
      ∃ level ∈ level?.bind Database.levelOf, level ∈ levels := by
  cases level? with
  | none => simp [Cell.among]
  | some n => simp [Cell.among, levelOf_eq_some_iff, RankedSet.mem_def, Param.value, and_comm]

theorem meets_levelIn_iff (hkeyed : database.Keyed) {actor : ActorId} {levels : RankedSet Level}
    (he : levels.isEmpty = false)
    (hrow : c.row memberJoin.name ∈ memberJoin.partners database c.topic) :
    meets database (Predicate.levelIn actor levels).demands c = true ↔
      (Predicate.levelIn actor levels).Holds (database.topic c.topic) ∧
        c.row "topic_users" "user_id" = some (.int actor.toInt) := by
  obtain ⟨member, hcells, hmember⟩ := exists_membership hkeyed actor hrow
  simp only [Predicate.demands, he]
  refine meets_memberIs_iff fun huser => ?_
  rw [hcells, user_eq_iff] at huser
  have hlevel : c.cell (members "notification_level") = member.level.map .int :=
    congrFun hcells _
  rw [Condition.truth, hlevel, among_levels_iff]
  simp [Predicate.Holds, Database.topic, hmember huser]

/-! ### Rows that are found -/

theorem exists_partner_memberJoin (hkeyed : database.Keyed) {actor : ActorId}
    {membership : Membership} (h : database.membership topic.id actor = some membership) :
    ∃ row ∈ memberJoin.partners database topic, row "user_id" = some (.int actor.toInt) := by
  obtain ⟨member, hm, ⟨hid, hactor⟩, -⟩ := (membership_eq_some_iff hkeyed).1 h
  rw [partners_memberJoin]
  refine ⟨member.cells, List.mem_map_of_mem ?_, user_eq_iff.2 hactor⟩
  exact List.mem_filter.2 ⟨hm, decide_eq_true hid⟩

theorem exists_partner_categoryJoin {value : Bool}
    (h : (database.topic topic).restricted = some value) :
    ∃ row, row ∈ categoryJoin.partners database topic := by
  obtain ⟨category, hc, hid⟩ := exists_category_of_restricted h
  rw [partners_categoryJoin]
  exact ⟨_, List.mem_map_of_mem (List.mem_filter.2 ⟨hc, decide_eq_true hid⟩)⟩

end Sql

/-! ### Conditions -/

namespace Predicate

variable {database : Database} {predicate : Predicate} {actor : ActorId}

/-- The demands of a condition that is no status are met by partners of its joins if and only if the
topic meets the condition and the membership that was found, where there is one, is of its actor. -/
theorem meets_demands_iff_holds (hkeyed : database.Keyed)
    (hstatus : ∀ wanted, predicate ≠ .status wanted)
    (hlabels : ∀ group ∈ predicate.joins, group.label ≠ "topics") {c : Combination}
    (hlinks : ∀ join ∈ predicate.links, c.row join.name ∈ join.partners database c.topic) :
    meets database predicate.demands c = true ↔
      predicate.Holds (database.topic c.topic) ∧ ∀ actor ∈ predicate.actor?,
        c.row "topic_users" "user_id" = some (.int actor.toInt) := by
  have hnobody : ∀ actor ∈ (none : Option ActorId),
      c.row "topic_users" "user_id" = some (.int actor.toInt) :=
    fun actor ha => absurd ha (Option.not_mem_none actor)
  cases predicate with
  | status wanted => exact absurd rfl (hstatus wanted)
  | activelyPinned now => exact meets_activelyPinned_iff.trans (and_iff_left hnobody).symm
  | categoryIn ids => exact meets_categoryIn_iff.trans (and_iff_left hnobody).symm
  | bookmarkedBy actor =>
      rw [meets_bookmarkedBy_iff hkeyed (hlinks memberJoin (by simp [links, shared?]))]
      simp [actor?]
  | levelIn actor levels =>
      cases he : levels.isEmpty with
      | true =>
          have hnone := RankedSet.isEmpty_iff.1 he
          simp [meets, demands, he, Condition.truth, Holds, hnone]
      | false =>
          rw [meets_levelIn_iff hkeyed he (hlinks memberJoin (by simp [links, shared?, he]))]
          simp [actor?]
  | taggedWithAll groups =>
      refine iff_of_true rfl ⟨fun group hg => ?_, hnobody⟩
      exact (exists_mem_partners_inner_iff (hlabels group hg)).1
        ⟨_, hlinks _ (List.mem_map_of_mem hg)⟩
  | taggedWithAny group =>
      refine iff_of_true rfl ⟨?_, hnobody⟩
      exact (exists_mem_partners_inner_iff (hlabels group (List.mem_singleton_self _))).1
        ⟨_, hlinks _ (List.mem_singleton_self _)⟩
  | missingSomeTag groups =>
      refine (meets_missingSomeTag_iff hlabels fun group hg => ?_).trans
        (and_iff_left hnobody).symm
      exact hlinks (taggingJoin .left group) (List.mem_map_of_mem hg)
  | taggedWithNone tags =>
      simp [meets, demands, truth_notSelected_iff, Holds, actor?]

/-- **The demands of a condition** are met by partners of its joins if and only if the row meets
the condition and the membership that was found, where there is one, is of its actor. -/
theorem meets_demands_iff (hkeyed : database.Keyed)
    (hlabels : ∀ group ∈ predicate.joins, group.label ≠ "topics") {c : Combination}
    (hlinks : ∀ join ∈ predicate.links, c.row join.name ∈ join.partners database c.topic) :
    meets database predicate.demands c = true ↔
      c.topic.Meets database predicate ∧ ∀ actor ∈ predicate.actor?,
        c.row "topic_users" "user_id" = some (.int actor.toInt) := by
  by_cases hstatus : ∃ wanted, predicate = .status wanted
  · obtain ⟨wanted, rfl⟩ := hstatus
    rw [meets_status_iff hkeyed hlinks]
    exact (and_iff_left fun actor ha => absurd ha (Option.not_mem_none actor)).symm
  · have hne := not_exists.1 hstatus
    rw [meets_demands_iff_holds hkeyed hne hlabels hlinks, meets_iff_holds_of_ne_status hne]

/-- A condition that some membership of an actor meets joins the memberships. -/
theorem memberJoin_mem_links (hactor : predicate.actor? = some actor) {topic : Topic}
    (h : predicate.Holds topic) : memberJoin ∈ predicate.links := by
  cases predicate with
  | bookmarkedBy _ => exact List.mem_singleton_self _
  | levelIn _ levels =>
      obtain ⟨_, -, level, -, hl⟩ := h
      have he : ¬ levels.isEmpty = true := fun he => RankedSet.isEmpty_iff.1 he level hl
      simp [links, shared?, he]
  | _ => cases hactor

/-- A condition that joins the memberships is about an actor. -/
theorem exists_actor_of_memberJoin_mem_links (h : memberJoin ∈ predicate.links) :
    ∃ actor, predicate.actor? = some actor := by
  cases predicate with
  | bookmarkedBy actor | levelIn actor _ => exact ⟨actor, rfl⟩
  | status wanted =>
      cases wanted with
      | unrestricted => exact absurd (List.mem_singleton.1 h) (by decide)
      | _ => exact absurd h List.not_mem_nil
  | taggedWithAll groups | missingSomeTag groups =>
      obtain ⟨group, -, he⟩ := List.mem_map.1 h
      simp [taggingJoin, memberJoin] at he
  | taggedWithAny group =>
      have he := List.mem_singleton.1 h
      simp [taggingJoin, memberJoin] at he
  | activelyPinned _ | categoryIn _ | taggedWithNone _ => exact absurd h List.not_mem_nil

/-- A condition that joins the memberships demands that they are its actor's. -/
theorem memberIs_mem_demands (hlink : memberJoin ∈ predicate.links)
    (hactor : predicate.actor? = some actor) : memberIs actor ∈ predicate.demands := by
  cases predicate with
  | bookmarkedBy _ =>
      cases hactor
      simp [demands]
  | levelIn _ levels =>
      cases hactor
      by_cases he : levels.isEmpty = true
      · simp [links, shared?, taggings, he] at hlink
      · simp [demands, he]
  | _ => cases hactor

/-- **A topic that meets a condition** has partners in all its joins, in the memberships one of the
condition's actor. -/
theorem exists_partner (hkeyed : database.Keyed)
    (hlabels : ∀ group ∈ predicate.joins, group.label ≠ "topics") {topic : TopicRow}
    (h : predicate.Holds (database.topic topic)) {join : Join} (hjoin : join ∈ predicate.links) :
    ∃ row ∈ join.partners database topic,
      ∀ actor ∈ predicate.actor?, row "user_id" = some (.int actor.toInt) := by
  have hmember : ∀ actor membership, database.membership topic.id actor = some membership →
      ∃ row ∈ memberJoin.partners database topic,
        ∀ other ∈ some actor, row "user_id" = some (.int (RecordId.toInt other)) := by
    intro actor membership hm
    obtain ⟨row, hrow, huser⟩ := exists_partner_memberJoin hkeyed hm
    exact ⟨row, hrow, fun other ho => Option.some.inj ho ▸ huser⟩
  have hnobody : ∀ (row : Row), ∀ actor ∈ (none : Option ActorId),
      row "user_id" = some (.int actor.toInt) :=
    fun _ actor ha => absurd ha (Option.not_mem_none actor)
  cases predicate with
  | status wanted =>
      cases wanted with
      | unrestricted =>
          obtain ⟨row, hrow⟩ := exists_partner_categoryJoin h
          exact ⟨row, List.mem_singleton.1 hjoin ▸ hrow, hnobody row⟩
      | _ => exact absurd hjoin List.not_mem_nil
  | bookmarkedBy actor =>
      obtain ⟨membership, hm, -⟩ := h
      exact List.mem_singleton.1 hjoin ▸ hmember actor membership hm
  | levelIn actor levels =>
      obtain ⟨membership, hm, -⟩ := h
      have heq : join = memberJoin := by
        by_cases he : levels.isEmpty = true <;> simp_all [links, shared?, taggings]
      exact heq ▸ hmember actor membership hm
  | taggedWithAll groups =>
      obtain ⟨group, hg, rfl⟩ := List.mem_map.1 hjoin
      obtain ⟨row, hrow⟩ := (exists_mem_partners_inner_iff (hlabels group hg)).2 (h group hg)
      exact ⟨row, hrow, hnobody row⟩
  | taggedWithAny group =>
      obtain ⟨row, hrow⟩ := (exists_mem_partners_inner_iff
        (hlabels group (List.mem_singleton_self _))).2 h
      exact ⟨row, List.mem_singleton.1 hjoin ▸ hrow, hnobody row⟩
  | missingSomeTag groups =>
      obtain ⟨group, -, rfl⟩ := List.mem_map.1 hjoin
      obtain ⟨row, hrow⟩ := exists_mem_partners_left group
      exact ⟨row, hrow, hnobody row⟩
  | activelyPinned _ | categoryIn _ | taggedWithNone _ => exact absurd hjoin List.not_mem_nil

end Predicate

end ForumQuery
