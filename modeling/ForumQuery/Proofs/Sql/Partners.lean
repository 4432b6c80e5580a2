import ForumQuery.Proofs.Sql.Drafts
import Mathlib.Data.List.Pairwise

/-!
# Partners — the rows that the joins of a draft find

The memberships find a topic's members (`partners_memberJoin`), the categories its category
(`partners_categoryJoin`), and the taggings under a label its taggings with one of the label's tags
(`partners_taggingJoin`); a left join of taggings finds a row of nulls where there is none.  In a
database with keys a member of one actor, a category and a tagging with one tag are found once at
most.
-/

namespace ForumQuery.Sql

variable {database : Database} {topic : TopicRow}

/-! ### What is found -/

/-- The partners of a join, by the records of its table. -/
theorem Join.partners_eq (join : Join) {α : Type} {cells : α → Row} {records : List α}
    (hrows : database.rows join.table = records.map cells) {p : α → Bool}
    (hp : ∀ a, meets database join.conditions ⟨topic, [(join.name, cells a)]⟩ = p a) :
    join.partners database topic = join.kind.keep ((records.filter p).map cells) := by
  rw [partners, hrows, List.filter_map]
  exact congrArg (fun found => join.kind.keep (found.map cells))
    (List.filter_congr fun a _ => hp a)

theorem partners_memberJoin :
    memberJoin.partners database topic =
      (database.members.filter fun member => member.topic = some topic.id).map MemberRow.cells := by
  refine memberJoin.partners_eq rfl fun member => ?_
  cases hm : member.topic <;>
    simp [meets, memberJoin, matching, Condition.truth, Operand.cell, Combination.cell,
      Combination.row, members, topics, MemberRow.cells, TopicRow.cells, Join.name, hm,
      Comparison.holds]

theorem partners_categoryJoin :
    categoryJoin.partners database topic =
      (database.categories.filter fun category => topic.category = some category.id).map
        CategoryRow.cells := by
  refine categoryJoin.partners_eq rfl fun category => ?_
  cases ht : topic.category <;>
    simp [meets, categoryJoin, matching, Condition.truth, Operand.cell, Combination.cell,
      Combination.row, categories, topics, CategoryRow.cells, TopicRow.cells, Join.name, ht,
      Comparison.holds]
  exact ⟨fun h => RecordId.toInt_injective h.symm, fun h => h ▸ rfl⟩

/-- An identifier is bound if and only if it is in the set. -/
theorem exists_mem_idParams {kind : RecordKind} {ids : RankedSet (RecordId kind)}
    {id : RecordId kind} : (∃ param ∈ idParams ids, param.value = .int id.toInt) ↔ id ∈ ids := by
  constructor
  · rintro ⟨_, hp, he⟩
    obtain ⟨other, ho, rfl⟩ := List.mem_map.1 hp
    exact RecordId.toInt_injective (Value.int.inj he) ▸ ho
  · exact fun h => ⟨_, List.mem_map_of_mem h, rfl⟩

theorem partners_taggingJoin {group : TagJoin} (hlabel : group.label ≠ "topics")
    (kind : JoinKind) :
    (taggingJoin kind group).partners database topic =
      kind.keep ((database.taggings.filter fun tagging =>
        tagging.topic = topic.id ∧ tagging.tag ∈ group.tags).map TaggingRow.cells) := by
  refine (taggingJoin kind group).partners_eq rfl fun tagging => ?_
  simp [meets, taggingJoin, matching, Condition.truth, Operand.cell, Combination.cell,
    Combination.row, topics, TaggingRow.cells, TopicRow.cells, Join.name, hlabel,
    Comparison.holds, Cell.among, exists_mem_idParams]

theorem user_eq_iff {member : MemberRow} {actor : ActorId} :
    member.cells "user_id" = some (.int actor.toInt) ↔ member.actor = some actor := by
  cases hm : member.actor with
  | none => simp [MemberRow.cells, hm]
  | some other =>
      simp only [MemberRow.cells, hm, Option.map_some, Option.some.injEq, Value.int.injEq]
      exact ⟨RecordId.toInt_injective, congrArg _⟩

/-! ### At most once -/

/-- Records that agree in a key are one record. -/
theorem length_filter_le_one {α β : Type} {l : List α} {key : α → β} {p : α → Bool}
    (hnodup : (l.map key).Nodup) (h : ∀ a b, p a = true → p b = true → key a = key b) :
    (l.filter p).length ≤ 1 := by
  have hpair := (List.pairwise_map.1 hnodup).sublist (List.filter_sublist (p := p))
  have hp : ∀ a ∈ l.filter p, p a = true := fun a ha => (List.mem_filter.1 ha).2
  match l.filter p, hpair, hp with
  | [], _, _ => exact Nat.zero_le 1
  | [_], _, _ => exact Nat.le_refl 1
  | a :: b :: rest, hpair, hp =>
      have hne := List.rel_of_pairwise_cons hpair (List.mem_cons_self : b ∈ b :: rest)
      exact absurd (h a b (hp a (by simp)) (hp b (by simp))) hne

theorem pairwise_of_length_le_one {α : Type} {l : List α} (h : l.length ≤ 1) {R : α → α → Prop} :
    l.Pairwise R := by
  match l, h with
  | [], _ => exact .nil
  | [a], _ => exact List.pairwise_singleton R a

theorem JoinKind.length_keep (kind : JoinKind) {found : List Row} (h : found.length ≤ 1) :
    (kind.keep found).length ≤ 1 := by
  match kind, found with
  | .left, [] => exact Nat.le_refl 1
  | .left, _ :: _ => exact h
  | .inner, _ => exact h

theorem eq_of_size_le_one {α : Type} [Ranked α] {s : RankedSet α} (h : s.size ≤ 1) {a b : α}
    (ha : a ∈ s) (hb : b ∈ s) : a = b := by
  match hl : s.toList with
  | [] => exact absurd (hl ▸ ha : a ∈ []) List.not_mem_nil
  | [c] => rw [List.mem_singleton.1 (hl ▸ ha : a ∈ [c]), List.mem_singleton.1 (hl ▸ hb : b ∈ [c])]
  | _ :: _ :: _ => simp [RankedSet.size, hl] at h

variable (hkeyed : database.Keyed)
include hkeyed

/-- Two rows of one member's memberships of a topic are one. -/
theorem pairwise_partners_memberJoin (actor : ActorId) :
    (memberJoin.partners database topic).Pairwise fun a b =>
      ¬ (a "user_id" = some (.int actor.toInt) ∧ b "user_id" = some (.int actor.toInt)) := by
  rw [partners_memberJoin, List.pairwise_map]
  refine (hkeyed.members.sublist List.filter_sublist).imp_of_mem fun ha hb hab hboth => ?_
  have htopic := of_decide_eq_true (List.mem_filter.1 ha).2
  have htopic' := of_decide_eq_true (List.mem_filter.1 hb).2
  exact hab topic.id actor htopic (user_eq_iff.1 hboth.1) ⟨htopic', user_eq_iff.1 hboth.2⟩

theorem length_partners_categoryJoin : (categoryJoin.partners database topic).length ≤ 1 := by
  rw [partners_categoryJoin, List.length_map]
  refine length_filter_le_one hkeyed.categories fun a b ha hb => ?_
  exact Option.some.inj ((of_decide_eq_true ha).symm.trans (of_decide_eq_true hb))

theorem length_partners_taggingJoin {group : TagJoin} (hlabel : group.label ≠ "topics")
    (kind : JoinKind) (hsize : group.tags.size ≤ 1) :
    ((taggingJoin kind group).partners database topic).length ≤ 1 := by
  rw [partners_taggingJoin hlabel]
  refine kind.length_keep ?_
  rw [List.length_map]
  refine length_filter_le_one hkeyed.taggings fun a b ha hb => ?_
  obtain ⟨ha, ha'⟩ := of_decide_eq_true ha
  obtain ⟨hb, hb'⟩ := of_decide_eq_true hb
  rw [Prod.mk.injEq]
  exact ⟨ha.trans hb.symm, eq_of_size_le_one hsize ha' hb'⟩

/-! ### What is looked up by a key -/

/-- An actor's membership of a topic is the row that names both. -/
theorem membership_eq_some_iff {id : Int} {actor : ActorId} {membership : Membership} :
    database.membership id actor = some membership ↔
      ∃ member ∈ database.members, (member.topic = some id ∧ member.actor = some actor) ∧
        ⟨member.level.bind Database.levelOf, member.bookmarked.getD false⟩ = membership := by
  have hunique : ∀ a ∈ database.members, ∀ b ∈ database.members,
      decide (a.topic = some id ∧ a.actor = some actor) = true →
        decide (b.topic = some id ∧ b.actor = some actor) = true → a = b := by
    intro a ha b hb hka hkb
    rw [decide_eq_true_eq] at hka hkb
    by_contra hne
    -- the key speaks of the earlier of two rows, and it does not matter which one that is
    have : Std.Symm fun a b : MemberRow => ∀ topic actor, a.topic = some topic →
        a.actor = some actor → ¬ (b.topic = some topic ∧ b.actor = some actor) :=
      ⟨fun a b hab topic actor ht hc hb => hab topic actor hb.1 hb.2 ⟨ht, hc⟩⟩
    exact hkeyed.members.forall ha hb hne id actor hka.1 hka.2 hkb
  simp only [Database.membership, Option.map_eq_some_iff, find?_eq_some_iff_of_unique hunique,
    decide_eq_true_eq, and_assoc]

/-- Reading is restricted in a topic's category as the row of the category says. -/
theorem restricted_eq_of_mem {category : CategoryRow} (hc : category ∈ database.categories)
    (hid : topic.category = some category.id) :
    (database.topic topic).restricted = category.restricted := by
  have hunique : ∀ a ∈ database.categories, ∀ b ∈ database.categories,
      decide (a.id = category.id) = true → decide (b.id = category.id) = true → a = b := by
    intro a ha b hb hka hkb
    exact List.inj_on_of_nodup_map hkeyed.categories ha hb
      ((of_decide_eq_true hka).trans (of_decide_eq_true hkb).symm)
  have hfind := (find?_eq_some_iff_of_unique hunique).2 ⟨hc, decide_eq_true rfl⟩
  simp only [Database.topic, hid, Option.bind_some, hfind]

omit hkeyed in
/-- A topic of which that is known has a category. -/
theorem exists_category_of_restricted {value : Bool}
    (h : (database.topic topic).restricted = some value) :
    ∃ category ∈ database.categories, topic.category = some category.id := by
  obtain ⟨id, hid, hfound⟩ := Option.bind_eq_some_iff.1 h
  obtain ⟨category, hfind, -⟩ := Option.bind_eq_some_iff.1 hfound
  have hcategory := List.find?_some hfind
  exact ⟨category, List.mem_of_find?_eq_some hfind, hid.trans
    (congrArg some (of_decide_eq_true hcategory).symm)⟩

end ForumQuery.Sql
