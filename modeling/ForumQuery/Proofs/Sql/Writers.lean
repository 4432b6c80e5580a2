import ForumQuery.Proofs.Sql.Moves
import ForumQuery.Proofs.Sql.Shapes
import ForumQuery.Sql.Writer

/-!
# Writers — the statement that is written as the conditions come

A writer and a draft that are asked the same have the same statement and the same flags
(`Writer.statement_eq`).  The texts of a writer are those of the fragments of a chain, and its
values those that they bind (`Writer.after_eq`): what one condition adds to the texts is the text of
its joins and of its clause (`Writer.apply_eq`).

Where a draft compares joins a writer compares texts.  These are the same comparisons, because the
join of a shared table reads like no other join (`eq_of_text_eq`).
-/

namespace ForumQuery

open Sql Fragment

namespace Sql

/-! ### The texts of joins -/

/-- The word for a kind of join. -/
def JoinKind.word : JoinKind → String
  | inner => "INNER"
  | left => "LEFT"

theorem text_memberJoin : memberJoin.render.text = Writer.memberText := by decide +kernel

theorem text_categoryJoin : categoryJoin.render.text = Writer.categoryText := by decide +kernel

theorem text_taggingJoin (kind : JoinKind) (group : TagJoin) :
    (taggingJoin kind group).render.text =
      kind.word ++ " JOIN topic_tags " ++ group.label ++ " ON " ++ group.label ++
        ".topic_id = topics.id AND " ++ group.label ++ ".tag_id IN (" ++
        Writer.placeholders group.tags.size ++ ")" := by
  apply String.toList_inj.1
  cases kind <;>
    simp [taggingJoin, Join.render, JoinKind.text, JoinKind.word, renderAll, separated, concat,
      matching, Condition.render, Operand.render, Column.text, topics, Comparison.sign, plain,
      text_renderParams, length_idParams, Writer.placeholders]

/-- A join of the tag table reads like no join of a shared table. -/
theorem text_taggingJoin_ne (kind : JoinKind) (group : TagJoin) :
    (taggingJoin kind group).render.text ≠ Writer.memberText ∧
      (taggingJoin kind group).render.text ≠ Writer.categoryText := by
  rw [text_taggingJoin]
  constructor <;>
  · intro h
    have hletters := congrArg (fun text => text.toList.take 18) h
    cases kind <;> simp [JoinKind.word, Writer.memberText, Writer.categoryText] at hletters

/-- **The join of a shared table reads like no other join** of a chain. -/
theorem eq_of_text_eq {predicate other : Predicate} {shared join : Join}
    (hshared : predicate.shared? = some shared) (hjoin : join ∈ other.links)
    (h : join.render.text = shared.render.text) : join = shared := by
  have htexts : Writer.memberText ≠ Writer.categoryText := by decide +kernel
  rcases List.mem_append.1 hjoin with hjoin | hjoin
  · rcases Predicate.eq_of_shared? (Option.mem_toList.1 hjoin) with rfl | rfl <;>
      rcases Predicate.eq_of_shared? hshared with rfl | rfl
    · rfl
    · exact absurd (text_memberJoin.symm.trans (h.trans text_categoryJoin)) htexts
    · exact absurd (text_memberJoin.symm.trans (h.symm.trans text_categoryJoin)) htexts
    · rfl
  · obtain ⟨kind, group, -, rfl⟩ := Predicate.exists_of_mem_taggings hjoin
    rcases Predicate.eq_of_shared? hshared with rfl | rfl
    · exact absurd (h.trans text_memberJoin) (text_taggingJoin_ne kind group).1
    · exact absurd (h.trans text_categoryJoin) (text_taggingJoin_ne kind group).2

end Sql

/-! ### The texts of conditions -/

namespace Predicate

/-- The text of the clause of a condition that demands something. -/
theorem texts_clause? {predicate : Predicate} {text : String} (hne : predicate.demands ≠ [])
    (h : (renderAll predicate.demands).text = text) :
    predicate.clause?.toList.map Fragment.text = [text] := by
  rw [clause?, together?, if_neg hne, Option.toList_some, List.map_singleton, h]

theorem texts_clause?_activelyPinned (now : Instant) :
    (activelyPinned now).clause?.toList.map Fragment.text =
      ["topics.pinned_at IS NOT NULL AND topics.pinned_until > topics.pinned_at " ++
        "AND ? < topics.pinned_until"] :=
  texts_clause? (List.cons_ne_nil _ _) (by
    simp [text_renderAll, demands, Condition.render, Operand.render, Column.text, topics,
      Comparison.sign, plain, placeholder])

theorem texts_clause?_bookmarkedBy (actor : ActorId) :
    (bookmarkedBy actor).clause?.toList.map Fragment.text =
      ["topic_users.bookmarked AND topic_users.user_id = ?"] :=
  texts_clause? (List.cons_ne_nil _ _) (by
    simp [text_renderAll, demands, Condition.render, Operand.render, Column.text, members, memberIs,
      Comparison.sign, plain, placeholder])

theorem texts_clause?_levelIn_empty (actor : ActorId) {levels : RankedSet Level}
    (h : levels.isEmpty = true) :
    (levelIn actor levels).clause?.toList.map Fragment.text = ["FALSE"] := by
  simp [clause?, together?, demands, h, text_renderAll, Condition.render, plain]

theorem texts_clause?_levelIn (actor : ActorId) {levels : RankedSet Level}
    (h : ¬ levels.isEmpty = true) :
    (levelIn actor levels).clause?.toList.map Fragment.text =
      ["topic_users.notification_level IN (" ++ Writer.placeholders levels.size ++
        ") AND topic_users.user_id = ?"] := by
  have hdemands : (levelIn actor levels).demands ≠ [] := by simp [demands, h]
  refine texts_clause? hdemands (String.toList_inj.1 ?_)
  simp [text_renderAll, demands, h, Condition.render, Operand.render, Column.text, members,
    memberIs, Comparison.sign, plain, placeholder, text_renderParams, Writer.placeholders,
    RankedSet.size]

theorem texts_clause?_categoryIn_empty {ids : RankedSet CategoryId} (h : ids.isEmpty = true) :
    (categoryIn ids).clause?.toList.map Fragment.text = ["FALSE"] := by
  simp [clause?, together?, demands, h, text_renderAll, Condition.render, plain]

theorem texts_clause?_categoryIn {ids : RankedSet CategoryId} (h : ¬ ids.isEmpty = true) :
    (categoryIn ids).clause?.toList.map Fragment.text =
      ["topics.category_id IN (" ++ Writer.placeholders ids.size ++ ")"] := by
  have hdemands : (categoryIn ids).demands ≠ [] := by simp [demands, h]
  refine texts_clause? hdemands (String.toList_inj.1 ?_)
  simp [text_renderAll, demands, h, Condition.render, Column.text, topics, plain,
    text_renderParams, length_idParams, Writer.placeholders]

theorem texts_clause?_missingSomeTag (groups : List TagJoin) :
    (missingSomeTag groups).clause?.toList.map Fragment.text =
      ["(" ++ " OR ".intercalate (groups.map (·.label ++ ".topic_id IS NULL")) ++ ")"] := by
  refine texts_clause? (List.cons_ne_nil _ _) ?_
  have hnull : ∀ group : TagJoin, group.label ++ "." ++ "topic_id" ++ " IS NULL" =
      group.label ++ ".topic_id IS NULL" := fun group => String.toList_inj.1 (by simp)
  simp [text_renderAll, demands, Condition.render, text_separated, Function.comp_def, Column.text,
    plain, hnull]

theorem texts_clause?_taggedWithNone (tags : RankedSet TagId) :
    (taggedWithNone tags).clause?.toList.map Fragment.text =
      ["topics.id NOT IN (SELECT topic_tags.topic_id FROM topic_tags " ++
        "WHERE topic_tags.tag_id IN (" ++ Writer.placeholders tags.size ++ "))"] := by
  refine texts_clause? (List.cons_ne_nil _ _) (String.toList_inj.1 ?_)
  simp [text_renderAll, demands, Condition.render, Column.text, topics, Sql.taggings, plain,
    text_renderParams, length_idParams, Writer.placeholders]

end Predicate

/-! ### What is written -/

namespace Sql.Writer

/-- Texts with one more, unless the very same is there. -/
def linked (texts : List String) (text : String) : List String :=
  if text ∈ texts then texts else texts ++ [text]

theorem joinOnce_eq (writer : Writer) (text : String) :
    writer.joinOnce text = { writer with joins := linked writer.joins text } := by
  rw [joinOnce, linked]
  split <;> rfl

theorem foldl_tagJoin (kind : JoinKind) (joins : List TagJoin) (writer : Writer) :
    joins.foldl (tagJoin · kind.word ·) writer =
      { writer with
        joins := writer.joins ++ (joins.map (taggingJoin kind)).map fun join => join.render.text
        joinParams := writer.joinParams ++ joins.flatMap fun join => idParams join.tags
        distinct := writer.distinct || joins.any fun join => 1 < join.tags.size } := by
  induction joins generalizing writer with
  | nil => simp
  | cons join rest ih =>
      rw [List.foldl_cons, ih]
      simp [tagJoin, Bool.or_assoc, text_taggingJoin]

/-- **What a condition adds to a writer.** -/
theorem apply_eq (writer : Writer) (predicate : Predicate) :
    writer.apply predicate =
      { joins := predicate.shared?.elim writer.joins (fun join =>
          linked writer.joins join.render.text) ++
            predicate.taggings.map fun join => join.render.text
        joinParams := writer.joinParams ++ predicate.joins.flatMap fun group => idParams group.tags
        conditions := writer.conditions ++ predicate.clause?.toList.map Fragment.text
        conditionParams := writer.conditionParams ++ predicate.bound
        distinct := writer.distinct || predicate.repeats
        includesDeleted := writer.includesDeleted || decide (predicate = .status .deleted)
        matchesNothing := writer.matchesNothing } := by
  cases predicate with
  | status wanted =>
      cases wanted <;>
        simp [apply, status, condition, joinOnce_eq, text_categoryJoin, Predicate.shared?,
          Predicate.taggings, Predicate.joins, Predicate.bound, Predicate.repeats,
          Predicate.clause?, together?, Predicate.demands, text_renderAll, Condition.render,
          Column.text, topics, categories, plain]
  | activelyPinned now =>
      rw [Predicate.texts_clause?_activelyPinned]
      simp [apply, condition, Predicate.shared?, Predicate.taggings, Predicate.joins,
        Predicate.bound, Predicate.repeats]
  | bookmarkedBy actor =>
      rw [Predicate.texts_clause?_bookmarkedBy]
      simp [apply, condition, joinOnce_eq, text_memberJoin, Predicate.shared?, Predicate.taggings,
        Predicate.joins, Predicate.bound, Predicate.repeats]
  | levelIn actor levels =>
      by_cases he : levels.isEmpty = true
      · rw [Predicate.texts_clause?_levelIn_empty actor he]
        simp [apply, condition, Predicate.shared?, Predicate.taggings, Predicate.joins,
          Predicate.bound, Predicate.repeats, he]
      · rw [Predicate.texts_clause?_levelIn actor he]
        simp [apply, condition, joinOnce_eq, text_memberJoin, Predicate.shared?,
          Predicate.taggings, Predicate.joins, Predicate.bound, Predicate.repeats, he]
  | categoryIn ids =>
      by_cases he : ids.isEmpty = true
      · have hnil : ids.toList = [] := List.isEmpty_iff.1 he
        rw [Predicate.texts_clause?_categoryIn_empty he]
        simp [apply, condition, Predicate.shared?, Predicate.taggings, Predicate.joins,
          Predicate.bound, Predicate.repeats, he, idParams, hnil]
      · rw [Predicate.texts_clause?_categoryIn he]
        simp [apply, condition, Predicate.shared?, Predicate.taggings, Predicate.joins,
          Predicate.bound, Predicate.repeats, he]
  | taggedWithAll groups =>
      have hnone : (Predicate.taggedWithAll groups).clause? = none := rfl
      rw [apply, hnone]
      refine (foldl_tagJoin .inner groups writer).trans ?_
      simp [Predicate.shared?, Predicate.taggings, Predicate.joins, Predicate.bound,
        Predicate.repeats]
  | taggedWithAny group =>
      have hnone : (Predicate.taggedWithAny group).clause? = none := rfl
      rw [apply, hnone]
      simp [tagJoin, text_taggingJoin, JoinKind.word, Predicate.shared?, Predicate.taggings,
        Predicate.joins, Predicate.bound, Predicate.repeats]
  | missingSomeTag groups =>
      rw [Predicate.texts_clause?_missingSomeTag, apply]
      refine (congrArg (fun writer => condition writer _ _)
        (foldl_tagJoin .left groups writer)).trans ?_
      simp [condition, Predicate.shared?, Predicate.taggings, Predicate.joins, Predicate.bound,
        Predicate.repeats]
  | taggedWithNone tags =>
      rw [Predicate.texts_clause?_taggedWithNone]
      simp [apply, condition, Predicate.shared?, Predicate.taggings, Predicate.joins,
        Predicate.bound, Predicate.repeats]

/-- The join of a shared table is written if and only if a draft makes it. -/
theorem linked_texts {predicates : List Predicate} {predicate : Predicate} {join : Join}
    (h : predicate.shared? = some join) :
    linked ((Draft.joinsOf predicates).map fun join => join.render.text) join.render.text =
      (Draft.linked (Draft.joinsOf predicates) join).map fun join => join.render.text := by
  have hmem : join.render.text ∈ (Draft.joinsOf predicates).map (fun join => join.render.text) ↔
      join ∈ Draft.joinsOf predicates := by
    refine ⟨fun hmem => ?_, fun hmem => List.mem_map.2 ⟨join, hmem, rfl⟩⟩
    obtain ⟨other, hother, htext⟩ := List.mem_map.1 hmem
    obtain ⟨asked, -, hlink⟩ := Draft.mem_joinsOf_iff.1 hother
    exact eq_of_text_eq h hlink htext ▸ hother
  rw [linked, Draft.linked]
  by_cases hj : join ∈ Draft.joinsOf predicates
  · rw [if_pos hj, if_pos (hmem.2 hj)]
  · rw [if_neg hj, if_neg (mt hmem.1 hj), List.map_append, List.map_singleton]

/-- The texts of the joins of a chain with one more condition. -/
theorem texts_joinFragments_concat (predicates : List Predicate) (predicate : Predicate) :
    (Draft.joinFragments (predicates ++ [predicate])).map Fragment.text =
      predicate.shared?.elim ((Draft.joinFragments predicates).map Fragment.text) (fun join =>
        linked ((Draft.joinFragments predicates).map Fragment.text) join.render.text) ++
          predicate.taggings.map fun join => join.render.text := by
  simp only [Draft.joinFragments, Draft.joinsOf_concat, List.map_append, List.map_map]
  refine congrArg (· ++ _) ?_
  cases hs : predicate.shared? with
  | none => rfl
  | some join => exact (linked_texts hs).symm

/-- The writer of a chain, silenced or not: the texts of its fragments, and the values that they
bind. -/
def ofChain (predicates : List Predicate) (silent : Bool) : Writer where
  joins := (Draft.joinFragments predicates).map Fragment.text
  joinParams := predicates.flatMap fun predicate => predicate.joins.flatMap fun group =>
    idParams group.tags
  conditions := (predicates.filterMap Predicate.clause?).map Fragment.text
  conditionParams := predicates.flatMap Predicate.bound
  distinct := predicates.any Predicate.repeats
  includesDeleted := decide (.status .deleted ∈ predicates)
  matchesNothing := silent

theorem apply_ofChain (predicates : List Predicate) (silent : Bool) (predicate : Predicate) :
    (ofChain predicates silent).apply predicate = ofChain (predicates ++ [predicate]) silent := by
  have hclauses : (predicates ++ [predicate]).filterMap Predicate.clause? =
      predicates.filterMap Predicate.clause? ++ predicate.clause?.toList := by
    rw [List.filterMap_append]
    cases h : predicate.clause? <;> simp [h]
  rw [apply_eq, ofChain, ofChain, texts_joinFragments_concat, hclauses]
  simp [eq_comm (b := predicate)]

theorem foldl_apply_ofChain (first second : List Predicate) (silent : Bool) :
    second.foldl apply (ofChain first silent) = ofChain (first ++ second) silent := by
  induction second generalizing first with
  | nil => rw [List.foldl_nil, List.append_nil]
  | cons predicate rest ih =>
      rw [List.foldl_cons, apply_ofChain, ih, List.append_assoc, List.singleton_append]

theorem run_ofChain (predicates : List Predicate) (silent : Bool) (move : Draft.Move) :
    move.run (ofChain predicates silent) =
      ofChain (predicates ++ move.predicates) (silent || move.silences) := by
  have hnone : Sink.none (ofChain predicates silent) =
      ofChain (predicates ++ []) (silent || true) := by
    rw [List.append_nil, Bool.or_true]
    rfl
  cases move with
  | apply predicate =>
      rw [Draft.Move.silences, Bool.or_false]
      exact apply_ofChain predicates silent predicate
  | none => exact hnone
  | replay filter =>
      cases filter with
      | nothing => exact hnone
      | chain others =>
          rw [Draft.Move.silences, Filter.isNothing, Bool.or_false]
          exact foldl_apply_ofChain predicates others silent

/-- A writer after some moves. -/
def after (moves : List Draft.Move) : Writer := moves.foldl (fun writer move => move.run writer) ∅

/-- **A writer after some moves** is that of their conditions, silenced if one of them said so. -/
theorem after_eq (moves : List Draft.Move) :
    after moves =
      ofChain (moves.flatMap Draft.Move.predicates) (moves.any Draft.Move.silences) := by
  have hfold : ∀ (predicates : List Predicate) (silent : Bool),
      moves.foldl (fun writer move => move.run writer) (ofChain predicates silent) =
        ofChain (predicates ++ moves.flatMap Draft.Move.predicates)
          (silent || moves.any Draft.Move.silences) := by
    induction moves with
    | nil => simp
    | cons move rest ih =>
        intro predicates silent
        rw [List.foldl_cons, run_ofChain, ih, List.append_assoc, Bool.or_assoc, List.flatMap_cons,
          List.any_cons]
  exact hfold [] false

/-- The statement of a writer that was not silenced is that of the chain. -/
theorem statement_ofChain (predicates : List Predicate) :
    (ofChain predicates false).statement = (Draft.ofFilter (.chain predicates)).statement := by
  have hconditions : (if decide (.status .deleted ∈ predicates) then []
        else ["topics.deleted_at IS NULL"]) ++
      (predicates.filterMap Predicate.clause?).map Fragment.text =
        (Draft.clauses predicates).map Fragment.text := by
    rw [Draft.clauses, List.map_append]
    by_cases hdeleted : .status .deleted ∈ predicates <;> simp [hdeleted, plain]
  have htext : (ofChain predicates false).statement.text =
      (Draft.ofFilter (.chain predicates)).statement.text := by
    rw [Draft.text_statement_chain, ← hconditions]
    rfl
  have hparams : (ofChain predicates false).statement.params =
      (Draft.ofFilter (.chain predicates)).statement.params := by
    rw [Draft.params_statement_chain, List.flatMap_append, Draft.params_joinFragments,
      Draft.params_clauses]
    rfl
  exact congrArg₂ Fragment.mk htext hparams

/-- **A writer and a draft that are asked the same have the same statement**, and the same flags. -/
theorem statement_eq (moves : List Draft.Move) :
    (after moves).statement = (Draft.after moves).statement ∧
      (after moves).distinct = (Draft.after moves).distinct ∧
      (after moves).includesDeleted = (Draft.after moves).includesDeleted := by
  rw [after_eq]
  refine ⟨?_, ?_, ?_⟩
  · cases h : moves.any Draft.Move.silences with
    | true => exact (Draft.statement_after_of_silenced h).symm
    | false =>
        rw [statement_ofChain]
        exact (Draft.statement_after_of_not_silenced h).symm
  · rw [Draft.after_eq, Draft.ofFilter_chain]
    rfl
  · rw [Draft.after_eq, Draft.ofFilter_chain]
    rfl

end Sql.Writer

end ForumQuery
