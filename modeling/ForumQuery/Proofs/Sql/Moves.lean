import ForumQuery.Proofs.Sql.Fragments

/-!
# Moves — what a draft is asked, and what its statement binds

A draft is asked by *moves*: a condition, the word that nothing passes, or a filter that is played
onto it.  What comes out is the draft of all the conditions in their order, silenced if one of the
moves said that nothing passes (`Draft.after_eq`).  So its statement is that of a chain, or the one
that selects nothing; and either has a value for each placeholder, in the order in which they stand
(`statement_after`).
-/

namespace ForumQuery

open Sql Fragment

namespace Sql.Draft

/-- One use of a draft, or of another sink. -/
inductive Move where
  | apply (predicate : Predicate)
  | none
  | replay (filter : Filter)

namespace Move

/-- What a move makes of a sink. -/
def run {σ : Type} [Sink σ] (move : Move) (sink : σ) : σ :=
  match move with
  | apply predicate => Sink.apply sink predicate
  | none => Sink.none sink
  | replay filter => filter.replay sink

/-- The conditions that a move brings. -/
def predicates : Move → List Predicate
  | apply predicate => [predicate]
  | none => []
  | replay filter => filter.predicates

/-- A move says that nothing passes. -/
def silences : Move → Bool
  | apply _ => false
  | none => true
  | replay filter => filter.isNothing

end Move

/-- A draft after some moves. -/
def after (moves : List Move) : Draft := moves.foldl (fun draft move => move.run draft) ∅

/-- The word that nothing passes does not change what conditions make of a draft. -/
theorem foldl_apply_silent (draft : Draft) (silent : Bool) (predicates : List Predicate) :
    predicates.foldl apply { draft with matchesNothing := silent } =
      { predicates.foldl apply draft with matchesNothing := silent } := by
  induction predicates generalizing draft with
  | nil => rfl
  | cons predicate rest ih =>
      have hstep : apply { draft with matchesNothing := silent } predicate =
          { draft.apply predicate with matchesNothing := silent } := by
        rw [apply_eq, apply_eq]
      rw [List.foldl_cons, hstep, ih, List.foldl_cons]

/-- What a move makes of a draft. -/
theorem run_eq (draft : Draft) (move : Move) :
    move.run draft = { move.predicates.foldl apply draft with
      matchesNothing := draft.matchesNothing || move.silences } := by
  have hfold : ∀ predicates : List Predicate, predicates.foldl apply draft =
      { predicates.foldl apply draft with matchesNothing := draft.matchesNothing } := by
    intro predicates
    rw [← foldl_apply_silent]
  cases move with
  | apply predicate =>
      rw [Move.silences, Bool.or_false]
      exact hfold [predicate]
  | none =>
      rw [Move.silences, Bool.or_true]
      rfl
  | replay filter =>
      cases filter with
      | nothing =>
          rw [Move.silences, Filter.isNothing, Bool.or_true]
          rfl
      | chain predicates =>
          rw [Move.silences, Filter.isNothing, Bool.or_false]
          exact hfold predicates

theorem foldl_run (draft : Draft) (moves : List Move) :
    moves.foldl (fun draft move => move.run draft) draft =
      { (moves.flatMap Move.predicates).foldl apply draft with
        matchesNothing := draft.matchesNothing || moves.any Move.silences } := by
  induction moves generalizing draft with
  | nil => simp
  | cons move rest ih =>
      rw [List.foldl_cons, ih, run_eq, foldl_apply_silent, List.flatMap_cons, List.foldl_append,
        List.any_cons, Bool.or_assoc]

/-- **A draft after some moves** is that of their conditions, silenced if one of them said so. -/
theorem after_eq (moves : List Move) :
    after moves = { ofFilter (.chain (moves.flatMap Move.predicates)) with
      matchesNothing := moves.any Move.silences } :=
  foldl_run ∅ moves

/-- The statement of a draft that was silenced. -/
theorem statement_after_of_silenced {moves : List Move} (h : moves.any Move.silences = true) :
    (after moves).statement = plain "SELECT topics.* FROM topics WHERE FALSE" := by
  have hselect : (after moves).select = ⟨false, [], [.never]⟩ := by
    rw [after_eq, h]
    rfl
  rw [statement, hselect]
  decide

/-- The statement of any other draft. -/
theorem statement_after_of_not_silenced {moves : List Move}
    (h : moves.any Move.silences = false) :
    (after moves).statement =
      (ofFilter (.chain (moves.flatMap Move.predicates))).statement := by
  rw [after_eq, h, ofFilter_chain]

end Sql.Draft

/-! ### The values of sets -/

/-- Integers as values, in ascending order. -/
def Ascend (params : List Param) : Prop :=
  ∃ ints : List Int, params = ints.map Param.int ∧ ints.Pairwise (· < ·)

theorem ascend_idParams {kind : RecordKind} (ids : RankedSet (RecordId kind)) :
    Ascend (idParams ids) := by
  refine ⟨ids.toList.map RecordId.toInt, by rw [idParams, List.map_map]; rfl, ?_⟩
  refine List.pairwise_map.2 (ids.ascending.imp fun {a b} hlt => ?_)
  have hrank : (a.toInt + RecordId.limit).toNat < (b.toInt + RecordId.limit).toNat := hlt
  omega

theorem ascend_levels (levels : RankedSet Level) :
    Ascend (levels.toList.map fun level => .int level.stored) := by
  refine ⟨levels.toList.map fun level => (level.stored : Int), by rw [List.map_map]; rfl, ?_⟩
  exact List.pairwise_map.2 (levels.ascending.imp fun hlt => Int.ofNat_lt.2 hlt)

/-! ### The statement -/

/-- **Every placeholder has its value**, whatever is asked of a draft and in whatever order.  The
statement is its fragments one after the other, first those of the joins, then those of the
conditions; each of them has a value for each placeholder, and the values are those of the sets and
actors that were asked for, in the order of the conditions. -/
theorem statement_after (moves : List Draft.Move)
    (h : ∀ label ∈ labels (moves.flatMap Draft.Move.predicates), '?' ∉ label.toList) :
    let predicates := moves.flatMap Draft.Move.predicates
    let joins := Draft.joinFragments predicates
    let conditions := Draft.clauses predicates
    let statement := (Draft.after moves).statement
    statement.InStep ∧
      (moves.any Draft.Move.silences = true →
        statement = plain "SELECT topics.* FROM topics WHERE FALSE") ∧
      (moves.any Draft.Move.silences = false →
        statement.text = Draft.textOf (predicates.any Predicate.repeats)
          (joins.map Fragment.text) (conditions.map Fragment.text) ∧
        statement.params = (joins ++ conditions).flatMap Fragment.params) ∧
      (∀ fragment ∈ joins ++ conditions, fragment.InStep) ∧
      (joins.flatMap Fragment.params = (predicates.flatMap Predicate.joins).flatMap (fun group =>
          idParams group.tags) ∧
        ∀ join ∈ Draft.joinsOf predicates,
          (join = memberJoin ∨ join = categoryJoin) ∧ join.render.params = [] ∨
            ∃ kind, ∃ group ∈ predicates.flatMap Predicate.joins, join = taggingJoin kind group ∧
              join.render.params = idParams group.tags) ∧
      (conditions.flatMap Fragment.params = predicates.flatMap Predicate.bound ∧
        ∀ predicate ∈ predicates, ∀ fragment ∈ predicate.clause?,
          fragment.params = predicate.bound) ∧
      (∀ {kind : RecordKind} (ids : RankedSet (RecordId kind)), Ascend (idParams ids)) ∧
      ∀ levels : RankedSet Level, Ascend (levels.toList.map fun level => .int level.stored) := by
  intro predicates joins conditions statement
  have hsilenced : moves.any Draft.Move.silences = true →
      statement = plain "SELECT topics.* FROM topics WHERE FALSE" :=
    Draft.statement_after_of_silenced
  have hchain : moves.any Draft.Move.silences = false →
      statement = (Draft.ofFilter (.chain predicates)).statement :=
    Draft.statement_after_of_not_silenced
  refine ⟨?_, hsilenced, fun hnot => ?_, fun fragment => Draft.inStep_of_mem_fragments h,
    ⟨?_, fun join => Draft.params_of_mem_joinsOf⟩,
    ⟨Draft.params_clauses predicates, fun predicate _ fragment => Predicate.params_clause?⟩,
    ascend_idParams, ascend_levels⟩
  · cases hany : moves.any Draft.Move.silences with
    | true =>
        rw [hsilenced hany]
        exact inStep_plain (by decide)
    | false =>
        rw [hchain hany]
        exact Draft.inStep_statement_chain h
  · rw [hchain hnot]
    exact ⟨Draft.text_statement_chain predicates, Draft.params_statement_chain predicates⟩
  · rw [List.flatMap_assoc]
    exact Draft.params_joinFragments predicates

/-- Tags are bound before a category that was asked for first. -/
theorem statement_after_tags :
    let moves : List Draft.Move := [.apply (.categoryIn (.ofList [⟨4⟩])),
      .replay (.chain [.taggedWithAll
        [⟨"tags_0", .ofList [⟨1⟩]⟩, ⟨"tags_1", .ofList [⟨3⟩, ⟨2⟩]⟩]])]
    (∀ label ∈ labels (moves.flatMap Draft.Move.predicates), '?' ∉ label.toList) ∧
      (Draft.after moves).statement.params = [.int 1, .int 2, .int 3, .int 4] ∧
      (Draft.after moves).statement.InStep := by
  intro moves
  have h : ∀ label ∈ labels (moves.flatMap Draft.Move.predicates), '?' ∉ label.toList := by
    decide +kernel
  exact ⟨h, by decide +kernel, (statement_after moves h).1⟩

end ForumQuery
