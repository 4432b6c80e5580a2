import ForumQuery.Proofs.Sql.Lowering

/-!
# Conjunction — the statement of two chains

The statement of one chain after another selects what the statements of both select, as long as the
conditions on memberships are all about one actor (`mem_run_append_iff`).  Where they are not, it
selects nothing: one row of the memberships would have to belong to two actors, and a topic that
both of them have bookmarked is lost (`not_mem_run_two_bookmarks`).
-/

namespace ForumQuery

open Sql

section

variable {first second : List Predicate}

theorem Labelled.left (h : Labelled (first ++ second)) : Labelled first := by
  refine ⟨?_, fun label hl => h.notMem_tables label ?_⟩
  · exact (List.nodup_append.1 (labels_append first second ▸ h.nodup)).1
  · exact labels_append first second ▸ List.mem_append_left _ hl

theorem Labelled.right (h : Labelled (first ++ second)) : Labelled second := by
  refine ⟨?_, fun label hl => h.notMem_tables label ?_⟩
  · exact (List.nodup_append.1 (labels_append first second ▸ h.nodup)).2.1
  · exact labels_append first second ▸ List.mem_append_right _ hl

theorem OneActor.left (h : OneActor (first ++ second)) : OneActor first :=
  fun p hp q hq => h p (List.mem_append_left _ hp) q (List.mem_append_left _ hq)

theorem OneActor.right (h : OneActor (first ++ second)) : OneActor second :=
  fun p hp q hq => h p (List.mem_append_right _ hp) q (List.mem_append_right _ hq)

end

/-- **The statement of two chains selects what both select, for one actor**, deleted topics being
left out by either. -/
theorem mem_run_append_iff {database : Database} (hkeyed : database.Keyed)
    {first second : List Predicate} (h : Labelled (first ++ second))
    (hfirst : .status .deleted ∉ first) (hsecond : .status .deleted ∉ second) (row : TopicRow) :
    row ∈ (Draft.ofFilter (.chain (first ++ second))).select.run database ↔
      (row ∈ (Draft.ofFilter (.chain first)).select.run database ∧
        row ∈ (Draft.ofFilter (.chain second)).select.run database) ∧
          OneActor (first ++ second) := by
  have hboth : .status .deleted ∉ first ++ second := by
    rw [List.mem_append, not_or]
    exact ⟨hfirst, hsecond⟩
  rw [Draft.mem_run_chain_iff hkeyed h, Draft.mem_run_chain_iff hkeyed h.left,
    Draft.mem_run_chain_iff hkeyed h.right, List.forall_mem_append]
  simp only [hboth, hfirst, hsecond, or_false]
  constructor
  · rintro ⟨hrow, hdeleted, ⟨hmeets, hmeets'⟩, hone⟩
    exact ⟨⟨⟨hrow, hdeleted, hmeets, hone.left⟩, hrow, hdeleted, hmeets', hone.right⟩, hone⟩
  · rintro ⟨⟨⟨hrow, hdeleted, hmeets, -⟩, -, -, hmeets', -⟩, hone⟩
    exact ⟨hrow, hdeleted, ⟨hmeets, hmeets'⟩, hone⟩

/-- A topic that one member has bookmarked and follows. -/
theorem mem_run_append_followed :
    let first : List Predicate := [.bookmarkedBy ⟨42⟩]
    let second : List Predicate := [.levelIn ⟨42⟩ (.ofList [.tracking])]
    let topic : TopicRow := ⟨1, none, some false, some true, none, none, none, none⟩
    let database : Database := ⟨[topic], [⟨some 1, some ⟨42⟩, some 2, some true⟩], [], []⟩
    (database.Keyed ∧ Labelled (first ++ second) ∧ .status .deleted ∉ first ∧
      .status .deleted ∉ second) ∧
      topic ∈ (Draft.ofFilter (.chain (first ++ second))).select.run database := by
  intro first second topic database
  have hkeyed : database.Keyed :=
    ⟨by decide, List.pairwise_singleton _ _, .nil, .nil⟩
  have hlabelled : Labelled (first ++ second) := ⟨.nil, nofun⟩
  have hfirst : .status .deleted ∉ first := by decide
  have hsecond : .status .deleted ∉ second := by decide
  have hone : OneActor (first ++ second) := by
    unfold OneActor
    decide
  refine ⟨⟨hkeyed, hlabelled, hfirst, hsecond⟩,
    (mem_run_append_iff hkeyed hlabelled hfirst hsecond topic).2 ⟨⟨?_, ?_⟩, hone⟩⟩
  · decide +kernel
  · decide +kernel

/-- A topic that two members have bookmarked is selected for each of them, and not for both. -/
theorem not_mem_run_two_bookmarks :
    let first : List Predicate := [.bookmarkedBy ⟨1⟩]
    let second : List Predicate := [.bookmarkedBy ⟨2⟩]
    let topic : TopicRow := ⟨1, some false, some false, some true, none, none, none, none⟩
    let database : Database := ⟨[topic],
      [⟨some 1, some ⟨1⟩, none, some true⟩, ⟨some 1, some ⟨2⟩, none, some true⟩], [], []⟩
    (database.Keyed ∧ Labelled (first ++ second)) ∧
      topic ∈ (Draft.ofFilter (.chain first)).select.run database ∧
      topic ∈ (Draft.ofFilter (.chain second)).select.run database ∧
      topic ∉ (Draft.ofFilter (.chain (first ++ second))).select.run database := by
  intro first second topic database
  have hmembers : database.members.Pairwise fun a b =>
      ∀ topic actor, a.topic = some topic → a.actor = some actor →
        ¬ (b.topic = some topic ∧ b.actor = some actor) := by
    refine List.pairwise_pair.2 fun topic actor _ hfirst hsecond => ?_
    exact absurd (hfirst.trans hsecond.2.symm) (by decide)
  refine ⟨⟨⟨by decide, hmembers, .nil, .nil⟩, .nil, nofun⟩, ?_, ?_, ?_⟩
  · decide +kernel
  · decide +kernel
  · decide +kernel

end ForumQuery
