import ForumQuery.Proofs.Spelling
import Mathlib.Data.List.Nodup

/-!
# Chunks — the longest runs of a text

The chunks of a text are its longest runs without a blank (`IsRun`), each at the byte offset at
which it starts (`mem_chunks_iff`), in the order in which they stand and with a blank at least
between each two (`pairwise_chunks`).  A text can be cut into chunks piece by piece wherever a
blank stands at the cut (`chunks_append`).
-/

namespace ForumQuery.Query

open ForumQuery.Text

/-- A longest run of a text without a blank, with what stands before and after it. -/
structure IsRun (text before run after : List Char) : Prop where
  eq : text = before ++ run ++ after
  ne_nil : run ≠ []
  solid : ∀ c ∈ run, isBlank c = false
  left : ∀ c ∈ before.getLast?, isBlank c = true
  right : ∀ c ∈ after.head?, isBlank c = true

/-! ### One run -/

theorem inChunk_iff {c : Char} : inChunk c = true ↔ isBlank c = false := by
  rw [inChunk, Bool.not_eq_true']

/-- What follows a run starts with a blank, if there is anything. -/
theorem isBlank_of_mem_head?_dropWhile {cs : List Char} {c : Char}
    (h : c ∈ (cs.dropWhile inChunk).head?) : isBlank c = true := by
  have hnot := List.head?_dropWhile_not inChunk cs
  rw [Option.mem_def.1 h] at hnot
  simpa [inChunk] using hnot

/-- A run up to a blank, or up to the end of the text, is one chunk. -/
theorem chunks_run_append (position : Nat) {run after : List Char} (hne : run ≠ [])
    (hsolid : ∀ c ∈ run, isBlank c = false) (hright : ∀ c ∈ after.head?, isBlank c = true) :
    chunks position (run ++ after) =
      ⟨position, run⟩ :: chunks (position + byteLength run) after := by
  obtain ⟨c, cs, rfl⟩ := List.exists_cons_of_ne_nil hne
  have hcs : ∀ d ∈ cs, inChunk d = true :=
    fun d hd => inChunk_iff.2 (hsolid d (List.mem_cons_of_mem c hd))
  have htake : after.takeWhile inChunk = [] := by
    cases after with
    | nil => rfl
    | cons d ds => simp [inChunk, hright d rfl]
  have hdrop : after.dropWhile inChunk = after := by
    cases after with
    | nil => rfl
    | cons d ds => simp [inChunk, hright d rfl]
  rw [List.cons_append, chunks_run position (hsolid c List.mem_cons_self),
    List.takeWhile_append_of_pos hcs, List.dropWhile_append_of_pos hcs, htake, hdrop,
    List.append_nil]

/-- A text that does not start with a blank starts with a run. -/
theorem exists_run_append {c : Char} (hc : isBlank c = false) (cs : List Char) :
    ∃ run after, c :: cs = run ++ after ∧ run ≠ [] ∧ (∀ d ∈ run, isBlank d = false) ∧
      ∀ d ∈ after.head?, isBlank d = true := by
  refine ⟨c :: cs.takeWhile inChunk, cs.dropWhile inChunk, ?_, List.cons_ne_nil _ _, ?_,
    fun d => isBlank_of_mem_head?_dropWhile⟩
  · rw [List.cons_append, List.takeWhile_append_dropWhile]
  · refine List.forall_mem_cons.2 ⟨hc, fun d hd => inChunk_iff.1 ?_⟩
    exact List.all_eq_true.1 (List.all_takeWhile ..) d hd

/-! ### All of them -/

/-- Induction over the runs of a text: it is empty, or it starts with a blank, or with a run. -/
theorem runInduction {motive : List Char → Prop} (nil : motive [])
    (blank : ∀ c cs, isBlank c = true → motive cs → motive (c :: cs))
    (run : ∀ run after, run ≠ [] → (∀ c ∈ run, isBlank c = false) →
      (∀ c ∈ after.head?, isBlank c = true) → motive after → motive (run ++ after))
    (cs : List Char) : motive cs := by
  -- on the length, for what follows a run is not the tail of the text
  induction hlength : cs.length using Nat.strongRecOn generalizing cs with
  | ind n ih =>
      subst hlength
      cases cs with
      | nil => exact nil
      | cons c cs =>
          cases hc : isBlank c with
          | true => exact blank c cs hc (ih cs.length (Nat.lt_succ_self _) cs rfl)
          | false =>
              obtain ⟨first, after, heq, hne, hsolid, hright⟩ := exists_run_append hc cs
              have hlt : after.length < (c :: cs).length := by
                rw [heq, List.length_append]
                exact Nat.lt_add_of_pos_left (List.length_pos_iff.2 hne)
              rw [heq]
              exact run first after hne hsolid hright (ih after.length hlt after rfl)

/-- **A text is cut piece by piece** where a blank stands on one side of the cut. -/
theorem chunks_append (position : Nat) {first second : List Char}
    (h : (∀ c ∈ first.getLast?, isBlank c = true) ∨ ∀ c ∈ second.head?, isBlank c = true) :
    chunks position (first ++ second) =
      chunks position first ++ chunks (position + byteLength first) second := by
  induction first using runInduction generalizing position with
  | nil => simp [byteLength]
  | blank c cs hc ih =>
      rw [List.cons_append, chunks_blank position hc, chunks_blank position hc, byteLength,
        ← Nat.add_assoc]
      refine ih _ (h.imp_left fun hlast d hd => hlast d ?_)
      rw [List.getLast?_cons, Option.mem_def.1 hd]
      rfl
  | run run after hne hsolid hright ih =>
      have hlast : ∀ d ∈ after.getLast?, d ∈ (run ++ after).getLast? := by
        intro d hd
        rw [List.getLast?_append, Option.mem_def.1 hd]
        rfl
      -- what follows the run starts with a blank, be it of this piece or of the next one
      have hhead : ∀ d ∈ (after ++ second).head?, isBlank d = true := by
        cases after with
        | cons a as => exact hright
        | nil =>
            refine h.resolve_left fun hblank => ?_
            rw [List.append_nil, List.getLast?_eq_some_getLast hne] at hblank
            have hlast := hblank (run.getLast hne) rfl
            rw [hsolid _ (List.getLast_mem hne)] at hlast
            cases hlast
      rw [List.append_assoc, chunks_run_append position hne hsolid hhead,
        chunks_run_append position hne hsolid hright, List.cons_append, byteLength_append,
        ← Nat.add_assoc, ih _ (h.imp_left fun hblank d hd => hblank d (hlast d hd))]

/-- A blank text has no chunks. -/
theorem chunks_eq_nil (position : Nat) {cs : List Char} (h : ∀ c ∈ cs, isBlank c = true) :
    chunks position cs = [] := by
  induction cs generalizing position with
  | nil => exact chunks_nil position
  | cons c cs ih =>
      rw [List.forall_mem_cons] at h
      rw [chunks_blank position h.1, ih _ h.2]

/-- A chunk as it stands in a text with `offset` bytes in front. -/
def Chunk.shift (offset : Nat) (chunk : Chunk) : Chunk :=
  { chunk with position := offset + chunk.position }

/-- What is in front of a text shows in the positions of its chunks alone. -/
theorem chunks_add (offset position : Nat) (cs : List Char) :
    chunks (offset + position) cs = (chunks position cs).map (Chunk.shift offset) := by
  induction cs using runInduction generalizing position with
  | nil => simp
  | blank c cs hc ih =>
      rw [chunks_blank _ hc, chunks_blank _ hc, Nat.add_assoc, ih]
  | run run after hne hsolid hright ih =>
      rw [chunks_run_append _ hne hsolid hright, chunks_run_append _ hne hsolid hright,
        Nat.add_assoc, ih, List.map_cons]
      rfl

/-- **The chunks of a text are its longest runs.** -/
theorem mem_chunks_iff {position : Nat} {cs : List Char} {chunk : Chunk} :
    chunk ∈ chunks position cs ↔
      ∃ before after, IsRun cs before chunk.text after ∧
        chunk.position = position + byteLength before := by
  constructor
  · intro h
    induction cs using runInduction generalizing position with
    | nil => simp at h
    | blank c cs hc ih =>
        rw [chunks_blank position hc] at h
        obtain ⟨before, after, hrun, hposition⟩ := ih h
        refine ⟨c :: before, after, ⟨?_, hrun.ne_nil, hrun.solid, fun d hd => ?_, hrun.right⟩, ?_⟩
        · rw [hrun.eq]
          rfl
        · rw [List.getLast?_cons, Option.mem_some_iff] at hd
          cases hb : before.getLast? with
          | none => rwa [← hd, hb]
          | some e => exact hrun.left d (by rw [← hd, hb]; rfl)
        · rw [hposition, byteLength, Nat.add_assoc]
    | run run after hne hsolid hright ih =>
        rw [chunks_run_append position hne hsolid hright] at h
        rcases List.mem_cons.1 h with rfl | h
        · exact ⟨[], after, ⟨rfl, hne, hsolid, by simp, hright⟩, rfl⟩
        · obtain ⟨before, rest, hrun, hposition⟩ := ih h
          -- the next run does not touch this one, for what follows this one starts with a blank
          have hbefore : before ≠ [] := by
            rintro rfl
            obtain ⟨d, ds, hd⟩ := List.exists_cons_of_ne_nil hrun.ne_nil
            have hsolid := hrun.solid d (hd ▸ List.mem_cons_self)
            exact absurd (hright d (by rw [hrun.eq, hd]; rfl)) (by simp [hsolid])
          refine ⟨run ++ before, rest,
            ⟨?_, hrun.ne_nil, hrun.solid, fun d hd => ?_, hrun.right⟩, ?_⟩
          · rw [hrun.eq, List.append_assoc run before, List.append_assoc run]
          · rw [List.getLast?_append, List.getLast?_eq_some_getLast hbefore] at hd
            exact hrun.left d (List.getLast?_eq_some_getLast hbefore ▸ hd)
          · rw [hposition, byteLength_append, Nat.add_assoc]
  · rintro ⟨before, after, hrun, hposition⟩
    rw [hrun.eq, List.append_assoc, chunks_append position (.inl hrun.left),
      chunks_run_append _ hrun.ne_nil hrun.solid hrun.right, ← hposition]
    exact List.mem_append_right _ List.mem_cons_self

/-- **The chunks stand in their order, and a blank at least between each two.** -/
theorem pairwise_chunks (position : Nat) (cs : List Char) :
    (chunks position cs).Pairwise fun a b => a.position + byteLength a.text < b.position := by
  induction cs using runInduction generalizing position with
  | nil => simp
  | blank c cs hc ih =>
      rw [chunks_blank position hc]
      exact ih _
  | run run after hne hsolid hright ih =>
      rw [chunks_run_append position hne hsolid hright]
      refine List.pairwise_cons.2 ⟨fun chunk hchunk => ?_, ih _⟩
      cases after with
      | nil => simp at hchunk
      | cons d ds =>
          have hd : isBlank d = true := hright d rfl
          rw [chunks_blank _ hd] at hchunk
          obtain ⟨before, -, -, hposition⟩ := mem_chunks_iff.1 hchunk
          have hpos := d.utf8Size_pos
          rw [hposition]
          dsimp only
          omega

/-- At one position stands one chunk at most. -/
theorem eq_of_position_eq {position : Nat} {cs : List Char} {first second : Chunk}
    (hfirst : first ∈ chunks position cs) (hsecond : second ∈ chunks position cs)
    (h : first.position = second.position) : first = second := by
  have hnodup : ((chunks position cs).map Chunk.position).Nodup :=
    List.pairwise_map.2 ((pairwise_chunks position cs).imp fun hlt =>
      Nat.ne_of_lt (Nat.lt_of_le_of_lt (Nat.le_add_right ..) hlt))
  exact List.inj_on_of_nodup_map hnodup hfirst hsecond h

end ForumQuery.Query
