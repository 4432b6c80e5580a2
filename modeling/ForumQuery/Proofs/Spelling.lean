import ForumQuery.Query.Token
import Mathlib.Data.List.TakeWhile

/-!
# Spelling — a token is read back from the way it is written

The characters of a token are those of its chunk (`spelling_of_ofChunk?`), and a chunk is a run
without a blank (`run_of_mem_chunks`), so a token of a query, written down by itself, is read as a
query of that one token at position 0 (`scan_spelling`).
-/

namespace ForumQuery.Query

open ForumQuery.Text

/-- A chunk holds a character, and no blank. -/
theorem run_of_mem_chunks {position : Nat} {cs : List Char} {chunk : Chunk}
    (h : chunk ∈ chunks position cs) : chunk.text ≠ [] ∧ ∀ c ∈ chunk.text, inChunk c = true := by
  fun_induction chunks position cs with
  | case1 => exact absurd h List.not_mem_nil
  | case2 position c cs hc ih => exact ih h
  | case3 position c cs hc run ih =>
      rcases List.mem_cons.1 h with rfl | h
      · refine ⟨List.cons_ne_nil _ _, fun d hd => ?_⟩
        rcases List.mem_cons.1 hd with rfl | hd
        · simpa [inChunk] using hc
        · exact List.all_eq_true.1 (List.all_takeWhile ..) d hd
      · exact ih h

/-- A run without a blank is one chunk. -/
theorem chunks_of_run (position : Nat) {cs : List Char} (hne : cs ≠ [])
    (h : ∀ c ∈ cs, inChunk c = true) : chunks position cs = [⟨position, cs⟩] := by
  cases cs with
  | nil => exact absurd rfl hne
  | cons c cs =>
      have hc : isBlank c = false := by simpa [inChunk] using h c (by simp)
      have hcs : ∀ d ∈ cs, inChunk d = true := fun d hd => h d (List.mem_cons_of_mem _ hd)
      rw [chunks_run position hc, List.takeWhile_eq_self_iff.2 hcs,
        List.dropWhile_eq_nil_iff.2 hcs, chunks_nil]

namespace Flag

/-- A flag and what follows it are the characters that they were split from. -/
theorem append_split (cs : List Char) : ((split cs).1.map char).toList ++ (split cs).2 = cs := by
  cases cs with
  | nil => rfl
  | cons c cs =>
      rw [split]
      split
      · next flag h =>
        have : c = flag.char := by
          unfold ofChar? at h
          split at h <;> cases h <;> rfl
        rw [this]
        rfl
      · rfl

end Flag

namespace Token

/-- The characters of a token are those of its chunk. -/
theorem spelling_of_ofChunk? {chunk : Chunk} {token : Token} (h : ofChunk? chunk = some token) :
    token.spelling = chunk.text := by
  unfold ofChunk? at h
  dsimp only at h
  split at h
  · cases h
  · next colon value hd =>
    split at h
    · cases h
      obtain rfl : colon = ':' := by
        have := List.head?_dropWhile_not (· ≠ ':') (Flag.split chunk.text).2
        simp only [hd, List.head?_cons] at this
        simpa using this
      rw [spelling, String.toList_ofList, String.toList_ofList, List.append_assoc, ← hd,
        List.takeWhile_append_dropWhile, Flag.append_split]
    · cases h

/-- The position of a chunk plays no part in what it says. -/
theorem ofChunk?_position (chunk : Chunk) (position : Nat) :
    ofChunk? { chunk with position } =
      (ofChunk? chunk).map fun token => { token with position } := by
  unfold ofChunk?
  dsimp only
  split
  · rfl
  · split <;> rfl

/-- **A token of a query, written by itself, is read as that token.** -/
theorem scan_spelling {query : String} {token : Token} (h : token ∈ scan query) :
    scan (String.ofList token.spelling) = [{ token with position := 0 }] := by
  obtain ⟨chunk, hchunk, htoken⟩ := List.mem_filterMap.1 h
  obtain ⟨hne, hrun⟩ := run_of_mem_chunks hchunk
  rw [scan, String.toList_ofList, spelling_of_ofChunk? htoken, chunks_of_run 0 hne hrun,
    List.filterMap_cons, List.filterMap_nil]
  rw [ofChunk?_position chunk 0, htoken]
  rfl

end Token

end ForumQuery.Query
