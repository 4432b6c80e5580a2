import ForumQuery.Text.Blank
import ForumQuery.Text.Runs

/-!
# Chunks of a query

A query is cut at its blank characters.  A chunk is a longest run of characters that are not
blank, together with the number of bytes that the UTF-8 form of the query has before it.

`chunks_nil`, `chunks_blank` and `chunks_run` say what the cut does at the end of the text, at a
blank and at the start of a run.
-/

namespace ForumQuery.Query

open ForumQuery.Text

/-- The length of the UTF-8 form of some characters. -/
def byteLength : List Char → Nat
  | [] => 0
  | c :: cs => c.utf8Size + byteLength cs

theorem byteLength_toList (text : String) : byteLength text.toList = text.utf8ByteSize := by
  rw [← String.ofList_toList (s := text), String.toList_ofList]
  induction text.toList with
  | nil => rfl
  | cons c cs ih =>
    rw [byteLength, ih, String.ofList_cons, String.utf8ByteSize_append,
      String.utf8ByteSize_singleton]

@[simp] theorem byteLength_append (cs ds : List Char) :
    byteLength (cs ++ ds) = byteLength cs + byteLength ds := by
  induction cs with
  | nil => simp [byteLength]
  | cons c cs ih => simp [byteLength, ih, Nat.add_assoc]

/-- A run of characters without a blank, and the byte offset at which it starts. -/
structure Chunk where
  position : Nat
  text : List Char
  deriving DecidableEq, Repr

/-- Whether a character belongs to a chunk. -/
def inChunk (c : Char) : Bool := !isBlank c

/-- The chunks of a text that starts at byte `position`. -/
def chunks (position : Nat) : List Char → List Chunk
  | [] => []
  | c :: cs =>
    if isBlank c then chunks (position + c.utf8Size) cs
    else
      let run := c :: cs.takeWhile inChunk
      ⟨position, run⟩ :: chunks (position + byteLength run) (cs.dropWhile inChunk)
termination_by cs => cs.length
decreasing_by
  · simp
  · exact Nat.lt_succ_of_le (length_dropWhile_le _ _)

@[simp] theorem chunks_nil (position : Nat) : chunks position [] = [] := by
  rw [chunks]

theorem chunks_blank (position : Nat) {c : Char} (h : isBlank c = true) (cs : List Char) :
    chunks position (c :: cs) = chunks (position + c.utf8Size) cs := by
  rw [chunks, if_pos h]

theorem chunks_run (position : Nat) {c : Char} (h : isBlank c = false) (cs : List Char) :
    chunks position (c :: cs) =
      ⟨position, c :: cs.takeWhile inChunk⟩ ::
        chunks (position + byteLength (c :: cs.takeWhile inChunk)) (cs.dropWhile inChunk) := by
  rw [chunks, if_neg (by simp [h])]

end ForumQuery.Query
