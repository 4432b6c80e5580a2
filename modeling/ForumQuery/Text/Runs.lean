/-!
# Runs

A reader cuts a list into the longest run that satisfies a test and the rest, `takeWhile` and
`dropWhile`.  The rest is never longer than the whole, which is what lets it go on from there.
-/

namespace ForumQuery.Text

theorem length_dropWhile_le {α : Type} (p : α → Bool) (l : List α) :
    (l.dropWhile p).length ≤ l.length := by
  induction l with
  | nil => exact Nat.le_refl _
  | cons a l ih =>
    rw [List.dropWhile_cons]
    split
    · exact Nat.le_succ_of_le ih
    · exact Nat.le_refl _

end ForumQuery.Text
