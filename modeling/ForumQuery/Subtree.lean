import ForumQuery.Context

/-!
# Subtrees of categories

The categories that lie below some categories at any depth.  The search keeps the categories seen so
far and a stack of those whose children it has not asked for; a child joins both when it is first
seen.  So each category is asked about once, even where parents form a cycle, and the search ends
because every step takes one from what is left to see or to ask (`Frontier.toAsk`).
-/

namespace ForumQuery

/-- A search among categories. -/
structure Frontier where
  seen : RankedSet CategoryId
  /-- the categories still to ask about, the next one first -/
  pending : List CategoryId

namespace Frontier

/-- The search that starts at some categories, the last of them first. -/
def start (roots : RankedSet CategoryId) : Frontier := ⟨roots, roots.toList.reverse⟩

/-- Meets a category. -/
def meet (frontier : Frontier) (category : CategoryId) : Frontier :=
  if category ∈ frontier.seen then frontier
  else ⟨frontier.seen.insert category, category :: frontier.pending⟩

/-- The questions that are left, at most. -/
def toAsk (frontier : Frontier) : Nat := frontier.seen.room + frontier.pending.length

theorem toAsk_meet (frontier : Frontier) (category : CategoryId) :
    (frontier.meet category).toAsk = frontier.toAsk := by
  unfold meet
  split
  · rfl
  · next h =>
    have := RankedSet.room_insert h
    simp only [toAsk, List.length_cons]
    omega

theorem toAsk_foldl_meet (frontier : Frontier) (categories : List CategoryId) :
    (categories.foldl meet frontier).toAsk = frontier.toAsk := by
  induction categories generalizing frontier with
  | nil => rfl
  | cons category rest ih => rw [List.foldl_cons, ih, toAsk_meet]

/-- Carries a search to its end. -/
def search (context : Context) : Frontier → Consult (RankedSet CategoryId)
  | ⟨seen, []⟩ => pure seen
  | ⟨seen, category :: rest⟩ => do
    let children ← context.lookupChildren category
    search context (children.foldl meet ⟨seen, rest⟩)
termination_by frontier => frontier.toAsk
decreasing_by
  rw [toAsk_foldl_meet]
  simp [toAsk]

end Frontier

/-- Some categories and all that lie below them. -/
def Context.subtree (context : Context) (roots : RankedSet CategoryId) :
    Consult (RankedSet CategoryId) :=
  Frontier.search context (.start roots)

end ForumQuery
