import ForumQuery.Subtree
import Mathlib.Logic.Basic
import Mathlib.Logic.Relation

/-!
# Subtree — a search ends with all that lies below its roots

A category *has a child* if the lookup of its children finds it (`Context.HasChild`); a lookup that
fails finds none.  One category lies *below* another if there is a way down to it, of any length and
maybe of none (`Context.Below`).

A search *goes down from* some roots (`Frontier.GoesDownFrom`) if it has seen the roots, nothing but
what lies below them, and all children of the categories that it does not have to ask about any
more.  A step keeps this (`GoesDownFrom.step`), and when nothing is left to ask about, what was seen
is what lies below the roots (`Context.mem_subtree_iff`).
-/

namespace ForumQuery

namespace Context

/-- The lookup of the children of a category finds another. -/
def HasChild (context : Context) (parent child : CategoryId) : Prop :=
  child ∈ (context.lookupChildren parent).value

/-- There is a way down from a category to another, of no step or more. -/
def Below (context : Context) : CategoryId → CategoryId → Prop :=
  Relation.ReflTransGen context.HasChild

end Context

namespace Frontier

variable {frontier : Frontier} {category met : CategoryId}

/-! ### Meeting categories -/

theorem mem_seen_meet : category ∈ (frontier.meet met).seen ↔
    category ∈ frontier.seen ∨ category = met := by
  unfold meet
  split
  · next h => exact ⟨.inl, fun hc => hc.elim id fun e => e ▸ h⟩
  · rw [RankedSet.mem_insert, or_comm]

theorem mem_pending_meet : category ∈ (frontier.meet met).pending ↔
    category ∈ frontier.pending ∨ category = met ∧ met ∉ frontier.seen := by
  unfold meet
  split
  · next h => simp [h]
  · next h => simp [h, or_comm]

/-- What was seen after some categories were met: they and what was seen before. -/
theorem mem_seen_foldl_meet (categories : List CategoryId) :
    category ∈ (categories.foldl meet frontier).seen ↔
      category ∈ frontier.seen ∨ category ∈ categories := by
  induction categories generalizing frontier with
  | nil => simp
  | cons met rest ih => rw [List.foldl_cons, ih, mem_seen_meet, List.mem_cons, or_assoc]

/-- What is to be asked about after some categories were met: the new ones join it. -/
theorem mem_pending_foldl_meet (categories : List CategoryId) :
    category ∈ (categories.foldl meet frontier).pending ↔
      category ∈ frontier.pending ∨ category ∈ categories ∧ category ∉ frontier.seen := by
  induction categories generalizing frontier with
  | nil => simp
  | cons met rest ih =>
      rw [List.foldl_cons, ih, mem_pending_meet, mem_seen_meet, List.mem_cons]
      -- the category that was met first is not new any more when the others are
      by_cases hmet : category = met
      · subst hmet
        simp
      · simp [hmet]

/-! ### Searches -/

/-- A search on its way down from some roots. -/
structure GoesDownFrom (context : Context) (roots : RankedSet CategoryId) (frontier : Frontier) :
    Prop where
  roots_seen : ∀ root ∈ roots, root ∈ frontier.seen
  below : ∀ category ∈ frontier.seen, ∃ root ∈ roots, context.Below root category
  pending_seen : ∀ category ∈ frontier.pending, category ∈ frontier.seen
  asked : ∀ category ∈ frontier.seen, category ∉ frontier.pending →
    ∀ child, context.HasChild category child → child ∈ frontier.seen

variable {context : Context} {roots : RankedSet CategoryId}

theorem goesDownFrom_start (context : Context) (roots : RankedSet CategoryId) :
    (start roots).GoesDownFrom context roots where
  roots_seen _ h := h
  below root h := ⟨root, h, .refl⟩
  pending_seen _ h := List.mem_reverse.1 h
  asked _ h hp := absurd (List.mem_reverse.2 h) hp

/-- A search that asks about a category and meets its children stays on its way. -/
theorem GoesDownFrom.step {seen : RankedSet CategoryId} {asking : CategoryId}
    {rest : List CategoryId}
    (h : GoesDownFrom context roots ⟨seen, asking :: rest⟩) :
    GoesDownFrom context roots
      ((context.lookupChildren asking).value.foldl meet ⟨seen, rest⟩) := by
  constructor
  case roots_seen =>
    exact fun root hr => (mem_seen_foldl_meet _).2 (.inl (h.roots_seen root hr))
  case below =>
    intro category hc
    rcases (mem_seen_foldl_meet _).1 hc with hc | hc
    · exact h.below category hc
    · obtain ⟨root, hr, hbelow⟩ := h.below asking (h.pending_seen asking List.mem_cons_self)
      exact ⟨root, hr, hbelow.tail hc⟩
  case pending_seen =>
    intro category hc
    rw [mem_seen_foldl_meet]
    rcases (mem_pending_foldl_meet _).1 hc with hc | ⟨hc, -⟩
    · exact .inl (h.pending_seen category (List.mem_cons_of_mem _ hc))
    · exact .inr hc
  case asked =>
    intro category hc hp child hchild
    rw [mem_pending_foldl_meet, not_or, not_and_not_right] at hp
    rw [mem_seen_foldl_meet]
    by_cases ha : category = asking
    · exact .inr (ha ▸ hchild)
    -- any other category that is not pending now was not pending before
    · have hseen : category ∈ seen := ((mem_seen_foldl_meet _).1 hc).elim id hp.2
      exact .inl (h.asked category hseen (by simp [ha, hp.1]) child hchild)

/-- A search on its way down from some roots ends with all that lies below them. -/
theorem GoesDownFrom.mem_search_iff (h : frontier.GoesDownFrom context roots) :
    category ∈ (search context frontier).value ↔
      ∃ root ∈ roots, context.Below root category := by
  fun_induction search context frontier with
  | case1 seen =>
      refine ⟨h.below category, ?_⟩
      rintro ⟨root, hr, hbelow⟩
      induction hbelow with
      | refl => exact h.roots_seen root hr
      | tail _ hchild ih => exact h.asked _ ih List.not_mem_nil _ hchild
  | case2 seen asking rest ih =>
      rw [Consult.value_bind]
      exact ih _ h.step

end Frontier

/-- **The subtree of some categories** is all that lies below one of them. -/
theorem Context.mem_subtree_iff (context : Context) (roots : RankedSet CategoryId)
    (category : CategoryId) :
    category ∈ (context.subtree roots).value ↔ ∃ root ∈ roots, context.Below root category :=
  (Frontier.goesDownFrom_start context roots).mem_search_iff

/-- Where every category has the same children, subtrees are the same. -/
theorem Context.value_subtree_congr {first second : Context}
    (h : ∀ category, (first.lookupChildren category).value = (second.lookupChildren category).value)
    (roots : RankedSet CategoryId) : (first.subtree roots).value = (second.subtree roots).value := by
  have hchild : first.HasChild = second.HasChild := by
    funext parent child
    rw [HasChild, HasChild, h]
  refine RankedSet.ext fun category => ?_
  rw [mem_subtree_iff, mem_subtree_iff, Below, Below, hchild]

end ForumQuery
